import TypedSearch.Compile.Filter
import TypedSearch.Proofs.Outcome
import TypedSearch.Proofs.Request.Tree

/-!
What the compilation of filters depends on: what becomes of the conditions of a node, and how a
compiled node is put among the clauses of a conjunction. The compiler of a dataset takes the first
from the dataset and splices conjunctions.
-/

namespace TypedSearch

/-- What becomes of the conditions of a node: their clauses, or the problem that they have. -/
abbrev ConditionCompiler := Json.Entries → Except Problem (List Json)

namespace FilterNode

mutual

/-- Compiles a node, given what becomes of conditions and what a compiled node adds to a conjunction
that it is put in. -/
def compileWith (conditions : ConditionCompiler) (place : Compiled → List Json) :
    FilterNode → Except Problem Compiled
  | ⟨cond, all, any⟩ => do
    let own ← conditions (cond.getD [])
    let conjuncts ← compileAllWith conditions place all
    let alternatives ← compileAnyWith conditions place any
    return .ofClauses (own ++ conjuncts ++ alternatives.toList)
termination_by structural x => x

def compileAllWith (conditions : ConditionCompiler) (place : Compiled → List Json) :
    Option (List FilterNode) → Except Problem (List Json)
  | none => .ok []
  | some nodes => compileConjunctsWith conditions place nodes
termination_by structural x => x

def compileAnyWith (conditions : ConditionCompiler) (place : Compiled → List Json) :
    Option (List FilterNode) → Except Problem (Option Json)
  | none | some [] => .ok none
  | some (node :: rest) => do
    return (← compileAlternativesWith conditions place (node :: rest)).map Clause.disjunction
termination_by structural x => x

def compileConjunctsWith (conditions : ConditionCompiler) (place : Compiled → List Json) :
    List FilterNode → Except Problem (List Json)
  | [] => .ok []
  | node :: rest => do
    let compiled ← compileWith conditions place node
    return place compiled ++ (← compileConjunctsWith conditions place rest)
termination_by structural x => x

def compileAlternativesWith (conditions : ConditionCompiler) (place : Compiled → List Json) :
    List FilterNode → Except Problem (Option (List Json))
  | [] => .ok (some [])
  | node :: rest => do
    match ← compileWith conditions place node with
    | .vacuous => return none
    | .query clause =>
      return (← compileAlternativesWith conditions place rest).map (clause :: ·)
termination_by structural x => x

end

end FilterNode

namespace Dataset

open FilterNode

variable {dataset : Dataset} {registry : Registry} {nodes : List FilterNode}

/-- The query of a filter, given what a compiled node adds to a conjunction that it is put in. -/
def compileFilterWith (dataset : Dataset) (registry : Registry) (place : Compiled → List Json)
    (filter : Option FilterNode) : Except Problem Json :=
  match filter with
  | none => .ok Compiled.vacuous.toQuery
  | some node => do
    return (← node.compileWith (dataset.conditionsClauses registry) place).toQuery

/-- Nodes compile as they do with their dataset, where conjunctions are spliced. -/
def Follows (dataset : Dataset) (registry : Registry) (node : FilterNode) : Prop :=
  dataset.compileNode registry node =
    node.compileWith (dataset.conditionsClauses registry) Compiled.spliced

theorem conjuncts_follow (children : ∀ child ∈ nodes, dataset.Follows registry child) :
    dataset.compileConjuncts registry nodes =
      compileConjunctsWith (dataset.conditionsClauses registry) Compiled.spliced nodes := by
  induction nodes with
  | nil => rfl
  | cons node rest ih =>
    obtain ⟨first, others⟩ := List.forall_mem_cons.mp children
    rw [compileConjuncts, compileConjunctsWith, first, ih others]

theorem alternatives_follow (children : ∀ child ∈ nodes, dataset.Follows registry child) :
    dataset.compileAlternatives registry nodes =
      compileAlternativesWith (dataset.conditionsClauses registry) Compiled.spliced nodes := by
  induction nodes with
  | nil => rfl
  | cons node rest ih =>
    obtain ⟨first, others⟩ := List.forall_mem_cons.mp children
    rw [compileAlternatives, compileAlternativesWith, first]
    cases node.compileWith (dataset.conditionsClauses registry) Compiled.spliced with
    | error problem => rfl
    | ok compiled =>
      cases compiled with
      | vacuous => rfl
      | query clause =>
        exact congrArg (· >>= fun queries => .ok (queries.map (clause :: ·))) (ih others)

theorem compileNode_follows (node : FilterNode) : dataset.Follows registry node := by
  induction node using tree_induction with
  | node cond all any inAll inAny =>
    have conjuncts : dataset.compileAll registry all =
        compileAllWith (dataset.conditionsClauses registry) Compiled.spliced all := by
      cases all with
      | none => rfl
      | some nodes => exact conjuncts_follow inAll
    have alternatives : dataset.compileAny registry any =
        compileAnyWith (dataset.conditionsClauses registry) Compiled.spliced any := by
      match any with
      | none | some [] => rfl
      | some (node :: rest) =>
        have queries : dataset.compileAlternatives registry (node :: rest) = _ :=
          alternatives_follow inAny
        rw [compileAny, compileAnyWith, queries]
    rw [Follows, compileNode, compileWith, conjuncts, alternatives]

/-- The compiler of a dataset is the one that splices. -/
theorem compileFilterWith_spliced (filter : Option FilterNode) :
    dataset.compileFilterWith registry Compiled.spliced filter =
      dataset.compileFilter registry filter := by
  cases filter with
  | none => rfl
  | some node =>
    have follows : dataset.compileNode registry node = _ := compileNode_follows node
    rw [compileFilterWith, compileFilter, follows]

end Dataset

end TypedSearch
