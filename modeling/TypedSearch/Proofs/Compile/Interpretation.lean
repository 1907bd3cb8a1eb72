import TypedSearch.Compile.Filter
import TypedSearch.Proofs.Outcome
import TypedSearch.Proofs.Request.Tree

/-!
What a compiled filter says about any property of clauses under which conjunctions and disjunctions
mean what they are called. Under each such interpretation the compiled filter says what the tree says,
so neither the splicing of conjunctions nor the shortcuts for vacuous nodes can be told from the
outside.
-/

namespace TypedSearch

open Outcome FilterNode

variable {sound holds : Json → Prop} {clauses others : List Json}

/-- A property of clauses under which conjunctions and disjunctions of sound clauses are sound and
mean what they are called. -/
structure Interpretation (sound holds : Json → Prop) : Prop where
  /-- A conjunction holds if all its clauses do. -/
  conjunction {clauses : List Json} (clause : clauses ≠ []) (each : ∀ c ∈ clauses, sound c) :
    sound (Clause.conjunction clauses) ∧
      (holds (Clause.conjunction clauses) ↔ ∀ c ∈ clauses, holds c)
  /-- A disjunction holds if some clause does. -/
  disjunction {clauses : List Json} (choice : clauses ≠ []) (each : ∀ c ∈ clauses, sound c) :
    sound (Clause.disjunction clauses) ∧
      (holds (Clause.disjunction clauses) ↔ ∃ c ∈ clauses, holds c)

/-- Sound clauses that all hold exactly if a claim does. -/
structure Express (sound holds : Json → Prop) (clauses : List Json) (claim : Prop) : Prop where
  /-- Each clause is sound. -/
  each : ∀ clause ∈ clauses, sound clause
  /-- Together the clauses say what the claim does. -/
  exactly : (∀ clause ∈ clauses, holds clause) ↔ claim

/-- The queries of a number of alternatives, if there are any, hold somewhere exactly if a claim does;
if there are none then the claim does anyway. -/
def ExpressChoice (sound holds : Json → Prop) (count : Nat) (claim : Prop) :
    Option (List Json) → Prop
  | none => claim
  | some queries => queries.length = count ∧ (∀ query ∈ queries, sound query) ∧
      ((∃ query ∈ queries, holds query) ↔ claim)

theorem express_nothing {claim : Prop} (true : claim) : Express sound holds [] claim :=
  ⟨by simp, by simp [true]⟩

theorem express_append {left right : Prop} (first : Express sound holds clauses left)
    (second : Express sound holds others right) :
    Express sound holds (clauses ++ others) (left ∧ right) := by
  refine ⟨fun clause member => ?_, ?_⟩
  · rcases List.mem_append.mp member with member | member
    · exact first.each clause member
    · exact second.each clause member
  · rw [← first.exactly, ← second.exactly]
    exact List.forall_mem_append

namespace Compiled

@[simp] theorem spliced_ofClauses (clauses : List Json) : (ofClauses clauses).spliced = clauses := by
  cases clauses with
  | nil => rfl
  | cons clause rest => rfl

theorem ofClauses_eq_vacuous : ofClauses clauses = vacuous ↔ clauses = [] := by
  cases clauses with
  | nil => simp [ofClauses]
  | cons clause rest => simp [ofClauses]

end Compiled

namespace Dataset

variable {dataset : Dataset} {registry : Registry}

/-- A condition is met if all clauses that its member makes of it hold. -/
def Meets (dataset : Dataset) (registry : Registry) (holds : Json → Prop)
    (condition : String × Json) : Prop :=
  ∃ clauses, dataset.conditionClauses registry condition = .ok clauses ∧
    ∀ clause ∈ clauses, holds clause

/-- The clauses of a compiled node say what the node says of its conditions. -/
def ReadsAs (dataset : Dataset) (registry : Registry) (sound holds : Json → Prop)
    (node : FilterNode) : Prop :=
  ∀ compiled, dataset.compileNode registry node = .ok compiled →
    ∃ clauses, compiled = .ofClauses clauses ∧
      Express sound holds clauses (Satisfied (dataset.Meets registry holds) node)

theorem compileAll_eq (all : Option (List FilterNode)) :
    dataset.compileAll registry all = dataset.compileConjuncts registry (all.getD []) := by
  cases all <;> rfl

/-- A node compiles to the clauses of its three parts in order. -/
theorem compileNode_eq_ok {cond : Option Json.Entries} {all any : Option (List FilterNode)}
    {compiled : Compiled} :
    dataset.compileNode registry ⟨cond, all, any⟩ = .ok compiled ↔
      ∃ conditions conjuncts alternatives,
        dataset.conditionsClauses registry (cond.getD []) = .ok conditions ∧
        dataset.compileConjuncts registry (all.getD []) = .ok conjuncts ∧
        dataset.compileAny registry any = .ok alternatives ∧
        .ofClauses (conditions ++ conjuncts ++ alternatives.toList) = compiled := by
  simp only [compileNode, bind_eq_ok, compileAll_eq, pure_eq_ok, Except.ok.injEq,
    exists_and_left]

theorem conditions_express {conditions : Json.Entries} {clauses : List Json}
    (grounded : ∀ condition found, dataset.conditionClauses registry condition = .ok found →
      ∀ clause ∈ found, sound clause)
    (ran : dataset.conditionsClauses registry conditions = .ok clauses) :
    Express sound holds clauses
      (∀ condition ∈ conditions, dataset.Meets registry holds condition) := by
  induction conditions generalizing clauses with
  | nil =>
    cases ran
    exact express_nothing (by simp)
  | cons condition rest ih =>
    obtain ⟨found, first, ran⟩ := bind_eq_ok.mp ran
    obtain ⟨others, ranRest, joined⟩ := bind_eq_ok.mp ran
    cases joined
    have own : Express sound holds found (dataset.Meets registry holds condition) := by
      refine ⟨grounded condition found first, fun all => ⟨found, first, all⟩, ?_⟩
      rintro ⟨same, again, all⟩
      rw [first] at again
      cases again
      exact all
    rw [List.forall_mem_cons]
    exact express_append own (ih ranRest)

theorem conjuncts_express {nodes : List FilterNode} {clauses : List Json}
    (children : ∀ child ∈ nodes, dataset.ReadsAs registry sound holds child)
    (ran : dataset.compileConjuncts registry nodes = .ok clauses) :
    Express sound holds clauses
      (∀ child ∈ nodes, Satisfied (dataset.Meets registry holds) child) := by
  induction nodes generalizing clauses with
  | nil =>
    cases ran
    exact express_nothing (by simp)
  | cons node rest ih =>
    rw [compileConjuncts] at ran
    obtain ⟨compiled, first, ran⟩ := bind_eq_ok.mp ran
    obtain ⟨others, ranRest, joined⟩ := bind_eq_ok.mp ran
    cases joined
    obtain ⟨found, rfl, own⟩ := children node List.mem_cons_self compiled first
    rw [List.forall_mem_cons, Compiled.spliced_ofClauses]
    exact express_append own
      (ih (fun child member => children child (List.mem_cons_of_mem _ member)) ranRest)

/-- Alternatives compile to one query each, unless one of them is satisfied by no clause at all. -/
theorem alternatives_express (interpretation : Interpretation sound holds) {nodes : List FilterNode}
    {queries : Option (List Json)}
    (children : ∀ child ∈ nodes, dataset.ReadsAs registry sound holds child)
    (ran : dataset.compileAlternatives registry nodes = .ok queries) :
    ExpressChoice sound holds nodes.length
      (∃ child ∈ nodes, Satisfied (dataset.Meets registry holds) child) queries := by
  induction nodes generalizing queries with
  | nil =>
    cases ran
    simp [ExpressChoice]
  | cons node rest ih =>
    rw [compileAlternatives] at ran
    obtain ⟨compiled, first, ran⟩ := bind_eq_ok.mp ran
    obtain ⟨found, rfl, own⟩ := children node List.mem_cons_self compiled first
    cases found with
    | nil =>
      -- No clause is left to hold, so the alternative is satisfied and settles the choice.
      cases ran
      exact ⟨node, List.mem_cons_self, own.exactly.mp (by simp)⟩
    | cons clause found =>
      obtain ⟨others, ranRest, joined⟩ := bind_eq_ok.mp ran
      cases joined
      have later := ih (fun child member => children child (List.mem_cons_of_mem _ member)) ranRest
      obtain ⟨query, same⟩ := interpretation.conjunction (List.cons_ne_nil clause found) own.each
      rw [own.exactly] at same
      cases others with
      | none =>
        obtain ⟨child, member, satisfied⟩ := later
        exact ⟨child, List.mem_cons_of_mem _ member, satisfied⟩
      | some others =>
        obtain ⟨length, each, exactly⟩ := later
        refine ⟨by simp [length], List.forall_mem_cons.mpr ⟨query, each⟩, ?_⟩
        simp only [List.mem_cons, exists_eq_or_imp, same, exactly]

/-- A list of alternatives says that there is none or that some alternative is satisfied. -/
theorem choice_express (interpretation : Interpretation sound holds) {any : Option (List FilterNode)}
    {alternatives : Option Json}
    (children : ∀ child ∈ any.getD [], dataset.ReadsAs registry sound holds child)
    (ran : dataset.compileAny registry any = .ok alternatives) :
    Express sound holds alternatives.toList (any.getD [] = [] ∨
      ∃ child ∈ any.getD [], Satisfied (dataset.Meets registry holds) child) := by
  match any with
  | none | some [] =>
    cases ran
    exact express_nothing (.inl rfl)
  | some (node :: rest) =>
    rw [compileAny] at ran
    obtain ⟨queries, ranQueries, joined⟩ := bind_eq_ok.mp ran
    cases joined
    have each : ∀ child ∈ node :: rest, dataset.ReadsAs registry sound holds child := children
    have meaning := alternatives_express interpretation each ranQueries
    cases queries with
    | none => exact express_nothing (.inr meaning)
    | some queries =>
      obtain ⟨length, each, exactly⟩ := meaning
      have choice : queries ≠ [] := by
        rintro rfl
        simp at length
      obtain ⟨query, same⟩ := interpretation.disjunction choice each
      rw [exactly] at same
      exact ⟨by simpa using query, by simpa using same⟩

/-- Under every interpretation a filter that compiles says exactly what its tree says. -/
theorem compiled_reads_as_tree (interpretation : Interpretation sound holds)
    (grounded : ∀ condition found, dataset.conditionClauses registry condition = .ok found →
      ∀ clause ∈ found, sound clause) (tree : FilterNode) :
    dataset.ReadsAs registry sound holds tree := by
  induction tree using FilterNode.tree_induction with
  | node cond all any inAll inAny =>
    intro compiled ran
    obtain ⟨conditions, conjuncts, alternatives, own, conjoined, chosen, rfl⟩ :=
      compileNode_eq_ok.mp ran
    refine ⟨_, rfl, ?_⟩
    rw [satisfied_iff, ← and_assoc]
    exact express_append
      (express_append (conditions_express grounded own) (conjuncts_express inAll conjoined))
      (choice_express interpretation inAny chosen)

end Dataset

end TypedSearch
