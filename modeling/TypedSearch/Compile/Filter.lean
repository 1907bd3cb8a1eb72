import TypedSearch.Catalog.Dataset
import TypedSearch.Request.FilterNode

/-!
Filters compiled to queries (`FilterCompiler`). Every clause stands in a conjunction; a node whose list
of alternatives is not empty adds one disjunction to it (`compile_node`). A node without any clause is
vacuous, a vacuous alternative makes its disjunction vacuous (`compile_or`), and a vacuous filter
matches every document. Conjunctions inside a conjunction are spliced into it.
-/

namespace TypedSearch

inductive Compiled where
  | vacuous
  | query (clause : Json)
  deriving DecidableEq

namespace Compiled

/-- The conjunction of clauses, vacuous if there are none. -/
def ofClauses (clauses : List Json) : Compiled :=
  if clauses.isEmpty then vacuous else query (Clause.conjunction clauses)

/-- The clauses that a node adds to a conjunction it stands in. -/
def spliced : Compiled → List Json
  | vacuous => []
  | query clause => (Clause.conjunctionClauses? clause).getD [clause]

def toQuery : Compiled → Json
  | vacuous => Clause.matchAll
  | query clause => clause

end Compiled

def Member.filterClauses (member : Member) (registry : Registry) (params : Json) :
    Except Problem (Option (List Json)) :=
  match member with
  | .stored field => registry.filter field.type member.path params
  | .computed _ field => field.filter.resolve ⟨registry, field.resultType, member.path⟩ params

namespace Dataset

/-- The clauses of one condition. A null condition and an unknown name add none. -/
def conditionClauses (dataset : Dataset) (registry : Registry) (condition : String × Json) :
    Except Problem (List Json) :=
  if condition.2.isNull then .ok []
  else
    match dataset.member? condition.1 with
    | none => .ok []
    | some member => do return (← member.filterClauses registry condition.2).getD []

/-- The clauses of conditions in the client's order. -/
def conditionsClauses (dataset : Dataset) (registry : Registry) :
    Json.Entries → Except Problem (List Json)
  | [] => .ok []
  | condition :: rest => do
    let clauses ← dataset.conditionClauses registry condition
    return clauses ++ (← conditionsClauses dataset registry rest)

mutual

/-- Compiles a node: its conditions, then the nodes that must hold, then the alternatives. -/
def compileNode (dataset : Dataset) (registry : Registry) : FilterNode → Except Problem Compiled
  | ⟨cond, all, any⟩ => do
    let conditions ← dataset.conditionsClauses registry (cond.getD [])
    let conjuncts ← compileAll dataset registry all
    let alternatives ← compileAny dataset registry any
    return .ofClauses (conditions ++ conjuncts ++ alternatives.toList)
termination_by structural x => x

/-- The clauses of the nodes that must all hold, none if there is no list. -/
def compileAll (dataset : Dataset) (registry : Registry) :
    Option (List FilterNode) → Except Problem (List Json)
  | none => .ok []
  | some nodes => compileConjuncts dataset registry nodes
termination_by structural x => x

/-- The disjunction of alternatives. There is none without a list or with an empty one. -/
def compileAny (dataset : Dataset) (registry : Registry) :
    Option (List FilterNode) → Except Problem (Option Json)
  | none | some [] => .ok none
  | some (node :: rest) => do
    return (← compileAlternatives dataset registry (node :: rest)).map Clause.disjunction
termination_by structural x => x

def compileConjuncts (dataset : Dataset) (registry : Registry) :
    List FilterNode → Except Problem (List Json)
  | [] => .ok []
  | node :: rest => do
    let compiled ← compileNode dataset registry node
    return compiled.spliced ++ (← compileConjuncts dataset registry rest)
termination_by structural x => x

/-- The queries of alternatives, or nothing once one of them is vacuous; those after it are not
looked at. -/
def compileAlternatives (dataset : Dataset) (registry : Registry) :
    List FilterNode → Except Problem (Option (List Json))
  | [] => .ok (some [])
  | node :: rest => do
    match ← compileNode dataset registry node with
    | .vacuous => return none
    | .query clause => return (← compileAlternatives dataset registry rest).map (clause :: ·)
termination_by structural x => x

end

/-- The query of a filter; without a filter every document matches. -/
def compileFilter (dataset : Dataset) (registry : Registry) (filter : Option FilterNode) :
    Except Problem Json :=
  match filter with
  | none => .ok Compiled.vacuous.toQuery
  | some node => do return (← dataset.compileNode registry node).toQuery

end Dataset

end TypedSearch
