import TypedSearch.Compile.Filter
import TypedSearch.Request.Arguments

/-!
Orders compiled to sort clauses (`compile_order`), and whole requests (`compile_search`). The entries
of the order list come one after the other, each with its keys as the client wrote them; a null, an
unknown name and a member that cannot be sorted by add nothing.
-/

namespace TypedSearch

def Member.sortClauses (member : Member) (registry : Registry) (params : Json) :
    Except Problem (Option (List Json)) :=
  match member with
  | .stored field => registry.sort field.type member.path params
  | .computed _ field => field.sort.resolve ⟨registry, field.resultType, member.path⟩ params

namespace Dataset

/-- The sort clauses of one key of an order. -/
def orderClauses (dataset : Dataset) (registry : Registry) (key : String × Json) :
    Except Problem (List Json) :=
  if key.2.isNull then .ok []
  else
    match dataset.member? key.1 with
    | none => .ok []
    | some member => do return (← member.sortClauses registry key.2).getD []

/-- The sort clauses of keys in order. -/
def keysClauses (dataset : Dataset) (registry : Registry) :
    Json.Entries → Except Problem (List Json)
  | [] => .ok []
  | key :: rest => do
    let clauses ← dataset.orderClauses registry key
    return clauses ++ (← keysClauses dataset registry rest)

/-- The sort clauses of an order list. -/
def compileOrder (dataset : Dataset) (registry : Registry) (order : List Json.Entries) :
    Except Problem (List Json) :=
  dataset.keysClauses registry order.flatten

/-- The request that a client's arguments compile to; a sort without clauses is left out. -/
def compileSearch (dataset : Dataset) (registry : Registry) (arguments : DatasetArguments) :
    Except Problem SearchRequest := do
  let query ← dataset.compileFilter registry arguments.filter
  let sort ← dataset.compileOrder registry (arguments.order.getD [])
  return ⟨query, if sort.isEmpty then none else some sort⟩

end Dataset

end TypedSearch
