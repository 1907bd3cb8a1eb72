import TypedSearch.Search.Matcher
import TypedSearch.Search.Sorter

/-!
Documents in the order of sort clauses (`parse_sort`, `sort_documents`). Sorting is stable; a clause
that does not tell two documents apart leaves it to the next one, and a document without the value comes
after those that have it, whatever the direction. Values that cannot be compared count as equal, so the
order need not be consistent on documents that have such values, and then nothing is promised: the
documents may come out in any arrangement, and the sort may panic.
-/

namespace TypedSearch

structure SortKey where
  target : Target
  /-- Whether the greatest comes first. -/
  descending : Bool
  deriving DecidableEq, Repr

namespace SortKey

/-- The field and the specification of a sort clause, the latter null for a bare name. -/
def parts : Json → Except SearchError (String × Json)
  | .string field => .ok (field, .null)
  | clause => Matcher.single "sort" clause

def ofClause (view : MappingView) (clause : Json) : Except SearchError SortKey := do
  let (field, specification) ← parts clause
  if field.toList.head? = some '_' then throw (.unsupported (.sort field))
  match Matcher.param "order" specification with
  | .string "desc" => return ⟨.ofField view field, true⟩
  | .string "asc" => return ⟨.ofField view field, false⟩
  | .string _ => throw (Matcher.malformed "sort" clause)
  | _ => return ⟨.ofField view field, false⟩

/-- The order of two documents by one key. -/
def order (key : SortKey) (left right : Json) : Ordering :=
  match left.atPath? key.target.path, right.atPath? key.target.path with
  | none, none => .eq
  | none, some _ => .gt
  | some _, none => .lt
  | some x, some y =>
    let ordering := (key.target.order? x y).getD .eq
    if key.descending then ordering.swap else ordering

/-- The order of two documents by keys, an earlier key taking precedence. -/
def orderAll (keys : List SortKey) (left right : Json) : Ordering :=
  match keys with
  | [] => .eq
  | key :: rest => (key.order left right).then (orderAll rest left right)

end SortKey

/-- `sort_documents`: sorts the documents held in the state. The clauses are read before any document is
moved. -/
def sortInPlace (sorter : Sorter) (view : MappingView) (clauses : List Json) :
    ExceptT SearchFailure (StateM (List Json)) Unit := do
  let keys ← (clauses.mapM (SortKey.ofClause view)).mapError SearchFailure.refused
  match sorter.sort (SortKey.orderAll keys) (← get) with
  | .finished documents => set documents
  | .panicked documents => do
    set documents
    throw .panicked

/-- The documents that a sort leaves behind if it does not fail. Where the order of the clauses is not
consistent on the documents, that depends on the sorter, as does whether it panics. -/
def sortDocuments (sorter : Sorter) (view : MappingView) (clauses documents : List Json) :
    Except SearchFailure (List Json) :=
  match (sortInPlace sorter view clauses).run.run documents with
  | (.ok (), sorted) => .ok sorted
  | (.error failure, _) => .error failure

end TypedSearch
