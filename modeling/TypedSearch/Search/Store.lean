import TypedSearch.Request.Arguments
import TypedSearch.Search.Order
import TypedSearch.Table

/-!
What a search backend in memory holds (`IndexState`): indices by name, each with a mapping and its
documents in the order in which they came.
-/

namespace TypedSearch

/-- The mapping without properties. -/
def emptyMapping : Json := .single "properties" (.object [])

structure Index where
  mapping : Json := emptyMapping
  documents : List Json := []
  deriving DecidableEq

/-- Searches the documents of an index; without a sort they keep their order. -/
def Index.search (sorter : Sorter) (index : Index) (request : SearchRequest) :
    Except SearchFailure (List Json) := do
  let view := MappingView.ofMapping index.mapping
  let hits ← (index.documents.filterM (Matcher.test view request.query)).mapError
    SearchFailure.refused
  match request.sort with
  | none => return hits
  | some clauses => sortDocuments sorter view clauses hits

structure Store where
  indices : Table Index
  deriving DecidableEq

namespace Store

/-- The store without indices. -/
def empty : Store := ⟨.empty⟩

/-- The index of a name; one that is not there is as good as an empty one. -/
def indexOrEmpty (store : Store) (name : String) : Index := (store.indices.get? name).getD {}

/-- Changes an index, which is created without properties if need be. -/
def update (store : Store) (name : String) (change : Index → Index) : Store :=
  ⟨store.indices.insert name (change (store.indexOrEmpty name))⟩

/-- Puts documents behind those of an index. -/
def extend (store : Store) (name : String) (documents : List Json) : Store :=
  store.update name fun index => { index with documents := index.documents ++ documents }

/-- Gives an index a mapping, keeping its documents. -/
def setMapping (store : Store) (name : String) (mapping : Json) : Store :=
  store.update name fun index => { index with mapping }

def size (store : Store) (name : String) : Nat := (store.indexOrEmpty name).documents.length

def mapping? (store : Store) (name : String) : Option Json :=
  (store.indices.get? name).map (·.mapping)

/-- The names of the indices in ascending order. -/
def names (store : Store) : List String := store.indices.names

def search (sorter : Sorter) (store : Store) (name : String) (request : SearchRequest) :
    Except SearchFailure (List Json) :=
  match store.indices.get? name with
  | none => .error (.refused (.backend (.noIndex name)))
  | some index => index.search sorter request

end Store

end TypedSearch
