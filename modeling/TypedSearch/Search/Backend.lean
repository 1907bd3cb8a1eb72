import TypedSearch.Search.Store

/-!
The calls of the backend in memory (`MemoryBackend`), as programs over its state. A call that fails
leaves the state as it was at that point.

The indices lie behind a lock. A panic while a call holds it poisons it, and every later call that asks
for the lock is refused; a new index without mappings is refused before that. What is assumed of the
lock is that calls are carried out one after the other and that nothing else poisons it.
-/

namespace TypedSearch

structure Backend where
  store : Store
  /-- Whether a call panicked while it held the lock. -/
  poisoned : Bool
  deriving DecidableEq

namespace Backend

/-- The backend without indices. -/
def fresh : Backend := ⟨.empty, false⟩

abbrev Call (α : Type) := ExceptT SearchFailure (StateM Backend) α

def panics {α : Type} : Except SearchFailure α → Bool
  | .ok _ => false
  | .error failure => failure.isPanic

/-- `lock`, and what is done with the indices until the lock is given back. -/
def locked {α : Type} (work : ExceptT SearchFailure (StateM Store) α) : Call α := do
  let backend ← get
  if backend.poisoned then throw (.refused (.backend .poisoned))
  let (outcome, store) := work.run.run backend.store
  set (Backend.mk store (panics outcome))
  let answer ← outcome
  return answer

/-- Adds documents to an index, which is created without properties if need be. -/
def extend (name : String) (documents : List Json) : Call Unit :=
  locked (modify fun store => store.extend name documents)

def insert (name : String) (document : Json) : Call Unit := extend name [document]

/-- Gives an index the mapping of a body. -/
def createIndex (name : String) (body : Json) : Call Unit :=
  match body.get? "mappings" with
  | none => throw (.refused (.backend (.noMappings name)))
  | some mapping => locked (modify fun store => store.setMapping name mapping)

def search (sorter : Sorter) (name : String) (request : SearchRequest) : Call (List Json) :=
  locked do
    let hits ← (← get).search sorter name request
    return hits

def size (name : String) : Call Nat := locked do return (← get).size name

def mapping? (name : String) : Call (Option Json) := locked do return (← get).mapping? name

def names : Call (List String) := locked do return (← get).names

end Backend

end TypedSearch
