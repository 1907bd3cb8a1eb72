import TypedSearch.Api.Types
import TypedSearch.Problem
import TypedSearch.Table

/-!
Definition tables (`Definitions`): the named types that a generated part of the API needs. Tables are
joined wherever parts are put together, so a type that is reached in many ways is listed once. A type
that refers to itself is declared first and populated once its shape is known (`Pending`). A part with
its table is an `Emitted` part.
-/

namespace TypedSearch

inductive Slot where
  /-- A name without a shape yet. -/
  | declared
  | defined (type : NamedType)
  deriving DecidableEq, Repr

structure Definitions where
  slots : Table Slot
  deriving DecidableEq

/-- A declared type that has no shape yet. -/
structure Pending where
  name : String
  deriving DecidableEq, Repr

namespace Definitions

/-- The table without types. -/
def empty : Definitions := ⟨.empty⟩

def insert (table : Definitions) (type : NamedType) : Definitions :=
  ⟨table.slots.insert type.name (.defined type)⟩

def of (type : NamedType) : Definitions := empty.insert type

def size (table : Definitions) : Nat := table.slots.size

/-- Whether there is no name. -/
def isEmpty (table : Definitions) : Bool := table.slots.isEmpty

def contains (table : Definitions) (name : String) : Bool := table.slots.contains name

/-- The type of a name, if it is defined. -/
def get? (table : Definitions) (name : String) : Option NamedType :=
  match table.slots.get? name with
  | some (.defined type) => some type
  | _ => none

/-- The names in ascending order. -/
def names (table : Definitions) : List String := table.slots.names

/-- Joins one slot to a table: a type replaces what is there, a declaration only fills a gap. -/
def mergeSlot (slots : Table Slot) (entry : String × Slot) : Table Slot :=
  match entry.2 with
  | .defined _ => slots.insert entry.1 entry.2
  | .declared => if slots.contains entry.1 then slots else slots.insert entry.1 .declared

/-- Joins two tables, the second winning where both define a name. -/
def merge (left right : Definitions) : Definitions :=
  ⟨right.slots.entries.foldl mergeSlot left.slots⟩

/-- Whether a slot defines a name that the table defines otherwise. -/
def clashes (table : Definitions) (entry : String × Slot) : Bool :=
  match table.slots.get? entry.1, entry.2 with
  | some (.defined ours), .defined theirs => decide (ours ≠ theirs)
  | _, _ => false

/-- Joins two tables unless they define a name differently; the first such name is reported. -/
def mergeChecked (left right : Definitions) : Except Problem Definitions :=
  match right.slots.entries.find? left.clashes with
  | some entry => .error (.collision (.type entry.1))
  | none => .ok (left.merge right)

/-- Declares a name that is not in the table. -/
def declare (table : Definitions) (name : String) : Except Problem (Definitions × Pending) :=
  if table.contains name then .error (.collision (.type name))
  else .ok (⟨table.slots.insert name .declared⟩, ⟨name⟩)

def slotType (entry : String × Slot) : Except Problem NamedType :=
  match entry.2 with
  | .defined type => .ok type
  | .declared => .error (.undefinedType entry.1)

/-- The types in the order of their names; every declared one must be populated. -/
def finish (table : Definitions) : Except Problem (List NamedType) :=
  table.slots.entries.mapM slotType

end Definitions

namespace Pending

def reference (pending : Pending) : TypeRef := .named pending.name

def populate (pending : Pending) (body : TypeBody) (table : Definitions) : Definitions :=
  table.insert ⟨pending.name, body⟩

end Pending

structure Emitted (α : Type) where
  value : α
  definitions : Definitions
  deriving DecidableEq

namespace Emitted

variable {α β : Type}

/-- A part that needs no types. -/
def bare (value : α) : Emitted α := ⟨value, .empty⟩

/-- The part changed, with the same types. -/
def map (change : α → β) (part : Emitted α) : Emitted β := ⟨change part.value, part.definitions⟩

/-- A part made from another, with the types of both. -/
def bind (part : Emitted α) (next : α → Emitted β) : Emitted β :=
  let made := next part.value
  ⟨made.value, part.definitions.merge made.definitions⟩

/-- Parts put in a list, with the types of all. -/
def collect (parts : List (Emitted α)) : Emitted (List α) :=
  ⟨parts.map (·.value), parts.foldl (fun table part => table.merge part.definitions) .empty⟩

/-- A type registered among the types it needs, as a reference. -/
def includeSelf (part : Emitted NamedType) : Emitted TypeRef :=
  ⟨part.value.reference, part.definitions.insert part.value⟩

def finish (part : Emitted TypeRef) : Except Problem (TypeRef × List NamedType) := do
  return (part.value, ← part.definitions.finish)

end Emitted

end TypedSearch
