import TypedSearch.Definitions
import TypedSearch.Schema.Path

/-!
Capabilities (`Capability`): what a type can do on one surface. A capability is absent, always the
same, or computed from the place where it is asked for (`Site`) and from what the client gave. An
absent capability and a computed answer of nothing both leave the type out of the surface (`resolve`).

What is assumed is that a computed capability is a function of the two, without a state of its own.
-/

namespace TypedSearch

/-- What a type can do on one surface, for places `σ`, client parameters `π` and answers `α`. -/
inductive Capability (σ π α : Type) where
  | absent
  | constant (value : α)
  | computed (answer : σ → π → Except Problem (Option α))

namespace Capability

variable {σ π α : Type}

def resolve (capability : Capability σ π α) (site : σ) (params : π) : Except Problem (Option α) :=
  match capability with
  | absent => .ok none
  | constant value => .ok (some value)
  | computed answer => answer site params

def isAbsent : Capability σ π α → Bool
  | absent => true
  | _ => false

def kind : Capability σ π α → String
  | absent => "Absent"
  | constant _ => "Constant"
  | computed _ => "Computed"

end Capability

/-- A field of a record, with the answer of its own handler. -/
structure Part (π α : Type) where
  field : SchemaField
  answer : π → Except Problem (Option α)

/-- The place where a handler is asked: a type, the path to it and, for a record, its parts. -/
structure Site (π α : Type) where
  type : SchemaType
  path : FieldPath
  /-- The fields of the record, in order, with their answers. -/
  parts : List (Part π α)

abbrev HandlerCapability (π α : Type) := Capability (Site π α) π α

/-- The capabilities that govern the types a handler selects. -/
structure Handler where
  name : String
  selects : SchemaType → FieldPath → Bool
  field : HandlerCapability Unit (Emitted TypeRef) := .absent
  filterArg : HandlerCapability Unit (Emitted TypeRef) := .absent
  orderArg : HandlerCapability Unit (Emitted TypeRef) := .absent
  mapping : HandlerCapability Unit Json := .absent
  filter : HandlerCapability Json (List Json) := .absent
  sort : HandlerCapability Json (List Json) := .absent

def Handler.description (handler : Handler) : String :=
  let flags :=
    [("field", handler.field.isAbsent), ("filter_arg", handler.filterArg.isAbsent),
      ("order_arg", handler.orderArg.isAbsent), ("mapping", handler.mapping.isAbsent),
      ("filter", handler.filter.isAbsent), ("sort", handler.sort.isAbsent)]
  let shown := flags.map fun (flag, missing) => s!"{flag}: {!missing}"
  "Handler \x7b name: " ++ Text.shown handler.name ++ ", " ++ Text.joined ", " shown ++ " \x7d"

end TypedSearch
