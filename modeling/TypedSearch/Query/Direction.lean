import TypedSearch.Definitions
import TypedSearch.Schema.Path

/-!
Sort directions (`Direction`), as clients name them and as a search backend spells them.
-/

namespace TypedSearch

inductive Direction where
  | ascending
  | descending
  deriving DecidableEq, Repr

namespace Direction

def name : Direction → String
  | ascending => "ASC"
  | descending => "DESC"

def spelling : Direction → String
  | ascending => "asc"
  | descending => "desc"

def names : List String := [ascending.name, descending.name]

def toJson (direction : Direction) : Json := .string direction.name

def ofJson? (value : Json) : Json.Decoded Direction := do
  if (← value.toBareVariant names) = ascending.name then return ascending else return descending

/-- The direction that a client gives for the field at a path. -/
def ofParams (path : FieldPath) (params : Json) : Except Problem Direction :=
  match ofJson? params with
  | .ok direction => .ok direction
  | .error _ => .error (.argument path.dotted (.notDirection params))

def typeName : String := "OrderDirection"

def namedType : NamedType := ⟨typeName, .enumeration names⟩

end Direction

end TypedSearch
