import TypedSearch.Handler.Capability
import TypedSearch.Query.TermFilter

/-!
The handlers of primitive types (`boolean`, `int`, `float`, `string`, `bytes`). Truth values and real
numbers are indexed plainly; integers and strings carry an exact-value sub-field, which equality and
sorts address. Bytes can only be read.
-/

namespace TypedSearch.Handler

/-- Whether a type is a primitive of a kind, wherever it occurs. -/
def selectsPrimitive (kind : Primitive) (type : SchemaType) (_ : FieldPath) : Bool :=
  type.primitive? == some kind

def scalarField (scalar : String) : HandlerCapability Unit (Emitted TypeRef) :=
  .constant (.bare (.named scalar))

def definedArg {σ : Type} (type : NamedType) : Capability σ Unit (Emitted TypeRef) :=
  .constant (Emitted.bare type).includeSelf

/-- A filter that is read from the client's parameters and turned into clauses. -/
def termFilter {φ : Type} (ofParams : FieldPath → Json → Except Problem φ)
    (clauses : φ → FieldPath → List Json) : HandlerCapability Json (List Json) :=
  .computed fun site params => do
    let filter ← ofParams site.path params
    return some (clauses filter site.path)

/-- A sort by the field that `target` names, in the client's direction. -/
def fieldSort (target : FieldPath → String) : HandlerCapability Json (List Json) :=
  .computed fun site params => do
    let direction ← Direction.ofParams site.path params
    return some [Clause.sort (target site.path) direction]

def boolean : Handler where
  name := "boolean"
  selects := selectsPrimitive .boolean
  field := scalarField Scalar.boolean
  filterArg := definedArg BooleanFilter.namedType
  orderArg := definedArg Direction.namedType
  mapping := .constant (.single "type" (.string "boolean"))
  filter := termFilter BooleanFilter.ofParams BooleanFilter.clauses
  sort := fieldSort FieldPath.dotted

/-- The handler of bytes: readable as a string, and neither filtered, sorted by nor indexed. -/
def bytes : Handler where
  name := "bytes"
  selects := selectsPrimitive .bytes
  field := scalarField Scalar.string

def float : Handler where
  name := "float"
  selects := selectsPrimitive .float
  field := scalarField Scalar.float
  filterArg := definedArg FloatFilter.namedType
  orderArg := definedArg Direction.namedType
  mapping := .constant (.single "type" (.string "float"))
  filter := termFilter FloatFilter.ofParams FloatFilter.clauses
  sort := fieldSort FieldPath.dotted

def int : Handler where
  name := "int"
  selects := selectsPrimitive .int
  field := scalarField Scalar.int
  filterArg := definedArg IntFilter.namedType
  orderArg := definedArg Direction.namedType
  mapping := .constant (Clause.withKeyword "integer")
  filter := termFilter IntFilter.ofParams IntFilter.clauses
  sort := fieldSort FieldPath.keyword

def string : Handler where
  name := "string"
  selects := selectsPrimitive .string
  field := scalarField Scalar.string
  filterArg := definedArg StringFilter.namedType
  orderArg := definedArg Direction.namedType
  mapping := .constant (Clause.withKeyword "text")
  filter := termFilter StringFilter.ofParams StringFilter.clauses
  sort := fieldSort FieldPath.keyword

end TypedSearch.Handler
