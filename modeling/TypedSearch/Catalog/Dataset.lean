import TypedSearch.Computed
import TypedSearch.Schema.Validate

/-!
Datasets and the catalog that names them (`Dataset`, `Catalog`). A dataset has stored fields, computed
fields and an index; a computed field hides a stored field of its name and takes its place
(`Dataset::members`).
-/

namespace TypedSearch

structure Dataset where
  schema : RecordType
  computed : Table ComputedField
  index : String

inductive Member where
  | stored (field : SchemaField)
  | computed (name : String) (field : ComputedField)

namespace Member

def name : Member → String
  | stored field => field.name
  | computed name _ => name

/-- The type of a member: that of the stored field or the result type of the computed one. -/
def type : Member → SchemaType
  | stored field => field.type
  | computed _ field => field.resultType

def path (member : Member) : FieldPath := .ofName member.name

end Member

/-- The scalar of the API for a computed field's argument. -/
def argumentScalar? : SchemaType → Option String
  | .primitive .boolean => some Scalar.boolean
  | .primitive .int => some Scalar.int
  | .primitive .float => some Scalar.float
  | .primitive .string => some Scalar.string
  | _ => none

/-- Checks the name and the type of an argument of a computed field. -/
def Argument.validate (computed : String) (argument : Argument) : Except Problem Unit :=
  if !Name.isIdentifier argument.name then
    .error (.schema (.argumentName argument.name computed))
  else if (argumentScalar? argument.type).isNone then
    .error (.schema (.argumentType argument.name computed argument.type))
  else .ok ()

/-- Checks the name, the result type and the arguments of a computed field. -/
def ComputedField.validate (name : String) (field : ComputedField) : Except Problem Unit := do
  if !Name.isIdentifier name then throw (.schema (.computedName name))
  field.resultType.validate
  field.arguments.forM (Argument.validate name)

namespace Dataset

/-- A dataset without computed fields. -/
def ofSchema (schema : RecordType) (index : String) : Dataset := ⟨schema, .empty, index⟩

def withComputed (dataset : Dataset) (name : String) (field : ComputedField) : Dataset :=
  { dataset with computed := dataset.computed.insert name field }

/-- The stored fields in schema order, each replaced by the computed field of its name if there is
one, then the other computed fields in the order of their names. -/
def members (dataset : Dataset) : List Member :=
  (dataset.schema.fields.map fun field =>
    match dataset.computed.get? field.name with
    | some computed => Member.computed field.name computed
    | none => Member.stored field) ++
  ((dataset.computed.entries.filter fun entry => (dataset.schema.field? entry.1).isNone).map
    fun entry => Member.computed entry.1 entry.2)

def member? (dataset : Dataset) (name : String) : Option Member :=
  match dataset.computed.get? name with
  | some computed => some (.computed name computed)
  | none => (dataset.schema.field? name).map .stored

/-- Checks the schema, then the computed fields in the order of their names. -/
def validate (dataset : Dataset) : Except Problem Unit := do
  dataset.schema.validate
  dataset.computed.entries.forM fun entry => entry.2.validate entry.1

end Dataset

structure Catalog where
  datasets : Table Dataset

namespace Catalog

/-- The catalog without datasets. -/
def empty : Catalog := ⟨.empty⟩

def withDataset (catalog : Catalog) (name : String) (dataset : Dataset) : Catalog :=
  ⟨catalog.datasets.insert name dataset⟩

def get? (catalog : Catalog) (name : String) : Option Dataset := catalog.datasets.get? name

/-- Checks the names and the contents of the datasets in the order of their names. -/
def validate (catalog : Catalog) : Except Problem Unit :=
  catalog.datasets.entries.forM fun entry =>
    if Name.isIdentifier entry.1 then entry.2.validate
    else .error (.schema (.datasetName entry.1))

end Catalog

end TypedSearch
