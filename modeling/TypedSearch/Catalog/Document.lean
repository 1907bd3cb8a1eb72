import TypedSearch.Catalog.Specification

/-!
Catalogs made from documents (`parse_yaml_catalog`): the types that a description names become schema
types (`to_type`), its scripts become computed fields (`to_computed`), and the catalog is checked
before it is given out.
-/

namespace TypedSearch

mutual

def TypeSpec.toSchema : TypeSpec → Except Problem SchemaType
  | .named name =>
    match Primitive.ofName? name with
    | some kind => .ok (.primitive kind)
    | none => .error (.config (.unknownType name))
  | .structured kind name fields =>
    if kind = "record" then do return .record ⟨name, ← FieldSpec.toSchemaList fields⟩
    else .error (.config (.unknownStructure kind name))
termination_by structural spec => spec

def FieldSpec.toSchema : String × TypeSpec → Except Problem SchemaField
  | (name, type) => do return ⟨name, ← type.toSchema⟩
termination_by structural spec => spec

def FieldSpec.toSchemaList : List (String × TypeSpec) → Except Problem (List SchemaField)
  | [] => .ok []
  | spec :: rest => do
    let field ← FieldSpec.toSchema spec
    return field :: (← FieldSpec.toSchemaList rest)
termination_by structural specs => specs

end

def ComputedSpec.toField (spec : ComputedSpec) : Except Problem ComputedField := do
  let arguments ← FieldSpec.toSchemaList spec.arguments
  let type ← spec.type.toSchema
  let field := ComputedField.scripted type (arguments.map fun field => ⟨field.name, field.type⟩)
    spec.filterScript spec.sortScript
  return if spec.exposed then { field with field := ComputedField.standardField } else field

/-- The dataset that a description under a name means. -/
def DatasetSpec.toDataset (name : String) (spec : DatasetSpec) : Except Problem Dataset := do
  let schema : RecordType := ⟨spec.record, ← FieldSpec.toSchemaList spec.fields⟩
  spec.computed.entries.foldlM
    (fun dataset entry => do return dataset.withComputed entry.1 (← entry.2.toField))
    (Dataset.ofSchema schema (spec.index.getD name))

def CatalogSpec.toCatalog (spec : CatalogSpec) : Except Problem Catalog :=
  spec.datasets.entries.foldlM
    (fun catalog entry => do return catalog.withDataset entry.1 (← entry.2.toDataset entry.1))
    .empty

/-- A catalog with the configuration that its document gives. -/
structure CatalogDocument where
  catalog : Catalog
  config : ConfigOverride

def CatalogDocument.ofText? (text : String) : Except Problem CatalogDocument := do
  let spec ←
    match CatalogSpec.ofText? text with
    | .ok spec => pure spec
    | .error issue => throw (.config issue)
  let catalog ← spec.toCatalog
  catalog.validate
  return ⟨catalog, spec.config.getD {}⟩

end TypedSearch
