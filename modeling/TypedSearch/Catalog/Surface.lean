import TypedSearch.Catalog.Dataset

/-!
The surfaces of a dataset (`Surface`): its fields, its filters and its orders. On each surface a member
has an entry of some type or is left out (`member_entry`). A computed field that takes arguments takes
them directly as a field, and in a wrapper beside the filter or the direction elsewhere
(`arguments_type`).
-/

namespace TypedSearch

/-- A surface of the API on which members have entries. -/
inductive Surface where
  | field
  | filter
  | order
  deriving DecidableEq, Repr

namespace Surface

def registryType (surface : Surface) (registry : Registry) (type : SchemaType) (path : FieldPath) :
    Except Problem (Option (Emitted TypeRef)) :=
  match surface with
  | field => registry.fieldType type path
  | filter => registry.filterArg type path
  | order => registry.orderArg type path

/-- The capability of a computed field for a surface. -/
def capability (surface : Surface) (computed : ComputedField) :
    ComputedCapability Unit (Emitted TypeRef) :=
  match surface with
  | field => computed.field
  | filter => computed.filterArg
  | order => computed.orderArg

/-- The key beside the arguments in a wrapper, and how the wrapper's name ends. -/
def wrapper? : Surface → Option (String × String)
  | field => none
  | filter => some ("filter", "ComputedFilter")
  | order => some ("order", "ComputedOrder")

end Surface

structure DatasetNames where
  object : String
  filter : String
  combinations : String
  order : String
  deriving DecidableEq, Repr

namespace DatasetNames

def of (dataset : String) : DatasetNames :=
  let base := Name.pascalCase dataset
  ⟨base, base ++ "Filter", base ++ "CombinationsFilter", base ++ "Order"⟩

def memberBase (names : DatasetNames) (member : String) : String :=
  names.object ++ Name.pascalCase member

end DatasetNames

structure SurfaceEntry where
  name : String
  type : TypeRef
  arguments : List InputValue
  deriving DecidableEq, Repr

def SurfaceEntry.toObjectField (entry : SurfaceEntry) : ObjectField :=
  ⟨entry.name, entry.type, entry.arguments⟩

def SurfaceEntry.toInput (entry : SurfaceEntry) : InputValue := ⟨entry.name, entry.type⟩

/-- An argument of a computed field as an input that excludes null. -/
def Argument.toInput (computed : String) (argument : Argument) : Except Problem InputValue :=
  match argumentScalar? argument.type with
  | some scalar => .ok ⟨argument.name, .nonNull (.named scalar)⟩
  | none => .error (.schema (.argumentType argument.name computed argument.type))

/-- The inputs for the arguments of a computed field. -/
def ComputedField.argumentInputs (name : String) (field : ComputedField) :
    Except Problem (List InputValue) :=
  field.arguments.mapM (Argument.toInput name)

/-- `arguments_type`: the type of the arguments of a computed field. -/
def ComputedField.argumentsDefinition (names : DatasetNames) (name : String)
    (field : ComputedField) : Except Problem NamedType := do
  let inputs ← field.argumentInputs name
  return ⟨names.memberBase name ++ "Arguments", .inputObject inputs⟩

namespace Member

/-- The type of a member on a surface, before any wrapping. -/
def surfaceType (member : Member) (surface : Surface) (registry : Registry) :
    Except Problem (Option (Emitted TypeRef)) :=
  match member with
  | stored field => surface.registryType registry field.type member.path
  | computed _ field =>
    (surface.capability field).resolve ⟨registry, field.resultType, member.path⟩ ()

/-- The entry of a member of some type on a surface, with the types added that a wrapper needs. -/
def wrapped (member : Member) (surface : Surface) (names : DatasetNames) (type : TypeRef)
    (table : Definitions) : Except Problem (SurfaceEntry × Definitions) :=
  match member with
  | stored field => .ok (⟨field.name, type, []⟩, table)
  | computed name field =>
    if !field.hasArguments then .ok (⟨name, type, []⟩, table)
    else do
      let arguments ← field.argumentsDefinition names name
      match surface.wrapper? with
      | none =>
        match arguments.body with
        | .inputObject inputs => return (⟨name, type, inputs⟩, table)
        | _ => throw (.notInputType arguments.name)
      | some (key, suffix) =>
        let wrapper : NamedType :=
          ⟨names.memberBase name ++ suffix,
            .inputObject [⟨"arguments", .nonNull arguments.reference⟩, ⟨key, type⟩]⟩
        let withArguments ← table.mergeChecked (.of arguments)
        let withWrapper ← withArguments.mergeChecked (.of wrapper)
        return (⟨name, wrapper.reference, []⟩, withWrapper)

/-- The entry of a member on a surface, if it has one, with the types it needs added to a table. -/
def entry (member : Member) (surface : Surface) (registry : Registry) (names : DatasetNames)
    (table : Definitions) : Except Problem (Option SurfaceEntry × Definitions) := do
  match ← member.surfaceType surface registry with
  | none => return (none, table)
  | some emitted =>
    let joined ← table.mergeChecked emitted.definitions
    let (entry, all) ← member.wrapped surface names emitted.value joined
    return (some entry, all)

/-- The entries of members on a surface in order, with the types they need added to a table. -/
def entries (surface : Surface) (registry : Registry) (names : DatasetNames) :
    List Member → Definitions → Except Problem (List SurfaceEntry × Definitions)
  | [], table => .ok ([], table)
  | member :: rest, table => do
    let (found, joined) ← member.entry surface registry names table
    let (others, all) ← entries surface registry names rest joined
    return (found.toList ++ others, all)

end Member

end TypedSearch
