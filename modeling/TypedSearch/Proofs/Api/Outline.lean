import TypedSearch.Catalog.Api

/-!
Outlines of generated APIs: what every schema type, member, dataset and catalog contributes, written
down as plain lists of named types without tables, checks and errors. An outline names the reference
under which something appears and the types made for it, inner ones first.
-/

namespace TypedSearch

/-- A reference with the types that are made for it. -/
structure Outline where
  /-- The reference. -/
  reference : TypeRef
  /-- The types in the order in which they are joined. -/
  types : List NamedType

/-- A type that needs no other one. -/
def NamedType.outline (type : NamedType) : Outline := ⟨type.reference, [type]⟩

namespace Surface

/-- The capability of handlers for a surface. -/
def pick : Surface → Handler → HandlerCapability Unit (Emitted TypeRef)
  | field => Handler.field
  | filter => Handler.filterArg
  | order => Handler.orderArg

/-- How the names of record types end. -/
def recordSuffix : Surface → String
  | field => "Field"
  | filter => "Filter"
  | order => "Order"

/-- The shape of record types. -/
def recordBody : Surface → List (String × TypeRef) → TypeBody
  | field => Handler.objectBody
  | filter | order => Handler.inputBody

theorem pick_record (surface : Surface) :
    surface.pick .record = Handler.aggregate surface.recordSuffix surface.recordBody := by
  cases surface <;> rfl

/-- The type of a record of which some parts appear on a surface. -/
def recordType (surface : Surface) (name : String) (parts : List (String × Outline)) : NamedType :=
  ⟨name ++ surface.recordSuffix,
    surface.recordBody (parts.map fun part => (part.1, part.2.reference))⟩

/-- A record appears if some part of it does. -/
def recordOutline (surface : Surface) (name : String) (parts : List (String × Outline)) :
    Option Outline :=
  if parts.isEmpty then none
  else
    some ⟨(surface.recordType name parts).reference,
      parts.flatMap (·.2.types) ++ [surface.recordType name parts]⟩

end Surface

/-- Primitives appear as scalars, with the filters of their values and with directions. -/
def Primitive.outline : Surface → Primitive → Option Outline
  | .field, .boolean => some ⟨.named Scalar.boolean, []⟩
  | .field, .int => some ⟨.named Scalar.int, []⟩
  | .field, .float => some ⟨.named Scalar.float, []⟩
  | .field, .string | .field, .bytes => some ⟨.named Scalar.string, []⟩
  | .filter, .boolean => some BooleanFilter.namedType.outline
  | .filter, .int => some IntFilter.namedType.outline
  | .filter, .float => some FloatFilter.namedType.outline
  | .filter, .string => some StringFilter.namedType.outline
  | .order, .boolean | .order, .int | .order, .float | .order, .string =>
    some Direction.namedType.outline
  | _, _ => none

mutual

/-- What a schema type contributes to a surface. -/
def SchemaType.outline (surface : Surface) : SchemaType → Option Outline
  | .primitive kind => kind.outline surface
  | .record ⟨name, fields⟩ => surface.recordOutline name (SchemaField.outlines surface fields)
termination_by structural type => type

/-- What the fields of a record contribute, by name. -/
def SchemaField.outlines (surface : Surface) : List SchemaField → List (String × Outline)
  | [] => []
  | ⟨name, type⟩ :: rest =>
    ((SchemaType.outline surface type).map (name, ·)).toList ++ SchemaField.outlines surface rest
termination_by structural fields => fields

end

namespace Surface

/-- The type that scripted fields have on a surface. -/
def scriptedType? : Surface → Option NamedType
  | field => none
  | filter => some BooleanFilter.namedType
  | order => some Direction.namedType

/-- The capability of computed fields that appear like stored ones of their result type. -/
def standard : Surface → ComputedCapability Unit (Emitted TypeRef)
  | field => ComputedField.standardField
  | filter => ComputedField.standardFilterArg
  | order => ComputedField.standardOrderArg

end Surface

namespace ComputedField

/-- On each surface a computed field is absent, appears with the type of scripted fields, or appears
like a stored field of its result type. -/
def IsBuilt (field : ComputedField) : Prop :=
  ∀ surface : Surface, surface.capability field = .absent ∨
    (∃ type, surface.scriptedType? = some type ∧
      surface.capability field = Handler.definedArg type) ∨
    surface.capability field = surface.standard

/-- What a built field contributes to a surface. -/
def outline (surface : Surface) (field : ComputedField) : Option Outline :=
  match surface.capability field with
  | .absent => none
  | .constant _ => surface.scriptedType?.map NamedType.outline
  | .computed _ => field.resultType.outline surface

theorem outline_absent {surface : Surface} {field : ComputedField}
    (absent : surface.capability field = .absent) : field.outline surface = none := by
  rw [outline, absent]

theorem outline_defined {surface : Surface} {field : ComputedField} {type : NamedType}
    (scripted : surface.scriptedType? = some type)
    (defined : surface.capability field = Handler.definedArg type) :
    field.outline surface = some type.outline := by
  rw [outline, defined, scripted]
  rfl

theorem outline_standard {surface : Surface} {field : ComputedField}
    (standard : surface.capability field = surface.standard) :
    field.outline surface = field.resultType.outline surface := by
  rw [outline, standard]
  cases surface <;> rfl

/-- The inputs for the arguments of a computed field. -/
def inputs (field : ComputedField) : List InputValue :=
  field.arguments.filterMap fun argument =>
    (argumentScalar? argument.type).map fun scalar => ⟨argument.name, .nonNull (.named scalar)⟩

end ComputedField

namespace Member

/-- What a member contributes to a surface, before any wrapping. -/
def outline (surface : Surface) : Member → Option Outline
  | stored field => field.type.outline surface
  | computed _ field => field.outline surface

/-- The type of the arguments of a computed field. -/
def argumentsType (names : DatasetNames) (name : String) (field : ComputedField) : NamedType :=
  ⟨names.memberBase name ++ "Arguments", .inputObject field.inputs⟩

/-- The type that puts a reference beside the arguments of a computed field. -/
def wrapperType (names : DatasetNames) (name : String) (field : ComputedField) (key suffix : String)
    (reference : TypeRef) : NamedType :=
  ⟨names.memberBase name ++ suffix, .inputObject
    [⟨"arguments", .nonNull (argumentsType names name field).reference⟩, ⟨key, reference⟩]⟩

/-- The entry of a member that has a reference on a surface, and the types made to wrap it. -/
def wrapping (surface : Surface) (names : DatasetNames) (reference : TypeRef) :
    Member → SurfaceEntry × List NamedType
  | stored field => (⟨field.name, reference, []⟩, [])
  | computed name field =>
    if !field.hasArguments then (⟨name, reference, []⟩, [])
    else
      match surface.wrapper? with
      | none => (⟨name, reference, field.inputs⟩, [])
      | some (key, suffix) =>
        let wrapper := wrapperType names name field key suffix reference
        (⟨name, wrapper.reference, []⟩, [argumentsType names name field, wrapper])

/-- A member is wrapped in one of three ways: it has its reference alone, its arguments beside the
reference, or a type of its own that holds both. -/
theorem wrapping_cases (surface : Surface) (names : DatasetNames) (reference : TypeRef)
    (member : Member) :
    member.wrapping surface names reference = (⟨member.name, reference, []⟩, []) ∨
      ∃ name field, member = computed name field ∧ field.hasArguments = true ∧
        (surface = .field ∧
            member.wrapping surface names reference = (⟨name, reference, field.inputs⟩, []) ∨
          ∃ key suffix, surface.wrapper? = some (key, suffix) ∧
            member.wrapping surface names reference =
              (⟨name, (wrapperType names name field key suffix reference).reference, []⟩,
                [argumentsType names name field,
                  wrapperType names name field key suffix reference])) := by
  cases member with
  | stored field => exact .inl rfl
  | computed name field =>
    cases takes : field.hasArguments with
    | false => exact .inl (by simp [wrapping, takes, Member.name])
    | true =>
      refine .inr ⟨name, field, rfl, takes, ?_⟩
      cases surface with
      | field => exact .inl ⟨rfl, by simp [wrapping, takes, Surface.wrapper?]⟩
      | filter | order => exact .inr ⟨_, _, rfl, by simp [wrapping, takes, Surface.wrapper?]⟩

/-- The entry of a member on a surface, if it has one, and the types made for it. -/
def entryOutline (surface : Surface) (names : DatasetNames) (member : Member) :
    Option (SurfaceEntry × List NamedType) :=
  (member.outline surface).map fun outline =>
    let made := member.wrapping surface names outline.reference
    (made.1, outline.types ++ made.2)

/-- The entries of members on a surface with the types made for each. -/
def entryOutlines (surface : Surface) (names : DatasetNames) (members : List Member) :
    List (SurfaceEntry × List NamedType) :=
  members.filterMap (entryOutline surface names)

end Member

namespace DatasetNames

/-- The type of filters on single members. -/
def filterType (names : DatasetNames) (entries : List SurfaceEntry) : NamedType :=
  ⟨names.filter, .inputObject (entries.map SurfaceEntry.toInput)⟩

/-- The type of combinations of filters. -/
def combinationsType (names : DatasetNames) : NamedType :=
  let list : TypeRef := .list (.nonNull (.named names.combinations))
  ⟨names.combinations,
    .inputObject [⟨"cond", .named names.filter⟩, ⟨"and", list⟩, ⟨"or", list⟩]⟩

/-- The type of orders. -/
def orderType (names : DatasetNames) (entries : List SurfaceEntry) : NamedType :=
  ⟨names.order, .inputObject (entries.map SurfaceEntry.toInput)⟩

/-- The type of documents. -/
def objectType (names : DatasetNames) (entries : List SurfaceEntry) : NamedType :=
  ⟨names.object, .object (entries.map SurfaceEntry.toObjectField)⟩

end DatasetNames

namespace Dataset

/-- All computed fields of a dataset are built. -/
def IsBuilt (dataset : Dataset) : Prop :=
  ∀ computed ∈ dataset.computed.entries, computed.2.IsBuilt

theorem isBuilt_withComputed {dataset : Dataset} {name : String} {field : ComputedField}
    (others : dataset.IsBuilt) (own : field.IsBuilt) :
    (dataset.withComputed name field).IsBuilt := by
  intro computed member
  rcases Table.mem_insertEntry member with rfl | old
  · exact own
  · exact others computed old

/-- The entries of a dataset on a surface. -/
def surfaceEntries (dataset : Dataset) (surface : Surface) (names : DatasetNames) :
    List SurfaceEntry :=
  (Member.entryOutlines surface names dataset.members).map (·.1)

/-- The types made for the entries of a dataset on a surface. -/
def surfaceTypes (dataset : Dataset) (surface : Surface) (names : DatasetNames) : List NamedType :=
  (Member.entryOutlines surface names dataset.members).flatMap (·.2)

/-- The filter argument and the types made for it. -/
def filterOutline (dataset : Dataset) (names : DatasetNames) : List InputValue × List NamedType :=
  let entries := dataset.surfaceEntries .filter names
  let types := dataset.surfaceTypes .filter names
  if entries.isEmpty then ([], types)
  else
    ([⟨"filter", names.combinationsType.reference⟩],
      types ++ [names.combinationsType, names.filterType entries])

/-- The order argument and the types made for it. -/
def orderOutline (dataset : Dataset) (names : DatasetNames) : List InputValue × List NamedType :=
  let entries := dataset.surfaceEntries .order names
  let types := dataset.surfaceTypes .order names
  if entries.isEmpty then ([], types)
  else
    ([⟨"order", .list (.nonNull (names.orderType entries).reference)⟩],
      types ++ [names.orderType entries])

/-- Without an entry there is no filter argument, and no type but those of the members. -/
theorem filterOutline_cases (dataset : Dataset) (names : DatasetNames) :
    dataset.filterOutline names = ([], dataset.surfaceTypes .filter names) ∨
      dataset.filterOutline names =
        ([⟨"filter", names.combinationsType.reference⟩], dataset.surfaceTypes .filter names ++
          [names.combinationsType, names.filterType (dataset.surfaceEntries .filter names)]) := by
  rw [filterOutline]
  cases (dataset.surfaceEntries .filter names).isEmpty with
  | true => exact .inl rfl
  | false => exact .inr rfl

/-- Without an entry there is no order argument, and no type but those of the members. -/
theorem orderOutline_cases (dataset : Dataset) (names : DatasetNames) :
    dataset.orderOutline names = ([], dataset.surfaceTypes .order names) ∨
      dataset.orderOutline names =
        ([⟨"order",
          .list (.nonNull (names.orderType (dataset.surfaceEntries .order names)).reference)⟩],
          dataset.surfaceTypes .order names ++
            [names.orderType (dataset.surfaceEntries .order names)]) := by
  rw [orderOutline]
  cases (dataset.surfaceEntries .order names).isEmpty with
  | true => exact .inl rfl
  | false => exact .inr rfl

theorem filterOutline_argument {dataset : Dataset} {names : DatasetNames} {input : InputValue}
    (listed : input ∈ (dataset.filterOutline names).1) :
    input = ⟨"filter", names.combinationsType.reference⟩ ∧
      (dataset.filterOutline names).2 = dataset.surfaceTypes .filter names ++
        [names.combinationsType, names.filterType (dataset.surfaceEntries .filter names)] := by
  rcases filterOutline_cases dataset names with none | some
  · simp [none] at listed
  · simpa [some] using listed

theorem orderOutline_argument {dataset : Dataset} {names : DatasetNames} {input : InputValue}
    (listed : input ∈ (dataset.orderOutline names).1) :
    input = ⟨"order",
        .list (.nonNull (names.orderType (dataset.surfaceEntries .order names)).reference)⟩ ∧
      (dataset.orderOutline names).2 = dataset.surfaceTypes .order names ++
        [names.orderType (dataset.surfaceEntries .order names)] := by
  rcases orderOutline_cases dataset names with none | some
  · simp [none] at listed
  · simpa [some] using listed

/-- The field of the query type for a dataset and the types made for it. -/
def rootOutline (dataset : Dataset) (name : String) : ObjectField × List NamedType :=
  let names := DatasetNames.of name
  let object := names.objectType (dataset.surfaceEntries .field names)
  let filter := dataset.filterOutline names
  let order := dataset.orderOutline names
  (⟨name, .nonNull (.list (.nonNull object.reference)), filter.1 ++ order.1⟩,
    dataset.surfaceTypes .field names ++ filter.2 ++ order.2 ++ [object])

end Dataset

namespace Catalog

/-- The outlines of the datasets in the order of their names. -/
def rootOutlines (datasets : List (String × Dataset)) : List (ObjectField × List NamedType) :=
  datasets.map fun entry => entry.2.rootOutline entry.1

/-- The type where the queries of a catalog start. -/
def queryType (catalog : Catalog) : NamedType :=
  ⟨queryTypeName, .object ((rootOutlines catalog.datasets.entries).map (·.1))⟩

/-- All types made for a catalog. -/
def madeTypes (catalog : Catalog) : List NamedType :=
  (rootOutlines catalog.datasets.entries).flatMap (·.2) ++ [catalog.queryType]

/-- All computed fields of a catalog are built. -/
def IsBuilt (catalog : Catalog) : Prop :=
  ∀ entry ∈ catalog.datasets.entries, entry.2.IsBuilt

theorem isBuilt_withDataset {catalog : Catalog} {name : String} {dataset : Dataset}
    (others : catalog.IsBuilt) (own : dataset.IsBuilt) :
    (catalog.withDataset name dataset).IsBuilt := by
  intro entry member
  rcases Table.mem_insertEntry member with rfl | old
  · exact own
  · exact others entry old

end Catalog

end TypedSearch
