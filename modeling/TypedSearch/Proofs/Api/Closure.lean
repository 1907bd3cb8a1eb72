import TypedSearch.Proofs.Api.Conformance
import TypedSearch.Proofs.Api.Origin

/-!
Generated schemas are closed. Whatever a generated type refers to is a scalar or is defined beside it,
and it has the shape that its place asks for: inputs and arguments lead to no object, and fields of
objects lead to no input object.
-/

namespace TypedSearch

open Outcome

namespace TypeBody

/-- The inputs that a type declares: its own, or the arguments of its fields. -/
def inputs : TypeBody → List InputValue
  | object fields => fields.flatMap (·.arguments)
  | inputObject inputs => inputs
  | enumeration _ => []

/-- The fields that a type declares. -/
def fields : TypeBody → List ObjectField
  | object fields => fields
  | inputObject _ | enumeration _ => []

/-- Whether clients may give values of a type. -/
def isInput : TypeBody → Bool
  | object _ => false
  | inputObject _ | enumeration _ => true

/-- Whether clients may be answered with values of a type. -/
def isOutput : TypeBody → Bool
  | inputObject _ => false
  | object _ | enumeration _ => true

end TypeBody

/-- A reference leads to a scalar, or to one of some types that has an allowed shape. -/
def TypeRef.Resolves (reference : TypeRef) (types : List NamedType) (allowed : TypeBody → Bool) :
    Prop :=
  reference.baseName ∈ Scalar.names ∨
    ∃ type ∈ types, type.name = reference.baseName ∧ allowed type.body = true

/-- All that a type refers to is among some types, and has the shape that its place asks for. -/
structure NamedType.ClosedIn (type : NamedType) (types : List NamedType) : Prop where
  /-- Inputs and arguments lead to types that clients may give values of. -/
  inputs : ∀ input ∈ type.body.inputs, input.type.Resolves types TypeBody.isInput
  /-- Fields lead to types that clients may be answered with. -/
  fields : ∀ field ∈ type.body.fields, field.type.Resolves types TypeBody.isOutput

/-- A schema is closed if its types have different names in strict order, none of them the name of a
scalar, and refer only to scalars and to each other, with every reference to a type of the shape that
its place asks for. -/
structure ApiSchema.Closed (schema : ApiSchema) : Prop where
  /-- The types are in the strict order of their names. -/
  ascending : schema.definitions.Pairwise fun left right => left.name < right.name
  /-- No type has the name of a scalar. -/
  unreserved : ∀ type ∈ schema.definitions, type.name ∉ Scalar.names
  /-- The types refer to each other and to scalars only. -/
  closed : ∀ type ∈ schema.definitions, type.ClosedIn schema.definitions

/-- The shapes that the types of entries on a surface may have. -/
def Surface.allows : Surface → TypeBody → Bool
  | field => TypeBody.isOutput
  | filter | order => TypeBody.isInput

variable {catalog : Catalog} {schema : ApiSchema} {names : DatasetNames} {surface : Surface}
  {types others : List NamedType} {allowed : TypeBody → Bool}

namespace TypeRef

theorem Resolves.mono {reference : TypeRef} (resolves : reference.Resolves types allowed)
    (inside : types ⊆ others) : reference.Resolves others allowed :=
  resolves.imp_right fun ⟨type, member, leads⟩ => ⟨type, inside member, leads⟩

theorem resolves_scalar {scalar : String} (known : scalar ∈ Scalar.names) :
    (named scalar).Resolves types allowed := .inl known

theorem resolves_reference {type : NamedType} (member : type ∈ types)
    (fits : allowed type.body = true) : type.reference.Resolves types allowed :=
  .inr ⟨type, member, rfl, fits⟩

end TypeRef

open TypeRef

theorem NamedType.ClosedIn.mono {type : NamedType} (closed : type.ClosedIn types)
    (inside : types ⊆ others) : type.ClosedIn others :=
  ⟨fun input member => (closed.inputs input member).mono inside,
    fun field member => (closed.fields field member).mono inside⟩

theorem Surface.allows_recordBody (parts : List (String × TypeRef)) :
    surface.allows (surface.recordBody parts) = true := by
  cases surface <;> rfl

/-- What a schema type contributes refers to a scalar or to a type that it brings along. -/
theorem SchemaType.outline_resolves {type : SchemaType} {outline : Outline}
    (found : type.outline surface = some outline) :
    outline.reference.Resolves outline.types surface.allows := by
  cases type with
  | primitive kind =>
    cases surface <;> cases kind <;> cases found
    all_goals first
      | exact resolves_scalar (by decide)
      | exact resolves_reference List.mem_cons_self rfl
  | record shape =>
    obtain ⟨name, fields⟩ := shape
    rw [SchemaType.outline, Surface.recordOutline] at found
    split at found
    · cases found
    cases found
    exact resolves_reference (List.mem_append_right _ List.mem_cons_self)
      (Surface.allows_recordBody _)

theorem ComputedField.outline_resolves {field : ComputedField} {outline : Outline}
    (found : field.outline surface = some outline) :
    outline.reference.Resolves outline.types surface.allows := by
  rw [ComputedField.outline] at found
  split at found
  · cases found
  · obtain ⟨type, scripted, rfl⟩ := Option.map_eq_some_iff.mp found
    refine resolves_reference List.mem_cons_self ?_
    cases surface <;> cases scripted <;> rfl
  · exact SchemaType.outline_resolves found

/-- The scalar for an argument is one of the API. -/
theorem argumentScalar_known {type : SchemaType} {scalar : String}
    (known : argumentScalar? type = some scalar) : scalar ∈ Scalar.names := by
  unfold argumentScalar? at known
  split at known <;> cases known <;> decide

/-- The arguments of computed fields are scalars. -/
theorem ComputedField.inputs_resolve (field : ComputedField) :
    ∀ input ∈ field.inputs, input.type.Resolves types allowed := by
  intro input member
  obtain ⟨argument, -, made⟩ := List.mem_filterMap.mp member
  obtain ⟨scalar, known, rfl⟩ := Option.map_eq_some_iff.mp made
  exact .inl (argumentScalar_known known)

/-- The entry of a member refers to a scalar or to a type made for the member, and its arguments are
scalars. -/
theorem Member.entry_resolves {member : Member} {entry : SurfaceEntry}
    (found : member.entryOutline surface names = some (entry, types)) :
    entry.type.Resolves types surface.allows ∧
      ∀ argument ∈ entry.arguments, argument.type.Resolves types TypeBody.isInput := by
  obtain ⟨outline, outlined, rfl, rfl⟩ := entryOutline_eq_some found
  have own : outline.reference.Resolves outline.types surface.allows := by
    cases member with
    | stored field => exact SchemaType.outline_resolves outlined
    | computed name field => exact ComputedField.outline_resolves outlined
  rcases wrapping_cases surface names outline.reference member with
    alone | ⟨name, field, rfl, -, ⟨-, beside⟩ | ⟨key, suffix, wrapper, wrapped⟩⟩
  · rw [alone]
    exact ⟨own.mono (List.subset_append_left _ _), by simp⟩
  · rw [beside]
    exact ⟨own.mono (List.subset_append_left _ _), field.inputs_resolve⟩
  · rw [wrapped]
    refine ⟨resolves_reference (List.mem_append_right _ ?_) ?_, by simp⟩
    · exact List.mem_cons_of_mem _ List.mem_cons_self
    · cases surface <;> cases wrapper <;> rfl

/-- A type that holds entries of a surface is closed if the entries refer to what they may. -/
theorem Surface.body_closed {name : String} {entries : List SurfaceEntry}
    (resolve : ∀ entry ∈ entries, entry.type.Resolves types surface.allows ∧
      ∀ argument ∈ entry.arguments, argument.type.Resolves types TypeBody.isInput) :
    NamedType.ClosedIn ⟨name, surface.body entries⟩ types := by
  cases surface with
  | field =>
    refine ⟨fun argument member => ?_, fun field member => ?_⟩
    · obtain ⟨field, listed, member⟩ := List.mem_flatMap.mp member
      obtain ⟨entry, inside, rfl⟩ := List.mem_map.mp listed
      exact (resolve entry inside).2 argument member
    · obtain ⟨entry, inside, rfl⟩ := List.mem_map.mp member
      exact (resolve entry inside).1
  | filter | order =>
    refine ⟨fun input member => ?_, nofun⟩
    obtain ⟨entry, inside, rfl⟩ := List.mem_map.mp member
    exact (resolve entry inside).1

namespace Dataset

variable {dataset : Dataset} {name : String}

/-- The entries of a dataset refer to scalars and to types made for it. -/
theorem entries_resolve (dataset : Dataset) (surface : Surface) (names : DatasetNames) :
    ∀ entry ∈ dataset.surfaceEntries surface names,
      entry.type.Resolves (dataset.surfaceTypes surface names) surface.allows ∧
        ∀ argument ∈ entry.arguments,
          argument.type.Resolves (dataset.surfaceTypes surface names) TypeBody.isInput := by
  intro entry inside
  obtain ⟨⟨_, types⟩, outlined, rfl⟩ := List.mem_map.mp inside
  obtain ⟨member, -, found⟩ := List.mem_filterMap.mp outlined
  obtain ⟨own, arguments⟩ := Member.entry_resolves found
  have brought : types ⊆ dataset.surfaceTypes surface names :=
    fun type member => List.mem_flatMap.mpr ⟨_, outlined, member⟩
  exact ⟨own.mono brought, fun argument inside => (arguments argument inside).mono brought⟩

/-- The type of a dataset's entries is closed beside the types made for them. -/
theorem entriesType_closed :
    ((DatasetNames.of name).entriesType surface (dataset.surfaceEntries surface (.of name))).ClosedIn
      (dataset.surfaceTypes surface (.of name)) :=
  Surface.body_closed (entries_resolve dataset surface (.of name))

/-- The query field of a dataset leads to types made for it. -/
theorem rootField_resolves (dataset : Dataset) (name : String) :
    (dataset.rootOutline name).1.type.Resolves (dataset.rootOutline name).2 TypeBody.isOutput ∧
      ∀ argument ∈ (dataset.rootOutline name).1.arguments,
        argument.type.Resolves (dataset.rootOutline name).2 TypeBody.isInput := by
  refine ⟨resolves_reference (List.mem_append_right _ List.mem_cons_self) rfl, ?_⟩
  refine List.forall_mem_append.mpr ⟨fun argument member => ?_, fun argument member => ?_⟩
  · obtain ⟨rfl, made⟩ := filterOutline_argument member
    refine .inr ⟨(DatasetNames.of name).combinationsType, ?_, rfl, rfl⟩
    simp [rootOutline, made]
  · obtain ⟨rfl, made⟩ := orderOutline_argument member
    refine .inr ⟨(DatasetNames.of name).orderType
      (dataset.surfaceEntries .order (.of name)), ?_, rfl, rfl⟩
    simp [rootOutline, made]

end Dataset

/-- What a wrapper may hold beside arguments is given by clients. -/
theorem Surface.allows_wrapped {key suffix : String}
    (wrapped : surface.wrapper? = some (key, suffix)) : surface.allows = TypeBody.isInput := by
  cases surface <;> cases wrapped <;> rfl

/-- The type of a record is closed beside what its fields contribute. -/
theorem Surface.recordType_closed {name : String} {fields : List SchemaField}
    (inner : ∀ part ∈ SchemaField.outlines surface fields, part.2.types ⊆ types) :
    (surface.recordType name (SchemaField.outlines surface fields)).ClosedIn types := by
  rw [recordType_eq]
  refine body_closed fun entry member => ?_
  obtain ⟨part, inside, rfl⟩ := List.mem_map.mp member
  obtain ⟨field, -, -, found⟩ := mem_outlines.mp inside
  exact ⟨(SchemaType.outline_resolves found).mono (inner part inside), by simp⟩

namespace Catalog

/-- Whatever the origin of a type, what it refers to is made for the catalog. -/
theorem Origin.closed {type : NamedType} (origin : catalog.Origin type) :
    type.ClosedIn catalog.madeTypes := by
  cases origin with
  | leaf fixed =>
    have scalars : ∀ type ∈ leafTypes, type.body.fields = [] ∧
        ∀ input ∈ type.body.inputs, input.type.baseName ∈ Scalar.names := by decide
    obtain ⟨none, inputs⟩ := scalars type fixed
    exact ⟨fun input member => .inl (inputs input member), by simp [none]⟩
  | record surface name fields valid inner => exact Surface.recordType_closed inner
  | arguments => exact ⟨ComputedField.inputs_resolve _, nofun⟩
  | wrapper surface listed owned wrapped found inner beside =>
    have own := (ComputedField.outline_resolves found).mono inner
    rw [Surface.allows_wrapped wrapped] at own
    refine ⟨List.forall_mem_cons.mpr ⟨.inr ⟨_, beside, rfl, rfl⟩, ?_⟩, nofun⟩
    exact List.forall_mem_singleton.mpr own
  | entries name dataset surface listed inner => exact Dataset.entriesType_closed.mono inner
  | combinations listed single itself =>
    refine ⟨fun input member => ?_, nofun⟩
    simp only [TypeBody.inputs, DatasetNames.combinationsType, List.mem_cons, List.not_mem_nil,
      or_false] at member
    rcases member with rfl | rfl | rfl
    · exact .inr ⟨_, single, rfl, rfl⟩
    · exact .inr ⟨_, itself, rfl, rfl⟩
    · exact .inr ⟨_, itself, rfl, rfl⟩
  | query =>
    have resolve : ∀ outline ∈ rootOutlines catalog.datasets.entries,
        outline.1.type.Resolves catalog.madeTypes TypeBody.isOutput ∧
          ∀ argument ∈ outline.1.arguments,
            argument.type.Resolves catalog.madeTypes TypeBody.isInput := by
      intro outline inside
      obtain ⟨⟨name, dataset⟩, listed, rfl⟩ := List.mem_map.mp inside
      obtain ⟨own, arguments⟩ := dataset.rootField_resolves name
      exact ⟨own.mono (root_types_made listed),
        fun argument member => (arguments argument member).mono (root_types_made listed)⟩
    refine ⟨fun argument member => ?_, fun field member => ?_⟩
    · obtain ⟨field, listed, member⟩ := List.mem_flatMap.mp member
      obtain ⟨outline, inside, rfl⟩ := List.mem_map.mp listed
      exact (resolve outline inside).2 argument member
    · obtain ⟨outline, inside, rfl⟩ := List.mem_map.mp member
      exact (resolve outline inside).1

/-- Whatever the origin of a type, its name is no scalar's, if no dataset takes a reserved name. -/
theorem Origin.unreserved {type : NamedType} (origin : catalog.Origin type)
    (free : ∀ entry ∈ catalog.datasets.entries,
      (DatasetNames.of entry.1).object ∉ reservedNames) : type.name ∉ Scalar.names := by
  cases origin with
  | leaf fixed => exact (show ∀ type ∈ leafTypes, type.name ∉ Scalar.names by decide) type fixed
  | record surface name fields valid inner =>
    cases surface with
    | field => exact append_unreserved _ 'd' rfl (by decide)
    | filter | order => exact append_unreserved _ 'r' rfl (by decide)
  | arguments => exact append_unreserved _ 's' rfl (by decide)
  | wrapper surface listed owned wrapped =>
    cases surface <;> cases wrapped <;> exact append_unreserved _ 'r' rfl (by decide)
  | entries name dataset surface listed inner =>
    cases surface with
    | field =>
      refine fun scalar => free _ listed ?_
      exact List.mem_append_left [queryTypeName, Direction.typeName] scalar
    | filter | order => exact append_unreserved _ 'r' rfl (by decide)
  | combinations => exact append_unreserved _ 'r' rfl (by decide)
  | query => exact (by decide : queryTypeName ∉ Scalar.names)

end Catalog

/-- Books with their authors, with a translator into a language that a client names, and with a
rating. -/
def bookDataset : Dataset :=
  let author : RecordType := ⟨"Author", [⟨"name", .primitive .string⟩, ⟨"born", .primitive .int⟩]⟩
  let book : RecordType := ⟨"Book", [⟨"title", .primitive .string⟩, ⟨"author", .record author⟩]⟩
  let translator : ComputedField :=
    { resultType := .record author
      arguments := [⟨"language", .primitive .string⟩]
      field := ComputedField.standardField
      filterArg := ComputedField.standardFilterArg
      orderArg := ComputedField.standardOrderArg }
  let rating : ComputedField := .scripted (.primitive .float) [⟨"age", .primitive .int⟩]
    (some "doc['votes'].value > params.age") (some "doc['votes'].value - params.age")
  ((Dataset.ofSchema book "books").withComputed "translator" translator).withComputed "rating" rating

/-- Two datasets of books, which share the types of their records. -/
def libraryCatalog : Catalog :=
  (Catalog.empty.withDataset "books" bookDataset).withDataset "rare_books" bookDataset

theorem libraryCatalog_built : libraryCatalog.IsBuilt := by
  have books : bookDataset.IsBuilt := by
    refine Dataset.isBuilt_withComputed (Dataset.isBuilt_withComputed nofun ?_) ?_
    · intro surface
      cases surface <;> exact .inr (.inr rfl)
    · exact ComputedField.scripted_isBuilt ⟨some _, some _, rfl, .inl rfl⟩
  exact Catalog.isBuilt_withDataset (Catalog.isBuilt_withDataset nofun books) books

theorem libraryCatalog_generated : ∃ schema, libraryCatalog.apiSchema .standard = .ok schema :=
  not_fails_iff.mp (by decide +kernel)

/-- A generated schema is closed, and it starts at a type that has one field for each dataset. -/
theorem generated_schema_closed (built : catalog.IsBuilt)
    (generated : catalog.apiSchema .standard = .ok schema) :
    schema.Closed ∧ ∃ fields, schema.queryType? = some ⟨queryTypeName, .object fields⟩ ∧
      fields.map (·.name) = catalog.datasets.names := by
  have origin := Catalog.origin_of_generated built generated
  have lists : catalog.madeTypes ⊆ schema.definitions := fun type made =>
    (Catalog.mem_generated built generated).mpr made
  refine ⟨⟨Catalog.generated_ascending built generated, fun type member => ?_,
    fun type member => ?_⟩, _, Catalog.generated_queryType built generated, ?_⟩
  · exact (origin type member).unreserved (Catalog.generated_unreserved generated)
  · exact (origin type member).closed.mono lists
  · rw [Table.names, Catalog.rootOutlines, List.map_map, List.map_map]
    rfl

theorem library_schema_closed :
    ∃ schema, libraryCatalog.apiSchema .standard = .ok schema ∧
      schema.Closed ∧ ∃ fields, schema.queryType? = some ⟨queryTypeName, .object fields⟩ ∧
        fields.map (·.name) = libraryCatalog.datasets.names := by
  obtain ⟨schema, generated⟩ := libraryCatalog_generated
  exact ⟨schema, generated, generated_schema_closed libraryCatalog_built generated⟩

end TypedSearch
