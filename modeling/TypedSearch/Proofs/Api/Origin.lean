import TypedSearch.Proofs.Api.Contents
import TypedSearch.Proofs.Catalog.Members

/-!
Where the types of a generated API come from. Every type made for a catalog is one of a few fixed
ones, or it is made for a record, for a computed field that takes arguments, for a dataset or for the
catalog as a whole. Whatever it refers to is made beside it, so a fact about all generated types is
shown by looking at each origin once.
-/

namespace TypedSearch

open Outcome

/-- The types of filters on primitive values and of directions. -/
def leafTypes : List NamedType :=
  [BooleanFilter.namedType, IntFilter.namedType, FloatFilter.namedType, StringFilter.namedType,
    Direction.namedType]

/-- The shape of types that hold entries of a surface. -/
def Surface.body : Surface → List SurfaceEntry → TypeBody
  | field, entries => .object (entries.map SurfaceEntry.toObjectField)
  | filter, entries | order, entries => .inputObject (entries.map SurfaceEntry.toInput)

/-- The parts of a record as entries, which take no arguments. -/
def recordEntries (parts : List (String × Outline)) : List SurfaceEntry :=
  parts.map fun part => ⟨part.1, part.2.reference, []⟩

/-- The type of a record holds its parts as entries. -/
theorem Surface.recordType_eq (surface : Surface) (name : String)
    (parts : List (String × Outline)) :
    surface.recordType name parts =
      ⟨name ++ surface.recordSuffix, surface.body (recordEntries parts)⟩ := by
  cases surface <;>
    simp [recordType, recordBody, body, recordEntries, Handler.objectBody, Handler.inputBody,
      SurfaceEntry.toObjectField, SurfaceEntry.toInput]

namespace DatasetNames

/-- The name of the type of a dataset's entries on a surface. -/
def entriesName (names : DatasetNames) : Surface → String
  | .field => names.object
  | .filter => names.filter
  | .order => names.order

/-- The type of the entries of a dataset on a surface. -/
def entriesType (names : DatasetNames) (surface : Surface) (entries : List SurfaceEntry) :
    NamedType :=
  ⟨names.entriesName surface, surface.body entries⟩

end DatasetNames

variable {catalog : Catalog} {name computed : String} {dataset : Dataset} {field : ComputedField}
  {surface : Surface}

namespace Catalog

/-- The origins of the types made for a catalog, each with what is made along with its type. -/
inductive Origin (catalog : Catalog) : NamedType → Prop where
  | leaf {type : NamedType} (fixed : type ∈ leafTypes) : Origin catalog type
  | record (surface : Surface) (name : String) (fields : List SchemaField)
      (valid : (SchemaType.record ⟨name, fields⟩).validate = .ok ())
      (inner : ∀ part ∈ SchemaField.outlines surface fields, part.2.types ⊆ catalog.madeTypes) :
      Origin catalog (surface.recordType name (SchemaField.outlines surface fields))
  | arguments {name computed : String} {dataset : Dataset} {field : ComputedField}
      {surface : Surface} (listed : (name, dataset) ∈ catalog.datasets.entries)
      (owned : (computed, field) ∈ dataset.computed.entries)
      (appears : field.outline surface ≠ none) :
      Origin catalog (Member.argumentsType (.of name) computed field)
  | wrapper {name computed key suffix : String} {dataset : Dataset} {field : ComputedField}
      {outline : Outline} (surface : Surface) (listed : (name, dataset) ∈ catalog.datasets.entries)
      (owned : (computed, field) ∈ dataset.computed.entries)
      (wrapped : surface.wrapper? = some (key, suffix))
      (found : field.outline surface = some outline)
      (inner : outline.types ⊆ catalog.madeTypes)
      (beside : Member.argumentsType (.of name) computed field ∈ catalog.madeTypes) :
      Origin catalog (Member.wrapperType (.of name) computed field key suffix outline.reference)
  | entries (name : String) (dataset : Dataset) (surface : Surface)
      (listed : (name, dataset) ∈ catalog.datasets.entries)
      (inner : dataset.surfaceTypes surface (.of name) ⊆ catalog.madeTypes) :
      Origin catalog ((DatasetNames.of name).entriesType surface
        (dataset.surfaceEntries surface (.of name)))
  | combinations {name : String} {dataset : Dataset}
      (listed : (name, dataset) ∈ catalog.datasets.entries)
      (single : (DatasetNames.of name).filterType (dataset.surfaceEntries .filter (.of name)) ∈
        catalog.madeTypes)
      (itself : (DatasetNames.of name).combinationsType ∈ catalog.madeTypes) :
      Origin catalog (DatasetNames.of name).combinationsType
  | query : Origin catalog catalog.queryType

/-- The types made for a dataset are made for its catalog. -/
theorem root_types_made (listed : (name, dataset) ∈ catalog.datasets.entries) :
    (dataset.rootOutline name).2 ⊆ catalog.madeTypes := by
  intro type member
  have root : dataset.rootOutline name ∈ rootOutlines catalog.datasets.entries :=
    List.mem_map.mpr ⟨_, listed, rfl⟩
  exact List.mem_append_left _ (List.mem_flatMap.mpr ⟨_, root, member⟩)

theorem object_made (listed : (name, dataset) ∈ catalog.datasets.entries) :
    (DatasetNames.of name).objectType (dataset.surfaceEntries .field (.of name)) ∈
      catalog.madeTypes :=
  root_types_made listed (List.mem_append_right _ List.mem_cons_self)

end Catalog

namespace Dataset

theorem filter_types_made (listed : (name, dataset) ∈ catalog.datasets.entries) :
    (dataset.filterOutline (.of name)).2 ⊆ catalog.madeTypes := fun _ member =>
  Catalog.root_types_made listed (List.mem_append_left _
    (List.mem_append_left _ (List.mem_append_right _ member)))

theorem order_types_made (listed : (name, dataset) ∈ catalog.datasets.entries) :
    (dataset.orderOutline (.of name)).2 ⊆ catalog.madeTypes := fun _ member =>
  Catalog.root_types_made listed (List.mem_append_left _ (List.mem_append_right _ member))

/-- On every surface the types made for the entries of a dataset are made for its catalog. -/
theorem surface_types_made (listed : (name, dataset) ∈ catalog.datasets.entries) :
    dataset.surfaceTypes surface (.of name) ⊆ catalog.madeTypes := by
  cases surface with
  | field =>
    intro type member
    exact Catalog.root_types_made listed
      (List.mem_append_left _ (List.mem_append_left _ (List.mem_append_left _ member)))
  | filter =>
    have made := filter_types_made listed
    rcases filterOutline_cases dataset (.of name) with none | some
    · rwa [none] at made
    · rw [some] at made
      exact (List.append_subset.mp made).1
  | order =>
    have made := order_types_made listed
    rcases orderOutline_cases dataset (.of name) with none | some
    · rwa [none] at made
    · rw [some] at made
      exact (List.append_subset.mp made).1

end Dataset

open Catalog

/-- The inputs of a valid computed field are named like its arguments. -/
theorem ComputedField.inputs_names (valid : field.validate computed = .ok ()) :
    field.inputs.map (·.name) = field.arguments.map (·.name) := by
  obtain ⟨-, -, legal⟩ := validate_eq_ok.mp valid
  unfold inputs
  generalize field.arguments = arguments at legal ⊢
  induction arguments with
  | nil => rfl
  | cons argument rest ih =>
    obtain ⟨⟨-, first⟩, others⟩ := List.forall_mem_cons.mp legal
    obtain ⟨scalar, known⟩ := Option.isSome_iff_exists.mp first
    simp only [List.filterMap_cons, known, Option.map_some, List.map_cons, ih others]

/-- The types of a primitive are fixed. -/
theorem Primitive.outline_fixed {kind : Primitive} {outline : Outline}
    (found : kind.outline surface = some outline) : outline.types ⊆ leafTypes := by
  cases surface <;> cases kind <;> cases found <;> decide

/-- A valid schema type contributes fixed types and record types. -/
theorem SchemaType.outline_origin (type : SchemaType) (valid : type.validate = .ok ())
    {outline : Outline} (found : type.outline surface = some outline)
    (made : outline.types ⊆ catalog.madeTypes) : ∀ type ∈ outline.types, catalog.Origin type := by
  induction type using SchemaType.type_induction generalizing outline with
  | primitive kind => exact fun type member => .leaf (Primitive.outline_fixed found member)
  | record name fields ih =>
    obtain ⟨-, legal, -⟩ := RecordType.validate_eq_ok.mp valid
    rw [SchemaType.outline, Surface.recordOutline] at found
    split at found
    · cases found
    cases found
    have inner : ∀ part ∈ SchemaField.outlines surface fields, part.2.types ⊆ catalog.madeTypes :=
      fun part inside type member =>
        made (List.mem_append_left _ (List.mem_flatMap.mpr ⟨part, inside, member⟩))
    intro type member
    rcases List.mem_append.mp member with member | member
    · obtain ⟨part, inside, member⟩ := List.mem_flatMap.mp member
      obtain ⟨field, listed, -, outlined⟩ := mem_outlines.mp inside
      exact ih field listed (legal field listed).2 outlined (inner part inside) type member
    · cases List.mem_singleton.mp member
      exact .record surface name fields valid inner

/-- A computed field contributes the types of its result type or a fixed one. -/
theorem ComputedField.outline_origin (valid : field.resultType.validate = .ok ())
    {outline : Outline} (found : field.outline surface = some outline)
    (made : outline.types ⊆ catalog.madeTypes) : ∀ type ∈ outline.types, catalog.Origin type := by
  rw [ComputedField.outline] at found
  split at found
  · cases found
  · obtain ⟨type, scripted, rfl⟩ := Option.map_eq_some_iff.mp found
    intro other member
    cases List.mem_singleton.mp member
    refine .leaf ?_
    cases surface <;> cases scripted <;> decide
  · exact SchemaType.outline_origin _ valid found made

/-- The types made for a member of a dataset have origins, those of its wrapping included. -/
theorem Member.types_origin {member : Member} {entry : SurfaceEntry} {types : List NamedType}
    (valid : member.type.validate = .ok ()) (listed : (name, dataset) ∈ catalog.datasets.entries)
    (inside : member ∈ dataset.members)
    (found : member.entryOutline surface (.of name) = some (entry, types))
    (made : types ⊆ catalog.madeTypes) : ∀ type ∈ types, catalog.Origin type := by
  obtain ⟨outline, outlined, -, rfl⟩ := entryOutline_eq_some found
  obtain ⟨inner, outer⟩ := List.append_subset.mp made
  refine List.forall_mem_append.mpr ⟨?_, ?_⟩
  · cases member with
    | stored field => exact SchemaType.outline_origin _ valid outlined inner
    | computed computed field => exact ComputedField.outline_origin valid outlined inner
  · rcases wrapping_cases surface (.of name) outline.reference member with
      alone | ⟨computed, field, rfl, -, ⟨-, beside⟩ | ⟨key, suffix, wrapper, wrapped⟩⟩
    · simp [alone]
    · simp [beside]
    · rw [wrapped] at outer ⊢
      have owned := dataset.members_declared _ inside
      have appears : field.outline surface = some outline := outlined
      intro type own
      simp only [List.mem_cons, List.not_mem_nil, or_false] at own
      rcases own with rfl | rfl
      · exact .arguments listed owned (Option.ne_none_iff_exists'.mpr ⟨outline, appears⟩)
      · exact .wrapper surface listed owned wrapper appears inner (outer List.mem_cons_self)

namespace Dataset

/-- The types made for the entries of a valid dataset have origins in the catalog. -/
theorem surface_types_origin (valid : dataset.validate = .ok ())
    (listed : (name, dataset) ∈ catalog.datasets.entries) :
    ∀ type ∈ dataset.surfaceTypes surface (.of name), catalog.Origin type := by
  intro type appears
  obtain ⟨⟨entry, types⟩, outlined, own⟩ := List.mem_flatMap.mp appears
  obtain ⟨member, inside, found⟩ := List.mem_filterMap.mp outlined
  refine Member.types_origin (members_valid valid member inside) listed inside found ?_ type own
  exact fun other own =>
    surface_types_made listed (List.mem_flatMap.mpr ⟨_, outlined, own⟩)

/-- So have those made for its filter argument. -/
theorem filter_types_origin (valid : dataset.validate = .ok ())
    (listed : (name, dataset) ∈ catalog.datasets.entries) :
    ∀ type ∈ (dataset.filterOutline (.of name)).2, catalog.Origin type := by
  have made := filter_types_made listed
  rcases filterOutline_cases dataset (.of name) with none | some
  · rw [none]
    exact surface_types_origin valid listed
  · rw [some] at made ⊢
    obtain ⟨-, own⟩ := List.append_subset.mp made
    refine List.forall_mem_append.mpr ⟨surface_types_origin valid listed, ?_⟩
    intro type member
    simp only [List.mem_cons, List.not_mem_nil, or_false] at member
    rcases member with rfl | rfl
    · exact .combinations listed (own (by simp)) (own (by simp))
    · exact Origin.entries name dataset .filter listed (surface_types_made listed)

/-- So have those made for its order argument. -/
theorem order_types_origin (valid : dataset.validate = .ok ())
    (listed : (name, dataset) ∈ catalog.datasets.entries) :
    ∀ type ∈ (dataset.orderOutline (.of name)).2, catalog.Origin type := by
  rcases orderOutline_cases dataset (.of name) with none | some
  · rw [none]
    exact surface_types_origin valid listed
  · rw [some]
    refine List.forall_mem_append.mpr ⟨surface_types_origin valid listed, ?_⟩
    intro type member
    cases List.mem_singleton.mp member
    exact Origin.entries name dataset .order listed (surface_types_made listed)

/-- All types made for a dataset of a valid catalog have origins. -/
theorem root_types_origin (valid : dataset.validate = .ok ())
    (listed : (name, dataset) ∈ catalog.datasets.entries) :
    ∀ type ∈ (dataset.rootOutline name).2, catalog.Origin type := by
  simp only [rootOutline, List.forall_mem_append, List.forall_mem_singleton]
  refine ⟨⟨⟨surface_types_origin valid listed, filter_types_origin valid listed⟩,
    order_types_origin valid listed⟩, ?_⟩
  exact Origin.entries name dataset .field listed (surface_types_made listed)

end Dataset

/-- The origins of the types made for the entries of a dataset on a surface, valid or not: they are
fixed, or made for a record of which some part appears, or for a computed field with arguments. -/
inductive Dataset.EntryOrigin (dataset : Dataset) (surface : Surface) (names : DatasetNames) :
    NamedType → Prop where
  | leaf {type : NamedType} (fixed : type ∈ leafTypes) : EntryOrigin dataset surface names type
  | record (name : String) (fields : List SchemaField)
      (appears : SchemaField.outlines surface fields ≠ []) :
      EntryOrigin dataset surface names
        (surface.recordType name (SchemaField.outlines surface fields))
  | arguments {computed : String} {field : ComputedField}
      (owned : (computed, field) ∈ dataset.computed.entries) (takes : field.hasArguments = true) :
      EntryOrigin dataset surface names (Member.argumentsType names computed field)
  | wrapper {computed key suffix : String} {field : ComputedField} (reference : String)
      (wrapped : surface.wrapper? = some (key, suffix)) :
      EntryOrigin dataset surface names
        (Member.wrapperType names computed field key suffix (.named reference))

variable {names : DatasetNames} {outline : Outline}

/-- A schema type appears under a name. -/
theorem SchemaType.outline_named {type : SchemaType} (found : type.outline surface = some outline) :
    ∃ name, outline.reference = .named name := by
  cases type with
  | primitive kind => cases surface <;> cases kind <;> cases found <;> exact ⟨_, rfl⟩
  | record shape =>
    obtain ⟨name, fields⟩ := shape
    rw [SchemaType.outline, Surface.recordOutline] at found
    split at found
    · cases found
    cases found
    exact ⟨_, rfl⟩

theorem ComputedField.outline_named (found : field.outline surface = some outline) :
    ∃ name, outline.reference = .named name := by
  rw [ComputedField.outline] at found
  split at found
  · cases found
  · obtain ⟨type, -, rfl⟩ := Option.map_eq_some_iff.mp found
    exact ⟨_, rfl⟩
  · exact SchemaType.outline_named found

theorem SchemaType.outline_entryOrigin (type : SchemaType)
    (found : type.outline surface = some outline) :
    ∀ type ∈ outline.types, dataset.EntryOrigin surface names type := by
  induction type using SchemaType.type_induction generalizing outline with
  | primitive kind => exact fun type member => .leaf (Primitive.outline_fixed found member)
  | record name fields ih =>
    rw [SchemaType.outline, Surface.recordOutline] at found
    split at found
    · cases found
    next appears =>
      cases found
      refine List.forall_mem_append.mpr ⟨fun type member => ?_, List.forall_mem_singleton.mpr ?_⟩
      · obtain ⟨part, inside, member⟩ := List.mem_flatMap.mp member
        obtain ⟨field, listed, -, outlined⟩ := mem_outlines.mp inside
        exact ih field listed outlined type member
      · exact .record name fields (by simpa using appears)

theorem ComputedField.outline_entryOrigin (found : field.outline surface = some outline) :
    ∀ type ∈ outline.types, dataset.EntryOrigin surface names type := by
  rw [ComputedField.outline] at found
  split at found
  · cases found
  · obtain ⟨type, scripted, rfl⟩ := Option.map_eq_some_iff.mp found
    refine List.forall_mem_singleton.mpr (.leaf ?_)
    cases surface <;> cases scripted <;> decide
  · exact SchemaType.outline_entryOrigin _ found

theorem Member.outline_entryOrigin {member : Member} (found : member.outline surface = some outline) :
    ∀ type ∈ outline.types, dataset.EntryOrigin surface names type := by
  cases member with
  | stored field => exact SchemaType.outline_entryOrigin _ found
  | computed name field => exact ComputedField.outline_entryOrigin found

theorem Member.outline_named {member : Member} (found : member.outline surface = some outline) :
    ∃ name, outline.reference = .named name := by
  cases member with
  | stored field => exact SchemaType.outline_named found
  | computed name field => exact ComputedField.outline_named found

/-- Every type made for the entries of a dataset has one of these origins. -/
theorem Dataset.entryOrigin_of_surface :
    ∀ type ∈ dataset.surfaceTypes surface names, dataset.EntryOrigin surface names type := by
  intro type appears
  obtain ⟨⟨entry, types⟩, outlined, own⟩ := List.mem_flatMap.mp appears
  obtain ⟨member, inside, found⟩ := List.mem_filterMap.mp outlined
  obtain ⟨outline, shown, -, rfl⟩ := Member.entryOutline_eq_some found
  rcases List.mem_append.mp own with inner | outer
  · exact Member.outline_entryOrigin shown type inner
  · rcases Member.wrapping_cases surface names outline.reference member with
      alone | ⟨computed, field, rfl, takes, ⟨-, beside⟩ | ⟨key, suffix, wrapper, wrapped⟩⟩
    · simp [alone] at outer
    · simp [beside] at outer
    · obtain ⟨reference, same⟩ := Member.outline_named shown
      rw [wrapped, same] at outer
      simp only [List.mem_cons, List.not_mem_nil, or_false] at outer
      rcases outer with rfl | rfl
      · exact .arguments (dataset.members_declared _ inside) takes
      · exact .wrapper reference wrapper

/-- Every type made for a valid catalog has an origin. -/
theorem Catalog.origin_of_made (valid : catalog.validate = .ok ()) :
    ∀ type ∈ catalog.madeTypes, catalog.Origin type := by
  intro type made
  rcases List.mem_append.mp made with inside | query
  · obtain ⟨outline, root, member⟩ := List.mem_flatMap.mp inside
    obtain ⟨⟨name, dataset⟩, listed, rfl⟩ := List.mem_map.mp root
    have checked := (Catalog.validate_eq_ok.mp valid _ listed).2
    exact Dataset.root_types_origin checked listed type member
  · cases List.mem_singleton.mp query
    exact .query

/-- So has every type of a generated schema. -/
theorem Catalog.origin_of_generated {schema : ApiSchema} (built : catalog.IsBuilt)
    (generated : catalog.apiSchema .standard = .ok schema) :
    ∀ type ∈ schema.definitions, catalog.Origin type := by
  obtain ⟨valid, -⟩ := generated_contents built generated
  exact fun type member => origin_of_made valid type ((mem_generated built generated).mp member)

end TypedSearch
