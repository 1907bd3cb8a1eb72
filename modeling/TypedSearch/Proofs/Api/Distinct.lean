import TypedSearch.Proofs.Api.Closure

/-!
Repeated names in generated schemas. Fields are told apart by validation, and so are members and
datasets by the tables that hold them. Only the arguments of computed fields may repeat a name, and a
generated schema repeats names exactly where they do.
-/

namespace TypedSearch

open Outcome

/-- A type names its entries differently, and the arguments of each of its fields. -/
structure NamedType.NamesApart (type : NamedType) : Prop where
  /-- No two entries share a name. -/
  entries : type.entryNames.Nodup
  /-- No two arguments of a field share a name. -/
  arguments : ∀ field ∈ type.body.fields, (field.arguments.map (·.name)).Nodup

/-- A computed field appears in the API if it does so on some surface. -/
def ComputedField.Appears (field : ComputedField) : Prop :=
  ∃ surface : Surface, field.outline surface ≠ none

/-- The computed fields of a catalog that appear in the API do not repeat names of arguments. -/
def Catalog.ArgumentsDistinct (catalog : Catalog) : Prop :=
  ∀ entry ∈ catalog.datasets.entries, ∀ computed ∈ entry.2.computed.entries,
    computed.2.Appears → (computed.2.arguments.map (·.name)).Nodup

variable {catalog : Catalog} {schema : ApiSchema} {names : DatasetNames} {surface : Surface}

/-- A type that holds entries of a surface repeats no name if the entries and the arguments of each do
not. -/
theorem Surface.body_namesApart {name : String} {entries : List SurfaceEntry}
    (apart : (entries.map (·.name)).Nodup)
    (arguments : ∀ entry ∈ entries, (entry.arguments.map (·.name)).Nodup) :
    NamedType.NamesApart ⟨name, surface.body entries⟩ := by
  have named : NamedType.entryNames ⟨name, surface.body entries⟩ = entries.map (·.name) := by
    cases surface <;> exact List.map_map
  refine ⟨named ▸ apart, ?_⟩
  cases surface with
  | field => exact List.forall_mem_map.mpr arguments
  | filter | order => exact List.forall_mem_nil _

/-- The parts of a record are named like fields, in their order. -/
theorem SchemaField.outlines_sublist (surface : Surface) (fields : List SchemaField) :
    ((SchemaField.outlines surface fields).map (·.1)).Sublist (fields.map (·.name)) := by
  induction fields with
  | nil => exact .refl _
  | cons field rest ih =>
    obtain ⟨name, type⟩ := field
    rw [SchemaField.outlines, List.map_append, List.map_cons]
    cases SchemaType.outline surface type with
    | none => exact ih.cons _
    | some own => exact ih.cons_cons _

/-- The entries of members are named like the members, in their order. -/
theorem Member.entryOutlines_sublist (surface : Surface) (names : DatasetNames)
    (members : List Member) :
    ((entryOutlines surface names members).map (·.1.name)).Sublist (members.map Member.name) := by
  induction members with
  | nil => exact .refl _
  | cons member rest ih =>
    rw [entryOutlines, List.map_cons]
    cases found : entryOutline surface names member with
    | none =>
      rw [List.filterMap_cons_none found]
      exact ih.cons _
    | some made =>
      rw [List.filterMap_cons_some found, List.map_cons, entry_name found]
      exact ih.cons_cons _

namespace ComputedField

/-- Wherever a computed field with arguments appears, its inputs are those of a field or of a type. -/
theorem inputs_exposed {name : String} {field : ComputedField} {outline : Outline}
    (found : field.outline surface = some outline) (takes : field.hasArguments = true)
    (names : DatasetNames) :
    ∃ entry types, (Member.computed name field).entryOutline surface names = some (entry, types) ∧
      (surface = .field ∧ entry.arguments = field.inputs ∨
        Member.argumentsType names name field ∈ types) := by
  refine ⟨_, _, by rw [Member.entryOutline, Member.outline, found, Option.map_some], ?_⟩
  cases surface with
  | field => exact .inl ⟨rfl, by simp [Member.wrapping, takes, Surface.wrapper?]⟩
  | filter | order => exact .inr (by simp [Member.wrapping, takes, Surface.wrapper?])

end ComputedField

namespace Dataset

variable {dataset : Dataset} {name : String}

/-- No two entries of a valid dataset share a name. -/
theorem entries_distinct (valid : dataset.validate = .ok ()) (surface : Surface)
    (names : DatasetNames) : ((dataset.surfaceEntries surface names).map (·.name)).Nodup := by
  rw [surfaceEntries, List.map_map]
  exact (members_distinct valid).sublist (Member.entryOutlines_sublist surface names dataset.members)

/-- The arguments of the entries are those of computed fields that appear. -/
theorem entries_arguments (valid : dataset.validate = .ok ()) {entry : SurfaceEntry}
    (inside : entry ∈ dataset.surfaceEntries surface names) :
    entry.arguments = [] ∨ ∃ computed ∈ dataset.computed.entries, computed.2.Appears ∧
      entry.arguments.map (·.name) = computed.2.arguments.map (·.name) := by
  obtain ⟨⟨_, types⟩, outlined, rfl⟩ := List.mem_map.mp inside
  obtain ⟨member, listed, found⟩ := List.mem_filterMap.mp outlined
  refine (Member.entry_arguments found).imp_right ?_
  rintro ⟨name, field, rfl, -, same⟩
  obtain ⟨outline, appears, -⟩ := Member.entryOutline_eq_some found
  have owned := members_declared _ listed
  refine ⟨_, owned, ⟨surface, Option.ne_none_iff_exists'.mpr ⟨outline, appears⟩⟩, ?_⟩
  rw [same]
  exact ComputedField.inputs_names (computed_valid valid _ owned)

/-- No argument of a query field is repeated: one filters and one orders. -/
theorem rootField_distinct (dataset : Dataset) (name : String) :
    ((dataset.rootOutline name).1.arguments.map (·.name)).Nodup := by
  simp only [rootOutline, List.map_append]
  rcases filterOutline_cases dataset (.of name) with filter | filter <;>
    rcases orderOutline_cases dataset (.of name) with order | order <;>
    simp [filter, order]

end Dataset

namespace Catalog

/-- Whatever the origin of a type, it repeats no name, unless arguments of a computed field do. -/
theorem Origin.namesApart {type : NamedType} (origin : catalog.Origin type)
    (valid : catalog.validate = .ok ()) (distinct : catalog.ArgumentsDistinct) :
    type.NamesApart := by
  cases origin with
  | leaf fixed =>
    have apart : ∀ type ∈ leafTypes, type.entryNames.Nodup ∧ type.body.fields = [] := by decide
    obtain ⟨entries, none⟩ := apart type fixed
    exact ⟨entries, by simp [none]⟩
  | record surface name fields checked inner =>
    obtain ⟨-, -, apart⟩ := RecordType.validate_eq_ok.mp checked
    have parts : ((SchemaField.outlines surface fields).map (·.1)).Nodup :=
      List.Nodup.sublist (SchemaField.outlines_sublist surface fields) (List.pairwise_map.mpr apart)
    rw [Surface.recordType_eq]
    refine Surface.body_namesApart ?_ ?_
    · rwa [recordEntries, List.map_map]
    · exact List.forall_mem_map.mpr fun _ _ => List.nodup_nil
  | arguments listed owned appears =>
    have checked := (Catalog.validate_eq_ok.mp valid _ listed).2
    refine ⟨?_, List.forall_mem_nil _⟩
    rw [NamedType.entryNames, Member.argumentsType, TypeBody.entryNames,
      ComputedField.inputs_names (Dataset.computed_valid checked _ owned)]
    exact distinct _ listed _ owned ⟨_, appears⟩
  | wrapper surface listed owned wrapped =>
    cases surface <;> cases wrapped
    · exact ⟨(by decide : ["arguments", "filter"].Nodup), List.forall_mem_nil _⟩
    · exact ⟨(by decide : ["arguments", "order"].Nodup), List.forall_mem_nil _⟩
  | entries name dataset surface listed inner =>
    have checked := (Catalog.validate_eq_ok.mp valid _ listed).2
    refine Surface.body_namesApart (Dataset.entries_distinct checked surface (.of name)) ?_
    intro entry inside
    rcases Dataset.entries_arguments checked inside with none | ⟨computed, owned, appears, same⟩
    · simp [none]
    · exact same ▸ distinct _ listed computed owned appears
  | combinations => exact ⟨(by decide : ["cond", "and", "or"].Nodup), List.forall_mem_nil _⟩
  | query =>
    have apart : catalog.datasets.names.Nodup :=
      List.pairwise_map.mpr (catalog.datasets.ascending.imp String.ne_of_lt)
    refine ⟨?_, fun field member => ?_⟩
    · simpa [NamedType.entryNames, queryType, TypeBody.entryNames, rootOutlines, List.map_map,
        Function.comp_def, Dataset.rootOutline, Table.names] using apart
    · obtain ⟨outline, root, rfl⟩ := List.mem_map.mp member
      obtain ⟨⟨name, dataset⟩, -, rfl⟩ := List.mem_map.mp root
      exact dataset.rootField_distinct name

/-- If no type made for a catalog repeats a name, then no computed field that appears repeats a name
among its arguments: wherever it appears, they are made arguments of a field or entries of a type. -/
theorem argumentsDistinct_of_made (valid : catalog.validate = .ok ())
    (apart : ∀ type ∈ catalog.madeTypes, type.NamesApart) : catalog.ArgumentsDistinct := by
  rintro ⟨name, dataset⟩ listed ⟨computed, field⟩ owned ⟨surface, appears⟩
  obtain ⟨outline, found⟩ := Option.ne_none_iff_exists'.mp appears
  cases takes : field.hasArguments with
  | false =>
    have none : field.arguments = [] := by simpa [ComputedField.hasArguments] using takes
    simp [none]
  | true =>
    have checked := (Catalog.validate_eq_ok.mp valid _ listed).2
    have named := ComputedField.inputs_names (Dataset.computed_valid checked _ owned)
    obtain ⟨entry, types, outlined, exposed⟩ :=
      ComputedField.inputs_exposed found takes (.of name)
    have inside : (entry, types) ∈ Member.entryOutlines surface (.of name) dataset.members :=
      List.mem_filterMap.mpr ⟨_, Dataset.member_of_computed owned, outlined⟩
    rw [← named]
    rcases exposed with ⟨rfl, same⟩ | own
    · rw [← same]
      refine (apart _ (object_made listed)).arguments entry.toObjectField ?_
      exact List.mem_map.mpr ⟨entry, List.mem_map.mpr ⟨_, inside, rfl⟩, rfl⟩
    · have made : Member.argumentsType (.of name) computed field ∈ catalog.madeTypes :=
        Dataset.surface_types_made listed (List.mem_flatMap.mpr ⟨_, inside, own⟩)
      exact (apart _ made).entries

end Catalog

/-- A generated schema repeats no name in a type or among arguments exactly if none of the computed
fields that appear in it repeats the name of an argument. -/
theorem generated_names_apart_iff (built : catalog.IsBuilt)
    (generated : catalog.apiSchema .standard = .ok schema) :
    (∀ type ∈ schema.definitions, type.NamesApart) ↔ catalog.ArgumentsDistinct := by
  obtain ⟨valid, -⟩ := Catalog.generated_contents built generated
  constructor
  · intro apart
    refine Catalog.argumentsDistinct_of_made valid fun type made => ?_
    exact apart type ((Catalog.mem_generated built generated).mpr made)
  · intro distinct type member
    exact (Catalog.origin_of_generated built generated type member).namesApart valid distinct

theorem library_names_apart :
    ∃ schema, libraryCatalog.apiSchema .standard = .ok schema ∧
      ((∀ type ∈ schema.definitions, type.NamesApart) ↔ libraryCatalog.ArgumentsDistinct) := by
  obtain ⟨schema, generated⟩ := libraryCatalog_generated
  exact ⟨schema, generated, generated_names_apart_iff libraryCatalog_built generated⟩

/-- The catalog of one dataset of people with a score that takes two arguments of one name. -/
def scoreCatalog : Catalog :=
  let score : ComputedField :=
    { resultType := .primitive .float
      arguments := [⟨"x", .primitive .int⟩, ⟨"x", .primitive .float⟩]
      field := ComputedField.standardField }
  Catalog.empty.withDataset "people"
    ((Dataset.ofSchema ⟨"Person", [⟨"age", .primitive .int⟩]⟩ "people").withComputed "score" score)

theorem scoreCatalog_built : scoreCatalog.IsBuilt := by
  refine Catalog.isBuilt_withDataset nofun (Dataset.isBuilt_withComputed nofun fun surface => ?_)
  cases surface
  · exact .inr (.inr rfl)
  · exact .inl rfl
  · exact .inl rfl

/-- The type made for the people has a field with two arguments of one name. -/
theorem repeated_argument_generated :
    ∃ schema, scoreCatalog.IsBuilt ∧ scoreCatalog.apiSchema .standard = .ok schema ∧
      ∃ type ∈ schema.definitions, ∃ field ∈ type.body.fields,
        ¬ (field.arguments.map (·.name)).Nodup := by
  obtain ⟨schema, generated⟩ : ∃ schema, scoreCatalog.apiSchema .standard = .ok schema :=
    not_fails_iff.mp (by decide +kernel)
  have defined := (Catalog.mem_generated scoreCatalog_built generated).mpr
    (Catalog.object_made List.mem_cons_self)
  refine ⟨schema, scoreCatalog_built, generated, _, defined, _,
    List.mem_cons_of_mem _ List.mem_cons_self, ?_⟩
  decide +kernel

end TypedSearch
