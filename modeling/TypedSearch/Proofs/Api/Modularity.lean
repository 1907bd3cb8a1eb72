import TypedSearch.Proofs.Api.Assembly
import TypedSearch.Proofs.Api.Closure

/-!
Generation dataset by dataset. The types of a generated schema are those that its datasets bring along,
each of them unchanged, and the query type. So a catalog with fewer datasets has a schema if the
whole has one, and it is the part of the whole that those datasets account for.
-/

namespace TypedSearch

open Definitions Outcome

variable {surface : Surface} {names : DatasetNames}

/-- No type of some has the name of the query type. -/
def NoneQueries (types : List NamedType) : Prop := ∀ type ∈ types, type.name ≠ queryTypeName

theorem noneQueries_append {types others : List NamedType} (first : NoneQueries types)
    (second : NoneQueries others) : NoneQueries (types ++ others) :=
  List.forall_mem_append.mpr ⟨first, second⟩

namespace Dataset

variable {dataset : Dataset} {name : String}

/-- No entry of a dataset needs a type that is named like the query type. -/
theorem surface_noneQueries : NoneQueries (dataset.surfaceTypes surface names) := by
  intro type made
  cases entryOrigin_of_surface type made with
  | leaf fixed => exact (by decide : ∀ type ∈ leafTypes, type.name ≠ queryTypeName) type fixed
  | record name fields =>
    cases surface with
    | field => exact append_ne name 'd' rfl (by decide)
    | filter | order => exact append_ne name 'r' rfl (by decide)
  | arguments => exact append_ne _ 's' rfl (by decide)
  | wrapper reference wrapped =>
    cases surface <;> cases wrapped <;> exact append_ne _ 'r' rfl (by decide)

/-- No type that is made for a dataset takes the place of the query type, the object type of the
dataset having no reserved name. -/
theorem root_noneQueries (free : (DatasetNames.of name).object ∉ reservedNames) :
    NoneQueries (dataset.rootOutline name).2 := by
  have filter : NoneQueries (dataset.filterOutline (.of name)).2 := by
    rcases filterOutline_cases dataset (.of name) with none | some
    · rw [none]
      exact surface_noneQueries
    · rw [some]
      refine noneQueries_append surface_noneQueries (List.forall_mem_cons.mpr ⟨?_, ?_⟩)
      · exact append_ne _ 'r' rfl (by decide)
      · exact List.forall_mem_singleton.mpr (append_ne _ 'r' rfl (by decide))
  have order : NoneQueries (dataset.orderOutline (.of name)).2 := by
    rcases orderOutline_cases dataset (.of name) with none | some
    · rw [none]
      exact surface_noneQueries
    · rw [some]
      refine noneQueries_append surface_noneQueries ?_
      exact List.forall_mem_singleton.mpr (append_ne _ 'r' rfl (by decide))
  have object : (DatasetNames.of name).object ≠ queryTypeName := by
    intro same
    rw [same] at free
    exact free (by decide)
  exact noneQueries_append (noneQueries_append (noneQueries_append surface_noneQueries filter) order)
    (List.forall_mem_singleton.mpr object)

end Dataset

namespace Catalog

variable {catalog part : Catalog} {schema : ApiSchema}

/-- If datasets have query fields, each of them has one by itself. -/
theorem rootFields_each {registry : Registry} {datasets : List (String × Dataset)}
    {table all : Definitions} {fields : List ObjectField}
    (ran : rootFields registry datasets table = .ok (fields, all)) :
    ∀ entry ∈ datasets, ∃ emitted, entry.2.rootField registry entry.1 = .ok emitted := by
  induction datasets generalizing table fields with
  | nil => simp
  | cons entry rest ih =>
    obtain ⟨name, dataset⟩ := entry
    rw [rootFields] at ran
    obtain ⟨emitted, ranFirst, ran⟩ := bind_eq_ok.mp ran
    obtain ⟨joined, merged, ran⟩ := bind_eq_ok.mp ran
    obtain ⟨⟨later, final⟩, ranRest, done⟩ := bind_eq_ok.mp ran
    cases done
    exact List.forall_mem_cons.mpr ⟨⟨emitted, ranFirst⟩, ih ranRest⟩

/-- Datasets that each have a query field have them together, if the types made for them differ in
their names. -/
theorem rootFields_succeed {datasets : List (String × Dataset)} {table : Definitions}
    {held types : List NamedType} (built : ∀ entry ∈ datasets, entry.2.IsBuilt)
    (each : ∀ entry ∈ datasets, ∃ emitted, entry.2.rootField .standard entry.1 = .ok emitted)
    (apart : ∀ type ∈ types, ∀ other ∈ types, type.name = other.name → type = other)
    (inside : ∀ entry ∈ datasets, (entry.2.rootOutline entry.1).2 ⊆ types)
    (holds : table.Collects held) (before : held ⊆ types) :
    ∃ result, rootFields .standard datasets table = .ok result := by
  induction datasets generalizing table held with
  | nil => exact ⟨_, rfl⟩
  | cons entry rest ih =>
    obtain ⟨name, dataset⟩ := entry
    obtain ⟨first, others⟩ := List.forall_mem_cons.mp built
    obtain ⟨⟨emitted, ran⟩, later⟩ := List.forall_mem_cons.mp each
    obtain ⟨own, beside⟩ := List.forall_mem_cons.mp inside
    obtain ⟨-, made⟩ := Dataset.rootField_follows first ran
    have merged := mergeChecked_succeeds holds made fun type member other given =>
      apart type (before member) other (own given)
    obtain ⟨⟨fields, all⟩, ranRest⟩ := ih others later beside
      (collects_mergeChecked merged holds made) (List.append_subset.mpr ⟨before, own⟩)
    refine ⟨(emitted.value :: fields, all), ?_⟩
    rw [rootFields, ran, ok_bind, merged, ok_bind, ranRest]
    rfl

/-- What a successful generation says of each dataset and of all the types. -/
theorem generated_apart (built : catalog.IsBuilt)
    (generated : catalog.apiSchema .standard = .ok schema) :
    (∀ entry ∈ catalog.datasets.entries,
      ∃ emitted, entry.2.rootField .standard entry.1 = .ok emitted) ∧
    ∀ type ∈ catalog.madeTypes, ∀ other ∈ catalog.madeTypes,
      type.name = other.name → type = other := by
  obtain ⟨-, -, table, -, whole⟩ := generated_table built generated
  refine ⟨?_, fun type one other two same => whole.apart one two same⟩
  obtain ⟨⟨⟩, -, ran⟩ := bind_eq_ok.mp generated
  obtain ⟨⟨fields, joined⟩, ranFields, -⟩ := bind_eq_ok.mp ran
  exact rootFields_each ranFields

/-- The types of a generated schema beside the query type are those made for the datasets. -/
theorem mem_generated_iff_root (built : catalog.IsBuilt)
    (generated : catalog.apiSchema .standard = .ok schema) {type : NamedType} :
    type ∈ schema.definitions ∧ type.name ≠ queryTypeName ↔
      ∃ entry ∈ catalog.datasets.entries, type ∈ (entry.2.rootOutline entry.1).2 := by
  have free := generated_unreserved generated
  rw [mem_generated built generated, madeTypes, List.mem_append, List.mem_flatMap]
  constructor
  · rintro ⟨⟨outline, root, own⟩ | query, other⟩
    · obtain ⟨entry, listed, rfl⟩ := List.mem_map.mp root
      exact ⟨entry, listed, own⟩
    · cases List.mem_singleton.mp query
      exact (other rfl).elim
  · rintro ⟨entry, listed, own⟩
    exact ⟨.inl ⟨_, List.mem_map.mpr ⟨entry, listed, rfl⟩, own⟩,
      Dataset.root_noneQueries (free entry listed) type own⟩

section Part

variable (inside : part.datasets.entries ⊆ catalog.datasets.entries)

include inside

/-- Some datasets of a catalog are those of its entries whose names they have. -/
theorem entries_of_part : part.datasets.entries =
    catalog.datasets.entries.filter fun entry => part.datasets.contains entry.1 := by
  refine Table.entries_eq_of_mem_iff part.datasets.ascending
    (catalog.datasets.ascending.filter _) fun entry => ?_
  rw [List.mem_filter, ← Table.mem_names, Table.names, List.mem_map]
  constructor
  · intro listed
    exact ⟨inside listed, entry, listed, rfl⟩
  · rintro ⟨listed, other, own, same⟩
    have found := Table.get?_eq_some_iff.mpr (inside own)
    rw [same, Table.get?_eq_some_iff.mpr listed] at found
    have equal : entry = other := Prod.ext same.symm (Option.some.inj found)
    exact equal ▸ own

/-- A part of a catalog that has a schema has one. -/
theorem part_generated (built : catalog.IsBuilt)
    (generated : catalog.apiSchema .standard = .ok schema) :
    ∃ smaller, part.apiSchema .standard = .ok smaller := by
  obtain ⟨valid, -⟩ := generated_table built generated
  obtain ⟨each, apart⟩ := generated_apart built generated
  have free := generated_unreserved generated
  have ownBuilt : ∀ entry ∈ part.datasets.entries, entry.2.IsBuilt :=
    fun entry listed => built entry (inside listed)
  have checked : part.validate = .ok () := validate_eq_ok.mpr fun entry listed =>
    validate_eq_ok.mp valid entry (inside listed)
  obtain ⟨⟨fields, table⟩, ran⟩ : ∃ result,
      rootFields .standard part.datasets.entries .empty = .ok result :=
    rootFields_succeed ownBuilt (fun entry listed => each entry (inside listed)) apart
      (fun entry listed => root_types_made (inside listed)) collects_empty (List.nil_subset _)
  obtain ⟨-, collected⟩ := rootFields_follow ownBuilt ran collects_empty
  -- The query type of the part is another one, but no type beside it has its name.
  have merged := mergeChecked_succeeds collected
    (collects_of ⟨queryTypeName, .object fields⟩) fun type member other given same => by
      cases List.mem_singleton.mp given
      obtain ⟨outline, root, own⟩ := List.mem_flatMap.mp member
      obtain ⟨entry, listed, rfl⟩ := List.mem_map.mp root
      exact (Dataset.root_noneQueries (free entry (inside listed)) type own same).elim
  obtain ⟨types, finished⟩ :=
    (Made.joined (rootFields_made ownBuilt ran .empty) (.of _) merged).finish
  refine ⟨⟨queryTypeName, types⟩, ?_⟩
  rw [apiSchema, checked, ok_bind, ran, ok_bind]
  simp only [merged, ok_bind, finished, pure_eq_ok]

end Part

end Catalog

/-- If a catalog has a schema, any part of it has one: it defines what the whole defines, but for the
query type, which has the fields of the part's datasets in the same order. And beside the query
type the schema defines exactly what its datasets emit, every one of which emits something. -/
theorem generation_modular {catalog : Catalog} {schema : ApiSchema} (built : catalog.IsBuilt)
    (generated : catalog.apiSchema .standard = .ok schema) :
    (∀ part : Catalog, part.datasets.entries ⊆ catalog.datasets.entries →
      ∃ smaller, part.apiSchema .standard = .ok smaller ∧
        (∀ type ∈ smaller.definitions, type.name ≠ queryTypeName → type ∈ schema.definitions) ∧
        ∃ fields, schema.queryType? = some ⟨queryTypeName, .object fields⟩ ∧
          smaller.queryType? = some ⟨queryTypeName,
            .object (fields.filter fun field => part.datasets.contains field.name)⟩) ∧
    (∀ entry ∈ catalog.datasets.entries,
      ∃ emitted, entry.2.rootField .standard entry.1 = .ok emitted) ∧
    ∀ type, type ∈ schema.definitions ∧ type.name ≠ queryTypeName ↔
      ∃ entry ∈ catalog.datasets.entries, ∃ emitted,
        entry.2.rootField .standard entry.1 = .ok emitted ∧
          emitted.definitions.get? type.name = some type := by
  have each := (Catalog.generated_apart built generated).1
  refine ⟨fun part inside => ?_, each, fun type => ?_⟩
  · obtain ⟨smaller, ran⟩ := Catalog.part_generated inside built generated
    have ownBuilt : part.IsBuilt := fun entry listed => built entry (inside listed)
    refine ⟨smaller, ran, fun type member other => ?_, _,
      Catalog.generated_queryType built generated, ?_⟩
    · obtain ⟨entry, listed, own⟩ :=
        (Catalog.mem_generated_iff_root ownBuilt ran).mp ⟨member, other⟩
      exact ((Catalog.mem_generated_iff_root built generated).mpr ⟨entry, inside listed, own⟩).1
    · rw [Catalog.generated_queryType ownBuilt ran, Catalog.queryType, Catalog.rootOutlines,
        Catalog.entries_of_part inside]
      simp only [Catalog.rootOutlines, List.map_map, List.filter_map]
      rfl
  · rw [Catalog.mem_generated_iff_root built generated]
    refine exists_congr fun entry => and_congr_right fun listed => ?_
    obtain ⟨emitted, ran⟩ := each entry listed
    obtain ⟨-, holds⟩ := Dataset.rootField_follows (built entry listed) ran
    have defined : emitted.definitions.get? type.name = some type ↔
        type ∈ (entry.2.rootOutline entry.1).2 := by
      simp [holds type.name type]
    simp only [ran, Except.ok.injEq, exists_eq_left', defined]

/-- The rare books alone have a schema, and it has no type but those of the whole library. -/
theorem library_generation_modular :
    ∃ schema rare, libraryCatalog.apiSchema .standard = .ok schema ∧
      (Catalog.empty.withDataset "rare_books" bookDataset).apiSchema .standard = .ok rare ∧
      (∀ type ∈ rare.definitions, type.name ≠ queryTypeName → type ∈ schema.definitions) ∧
      ∃ emitted, bookDataset.rootField .standard "books" = .ok emitted ∧
        ∀ type, emitted.definitions.get? type.name = some type → type ∈ schema.definitions := by
  obtain ⟨schema, generated⟩ := libraryCatalog_generated
  obtain ⟨parts, each, union⟩ := generation_modular libraryCatalog_built generated
  have inside : (Catalog.empty.withDataset "rare_books" bookDataset).datasets.entries ⊆
      libraryCatalog.datasets.entries := List.subset_cons_self _ _
  have books : ("books", bookDataset) ∈ libraryCatalog.datasets.entries := List.mem_cons_self
  obtain ⟨rare, ran, included, -⟩ := parts _ inside
  obtain ⟨emitted, emits⟩ := each _ books
  refine ⟨schema, rare, generated, ran, included, emitted, emits, fun type defined => ?_⟩
  exact ((union type).mpr ⟨_, books, emitted, emits, defined⟩).1

end TypedSearch
