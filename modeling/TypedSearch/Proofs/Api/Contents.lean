import TypedSearch.Proofs.Api.Generation
import TypedSearch.Proofs.Catalog.Dataset

/-!
What a generated schema contains. The tables of datasets and of the catalog follow their outlines, and
the list that is made of the last table finds each type under its name. So a generated schema defines
the types that are made for its catalog and no others.
-/

namespace TypedSearch

open Definitions Outcome

variable {names : DatasetNames} {table all : Definitions} {types : List NamedType}

namespace Dataset

variable {dataset : Dataset}

theorem members_built (built : dataset.IsBuilt) : ∀ member ∈ dataset.members, member.IsBuilt :=
  forall_members (fun _ _ => trivial) built

theorem entries_follow {surface : Surface} {entries : List SurfaceEntry} (built : dataset.IsBuilt)
    (ran : Member.entries surface .standard names dataset.members table = .ok (entries, all))
    (holds : table.Collects types) :
    entries = dataset.surfaceEntries surface names ∧
      all.Collects (types ++ dataset.surfaceTypes surface names) :=
  Member.entries_follow (members_built built) ran holds

theorem filterArgument_follows {arguments : List InputValue} (built : dataset.IsBuilt)
    (ran : dataset.filterArgument .standard names table = .ok (arguments, all))
    (holds : table.Collects types) :
    arguments = (dataset.filterOutline names).1 ∧
      all.Collects (types ++ (dataset.filterOutline names).2) := by
  obtain ⟨⟨entries, joined⟩, ranEntries, ran⟩ := bind_eq_ok.mp ran
  obtain ⟨rfl, collected⟩ := entries_follow built ranEntries holds
  rw [filterOutline]
  cases empty : (dataset.surfaceEntries .filter names).isEmpty with
  | true =>
    simp only [empty, ↓reduceIte] at ran ⊢
    cases ran
    exact ⟨rfl, collected⟩
  | false =>
    simp only [empty, Bool.false_eq_true, ↓reduceIte] at ran ⊢
    obtain ⟨⟨declared, pending⟩, fresh, ran⟩ := bind_eq_ok.mp ran
    obtain ⟨final, merged, done⟩ := bind_eq_ok.mp ran
    cases done
    obtain ⟨unchanged, rfl, new⟩ := collects_declare fresh collected
    have populated : (declared.insert names.combinationsType).Collects _ :=
      collects_insert unchanged new
    have collected := collects_mergeChecked merged populated
      (collects_of (names.filterType (dataset.surfaceEntries .filter names)))
    refine ⟨rfl, ?_⟩
    simpa only [List.append_assoc, List.cons_append, List.nil_append] using collected

theorem orderArgument_follows {arguments : List InputValue} (built : dataset.IsBuilt)
    (ran : dataset.orderArgument .standard names table = .ok (arguments, all))
    (holds : table.Collects types) :
    arguments = (dataset.orderOutline names).1 ∧
      all.Collects (types ++ (dataset.orderOutline names).2) := by
  obtain ⟨⟨entries, joined⟩, ranEntries, ran⟩ := bind_eq_ok.mp ran
  obtain ⟨rfl, collected⟩ := entries_follow built ranEntries holds
  rw [orderOutline]
  cases empty : (dataset.surfaceEntries .order names).isEmpty with
  | true =>
    simp only [empty, ↓reduceIte] at ran ⊢
    cases ran
    exact ⟨rfl, collected⟩
  | false =>
    simp only [empty, Bool.false_eq_true, ↓reduceIte] at ran ⊢
    obtain ⟨final, merged, done⟩ := bind_eq_ok.mp ran
    cases done
    have collected := collects_mergeChecked merged collected
      (collects_of (names.orderType (dataset.surfaceEntries .order names)))
    refine ⟨rfl, ?_⟩
    simpa only [List.append_assoc] using collected

/-- The query field of a dataset is the outlined one, with the types made for the dataset. -/
theorem rootField_follows {name : String} {emitted : Emitted ObjectField} (built : dataset.IsBuilt)
    (ran : dataset.rootField .standard name = .ok emitted) :
    emitted.value = (dataset.rootOutline name).1 ∧
      emitted.definitions.Collects (dataset.rootOutline name).2 := by
  rw [rootField] at ran
  split at ran
  · cases ran
  obtain ⟨⟨fields, withFields⟩, ranFields, ran⟩ := bind_eq_ok.mp ran
  obtain ⟨⟨filter, withFilter⟩, ranFilter, ran⟩ := bind_eq_ok.mp ran
  obtain ⟨⟨order, withOrder⟩, ranOrder, ran⟩ := bind_eq_ok.mp ran
  obtain ⟨final, merged, done⟩ := bind_eq_ok.mp ran
  cases done
  obtain ⟨rfl, collected⟩ := entries_follow built ranFields collects_empty
  obtain ⟨rfl, collected⟩ := filterArgument_follows built ranFilter collected
  obtain ⟨rfl, collected⟩ := orderArgument_follows built ranOrder collected
  exact ⟨rfl, collects_mergeChecked merged collected (collects_of _)⟩

end Dataset

namespace Catalog

variable {catalog : Catalog} {schema : ApiSchema}

theorem rootFields_follow {datasets : List (String × Dataset)} {fields : List ObjectField}
    (built : ∀ entry ∈ datasets, entry.2.IsBuilt)
    (ran : rootFields .standard datasets table = .ok (fields, all))
    (holds : table.Collects types) :
    fields = (rootOutlines datasets).map (·.1) ∧
      all.Collects (types ++ (rootOutlines datasets).flatMap (·.2)) := by
  induction datasets generalizing table types fields with
  | nil =>
    cases ran
    exact ⟨rfl, by simpa [rootOutlines] using holds⟩
  | cons entry rest ih =>
    obtain ⟨first, others⟩ := List.forall_mem_cons.mp built
    obtain ⟨name, dataset⟩ := entry
    rw [rootFields] at ran
    obtain ⟨emitted, ranFirst, ran⟩ := bind_eq_ok.mp ran
    obtain ⟨joined, merged, ran⟩ := bind_eq_ok.mp ran
    obtain ⟨⟨later, final⟩, ranRest, done⟩ := bind_eq_ok.mp ran
    cases done
    obtain ⟨same, own⟩ := Dataset.rootField_follows first ranFirst
    obtain ⟨rfl, collected⟩ := ih others ranRest (collects_mergeChecked merged holds own)
    refine ⟨by simp [rootOutlines, same], ?_⟩
    simpa [rootOutlines, List.append_assoc] using collected

/-- A dataset whose object type would have a reserved name gets no query field. -/
theorem rootFields_unreserved {registry : Registry} {datasets : List (String × Dataset)}
    {fields : List ObjectField} (ran : rootFields registry datasets table = .ok (fields, all)) :
    ∀ entry ∈ datasets, (DatasetNames.of entry.1).object ∉ reservedNames := by
  induction datasets generalizing table fields with
  | nil => simp
  | cons entry rest ih =>
    obtain ⟨name, dataset⟩ := entry
    rw [rootFields] at ran
    obtain ⟨emitted, ranFirst, ran⟩ := bind_eq_ok.mp ran
    obtain ⟨joined, merged, ran⟩ := bind_eq_ok.mp ran
    obtain ⟨⟨later, final⟩, ranRest, done⟩ := bind_eq_ok.mp ran
    cases done
    refine List.forall_mem_cons.mpr ⟨?_, ih ranRest⟩
    rw [Dataset.rootField] at ranFirst
    split at ranFirst
    · cases ranFirst
    next free => simpa using free

/-- A generated schema is one of a valid catalog, and lists a table of the types made for it. -/
theorem generated_table (built : catalog.IsBuilt)
    (generated : catalog.apiSchema .standard = .ok schema) :
    catalog.validate = .ok () ∧ schema.query = queryTypeName ∧
      ∃ table : Definitions, table.finish = .ok schema.definitions ∧
        table.Collects catalog.madeTypes := by
  rw [apiSchema] at generated
  obtain ⟨⟨⟩, valid, ran⟩ := bind_eq_ok.mp generated
  obtain ⟨⟨fields, joined⟩, ranFields, ran⟩ := bind_eq_ok.mp ran
  obtain ⟨final, merged, ran⟩ := bind_eq_ok.mp ran
  obtain ⟨listed, finished, done⟩ := bind_eq_ok.mp ran
  cases done
  obtain ⟨rfl, collected⟩ := rootFields_follow built ranFields collects_empty
  exact ⟨valid, rfl, final, finished, collects_mergeChecked merged collected (collects_of _)⟩

/-- A generated schema is one of a valid catalog, and it defines exactly the types made for it. -/
theorem generated_contents (built : catalog.IsBuilt)
    (generated : catalog.apiSchema .standard = .ok schema) :
    catalog.validate = .ok () ∧ schema.query = queryTypeName ∧
      ∀ name type, schema.get? name = some type ↔ type ∈ catalog.madeTypes ∧ type.name = name := by
  obtain ⟨valid, query, table, finished, whole⟩ := generated_table built generated
  refine ⟨valid, query, fun name type => ?_⟩
  rw [← whole name type, ← finish_find? finished whole]
  rfl

theorem generated_queryType (built : catalog.IsBuilt)
    (generated : catalog.apiSchema .standard = .ok schema) :
    schema.queryType? = some catalog.queryType := by
  obtain ⟨-, query, contents⟩ := generated_contents built generated
  rw [ApiSchema.queryType?, query, contents]
  exact ⟨List.mem_append_right _ List.mem_cons_self, rfl⟩

theorem generated_unreserved {registry : Registry}
    (generated : catalog.apiSchema registry = .ok schema) :
    ∀ entry ∈ catalog.datasets.entries, (DatasetNames.of entry.1).object ∉ reservedNames := by
  rw [apiSchema] at generated
  obtain ⟨⟨⟩, -, ran⟩ := bind_eq_ok.mp generated
  obtain ⟨⟨fields, joined⟩, ranFields, -⟩ := bind_eq_ok.mp ran
  exact rootFields_unreserved ranFields

theorem mem_generated (built : catalog.IsBuilt)
    (generated : catalog.apiSchema .standard = .ok schema) {type : NamedType} :
    type ∈ schema.definitions ↔ type ∈ catalog.madeTypes := by
  obtain ⟨-, -, table, finished, whole⟩ := generated_table built generated
  exact mem_finish finished whole

/-- The types of a generated schema are in the strict order of their names. -/
theorem generated_ascending (built : catalog.IsBuilt)
    (generated : catalog.apiSchema .standard = .ok schema) :
    schema.definitions.Pairwise fun left right => left.name < right.name := by
  obtain ⟨-, -, table, finished, whole⟩ := generated_table built generated
  exact finish_ascending finished whole.keyed

/-- In the query type the field of a dataset stands under the dataset's name. -/
theorem queryType_objectField? {name : String} {dataset : Dataset}
    (found : catalog.get? name = some dataset) :
    catalog.queryType.objectField? name = some (dataset.rootOutline name).1 := by
  have listed := Table.get?_eq_some_iff.mp found
  simp only [NamedType.objectField?, queryType, rootOutlines, List.map_map]
  cases search : List.find? _ _ with
  | none =>
    have absent := List.find?_eq_none.mp search (dataset.rootOutline name).1
      (List.mem_map.mpr ⟨_, listed, rfl⟩)
    simp [Dataset.rootOutline] at absent
  | some field =>
    obtain ⟨⟨other, another⟩, inside, rfl⟩ := List.mem_map.mp (List.mem_of_find?_eq_some search)
    have same : other = name := by simpa [Dataset.rootOutline] using List.find?_some search
    subst same
    cases found.symm.trans (Table.get?_eq_some_iff.mpr inside)
    rfl

end Catalog

end TypedSearch
