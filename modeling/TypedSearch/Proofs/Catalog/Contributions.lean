import TypedSearch.Proofs.Api.Modularity
import TypedSearch.Proofs.Catalog.Entries
import TypedSearch.Proofs.Schema.Leaves

/-!
What members contribute to a generated API. A record of which nothing appears has no type, and is left
out of the record around it in turn, so no type that is made for an entry is empty. A dataset has an
argument for filters or orders if some member contributes to it, and the argument lists the members
that do, in their order.
-/

namespace TypedSearch

open ApiSchema Definitions Outcome

variable {catalog : Catalog} {schema : ApiSchema} {name : String} {dataset : Dataset}
  {names : DatasetNames} {surface : Surface} {member : Member} {members : List Member}

namespace Dataset

section Filled

variable (valid : dataset.validate = .ok ())

include valid

/-- No type made for the entries of a valid dataset is empty. -/
theorem surface_types_filled :
    ∀ type ∈ dataset.surfaceTypes surface names, type.entryNames ≠ [] := by
  intro type made
  cases entryOrigin_of_surface type made with
  | leaf fixed => exact (by decide : ∀ type ∈ leafTypes, type.entryNames ≠ []) type fixed
  | record name fields appears =>
    rw [Surface.recordType_eq]
    cases surface <;>
      simpa [NamedType.entryNames, TypeBody.entryNames, Surface.body, recordEntries] using appears
  | arguments owned takes =>
    have named := ComputedField.inputs_names (computed_valid valid _ owned)
    rw [Member.argumentsType, NamedType.entryNames, TypeBody.entryNames, named]
    simpa [ComputedField.hasArguments] using takes
  | wrapper => exact List.cons_ne_nil _ _

theorem filter_types_filled :
    ∀ type ∈ (dataset.filterOutline names).2, type.entryNames ≠ [] := by
  rw [filterOutline]
  split
  · exact surface_types_filled valid
  next some =>
    refine List.forall_mem_append.mpr ⟨surface_types_filled valid,
      List.forall_mem_cons.mpr ⟨List.cons_ne_nil _ _, List.forall_mem_singleton.mpr ?_⟩⟩
    simpa [DatasetNames.filterType, NamedType.entryNames, TypeBody.entryNames] using some

theorem order_types_filled :
    ∀ type ∈ (dataset.orderOutline names).2, type.entryNames ≠ [] := by
  rw [orderOutline]
  split
  · exact surface_types_filled valid
  next some =>
    refine List.forall_mem_append.mpr ⟨surface_types_filled valid,
      List.forall_mem_singleton.mpr ?_⟩
    simpa [DatasetNames.orderType, NamedType.entryNames, TypeBody.entryNames] using some

/-- Of the types made for a valid dataset none but its object type can be empty. -/
theorem root_types_filled : ∀ type ∈ (dataset.rootOutline name).2, type.entryNames = [] →
    type = (DatasetNames.of name).objectType (dataset.surfaceEntries .field (.of name)) := by
  simp only [rootOutline, List.forall_mem_append, List.forall_mem_singleton, implies_true, and_true]
  exact ⟨⟨fun type made empty => (surface_types_filled valid type made empty).elim,
    fun type made empty => (filter_types_filled valid type made empty).elim⟩,
    fun type made empty => (order_types_filled valid type made empty).elim⟩

end Filled

end Dataset

/-- No type made for a valid catalog is empty but the objects of datasets and of the queries. -/
theorem Catalog.made_types_filled (valid : catalog.validate = .ok ()) {type : NamedType}
    (made : type ∈ catalog.madeTypes) (empty : type.entryNames = []) :
    type.body = .object [] := by
  have object : ∀ fields, type.body = .object fields → type.body = .object [] := by
    intro fields shape
    rw [NamedType.entryNames, shape, TypeBody.entryNames, List.map_eq_nil_iff] at empty
    rw [shape, empty]
  rcases List.mem_append.mp made with inside | query
  · obtain ⟨outline, root, own⟩ := List.mem_flatMap.mp inside
    obtain ⟨⟨name, dataset⟩, listed, rfl⟩ := List.mem_map.mp root
    have checked := (Catalog.validate_eq_ok.mp valid _ listed).2
    exact object _ (congrArg _ (Dataset.root_types_filled checked type own empty))
  · exact object _ (congrArg _ (List.mem_singleton.mp query))

/-- A member contributes to a surface if it has a type there. -/
def Member.contributes (surface : Surface) (member : Member) : Bool :=
  match member.surfaceType surface .standard with
  | .ok (some _) => true
  | _ => false

namespace Member

/-- Members with entries on a surface have been asked for their types there. -/
theorem entries_answer {registry : Registry} {table all : Definitions} {found : List SurfaceEntry}
    (ran : entries surface registry names members table = .ok (found, all)) :
    ∀ member ∈ members, ∃ answer, member.surfaceType surface registry = .ok answer := by
  induction members generalizing table found with
  | nil => simp
  | cons member rest ih =>
    rw [entries] at ran
    obtain ⟨⟨own, joined⟩, ranFirst, ran⟩ := bind_eq_ok.mp ran
    obtain ⟨⟨later, final⟩, ranRest, done⟩ := bind_eq_ok.mp ran
    cases done
    obtain ⟨answer, answered, -⟩ := bind_eq_ok.mp ranFirst
    exact List.forall_mem_cons.mpr ⟨⟨answer, answered⟩, ih ranRest⟩

/-- A member that has an answer contributes if it is outlined. -/
theorem contributes_eq {answer : Option (Emitted TypeRef)} (built : member.IsBuilt)
    (answered : member.surfaceType surface .standard = .ok answer) :
    member.contributes surface = (member.outline surface).isSome := by
  have follows := surfaceType_follows built answered
  rw [contributes, answered]
  cases answer with
  | none => rw [follows.of_none, Option.isSome_none]
  | some emitted =>
    obtain ⟨outline, shown, -⟩ := follows.of_some
    rw [shown, Option.isSome_some]

/-- The entries of a surface are those of the members that contribute. -/
theorem entryOutlines_names (each : ∀ member ∈ members,
      member.contributes surface = (member.outline surface).isSome) :
    (entryOutlines surface names members).map (·.1.name) =
      (members.filter (contributes surface)).map Member.name := by
  induction members with
  | nil => rfl
  | cons member rest ih =>
    obtain ⟨own, later⟩ := List.forall_mem_cons.mp each
    rw [entryOutlines, List.filter_cons, own]
    cases found : entryOutline surface names member with
    | none =>
      have hidden : member.outline surface = none := by simpa [entryOutline] using found
      rw [List.filterMap_cons_none found, hidden]
      exact ih later
    | some made =>
      obtain ⟨outline, shown, -⟩ := entryOutline_eq_some found
      rw [List.filterMap_cons_some found, shown, List.map_cons, entry_name found]
      exact congrArg _ (ih later)

end Member

/-- Beside reading, a type does not appear if there is no truth value, number or text in it. -/
theorem SchemaType.outline_eq_none_iff (searched : surface ≠ .field) (type : SchemaType) :
    type.outline surface = none ↔
      ∀ leaf ∈ type.leaves, leaf.2 ∉ [Primitive.boolean, .int, .float, .string] := by
  induction type using SchemaType.type_induction with
  | primitive kind =>
    cases surface with
    | field => exact (searched rfl).elim
    | filter | order =>
      cases kind <;> simp [SchemaType.outline, Primitive.outline, SchemaType.leaves]
  | record name fields ih =>
    rw [record_outline_eq_none, SchemaType.forall_leaves_record
      fun kind => kind ∉ [Primitive.boolean, .int, .float, .string]]
    exact forall₂_congr ih

namespace Dataset

/-- For the query field of a dataset every member is asked for its type on every surface. -/
theorem rootField_answers {emitted : Emitted ObjectField}
    (ran : dataset.rootField .standard name = .ok emitted) (surface : Surface) :
    ∀ member ∈ dataset.members, ∃ answer, member.surfaceType surface .standard = .ok answer := by
  rw [rootField] at ran
  split at ran
  · cases ran
  obtain ⟨⟨fields, withFields⟩, ranFields, ran⟩ := bind_eq_ok.mp ran
  obtain ⟨⟨filter, withFilter⟩, ranFilter, ran⟩ := bind_eq_ok.mp ran
  obtain ⟨⟨order, withOrder⟩, ranOrder, -⟩ := bind_eq_ok.mp ran
  cases surface with
  | field => exact Member.entries_answer ranFields
  | filter =>
    obtain ⟨⟨entries, joined⟩, ranEntries, -⟩ := bind_eq_ok.mp ranFilter
    exact Member.entries_answer ranEntries
  | order =>
    obtain ⟨⟨entries, joined⟩, ranEntries, -⟩ := bind_eq_ok.mp ranOrder
    exact Member.entries_answer ranEntries

theorem types_of_outline {outline : Outline} (inside : member ∈ dataset.members)
    (shown : member.outline surface = some outline) :
    outline.types ⊆ dataset.surfaceTypes surface names := by
  have made : member.entryOutline surface names =
      some ((member.wrapping surface names outline.reference).1,
        outline.types ++ (member.wrapping surface names outline.reference).2) := by
    rw [Member.entryOutline, shown, Option.map_some]
  exact fun type own => List.mem_flatMap.mpr
    ⟨_, List.mem_filterMap.mpr ⟨member, inside, made⟩, List.mem_append_left _ own⟩

/-- The entries of a dataset on a surface are named like the members that contribute. -/
theorem entries_contributed {emitted : Emitted ObjectField} (built : dataset.IsBuilt)
    (ran : dataset.rootField .standard name = .ok emitted) :
    (dataset.surfaceEntries surface names).map (·.name) =
      (dataset.members.filter (Member.contributes surface)).map Member.name := by
  rw [surfaceEntries, List.map_map]
  refine Member.entryOutlines_names fun member inside => ?_
  obtain ⟨answer, answered⟩ := rootField_answers ran surface member inside
  exact Member.contributes_eq (members_built built member inside) answered

/-- So there are entries if some member contributes. -/
theorem entries_ne_nil_iff {emitted : Emitted ObjectField} (built : dataset.IsBuilt)
    (ran : dataset.rootField .standard name = .ok emitted) :
    dataset.surfaceEntries surface names ≠ [] ↔
      ∃ member ∈ dataset.members, member.contributes surface = true := by
  rw [Ne, ← List.map_eq_nil_iff, entries_contributed built ran, List.map_eq_nil_iff,
    List.filter_eq_nil_iff]
  simp

end Dataset

/-- In a generated schema no input type is empty, and no type that a member brings along. A dataset has
an argument for filters or orders exactly if some member contributes to it, the argument lists exactly
the members that do, in their order, and a stored member contributes exactly if there is a truth value,
a number or a text in its type. -/
theorem entries_as_contributed (built : catalog.IsBuilt)
    (generated : catalog.apiSchema .standard = .ok schema) :
    (∀ type ∈ schema.definitions, ∀ inputs, type.body = .inputObject inputs → inputs ≠ []) ∧
    ∀ name dataset, catalog.get? name = some dataset →
      (∀ member ∈ dataset.members, ∀ surface emitted,
        member.surfaceType surface .standard = .ok (some emitted) →
        ∀ type, emitted.definitions.get? type.name = some type →
          type ∈ schema.definitions ∧ type.entryNames ≠ []) ∧
      ((schema.argumentType? name "filter").isSome ↔
        ∃ member ∈ dataset.members, member.contributes .filter = true) ∧
      schema.filterEntries name =
        (dataset.members.filter (Member.contributes .filter)).map Member.name ∧
      ((schema.argumentType? name "order").isSome ↔
        ∃ member ∈ dataset.members, member.contributes .order = true) ∧
      schema.orderEntries name =
        (dataset.members.filter (Member.contributes .order)).map Member.name ∧
      ∀ field, Member.stored field ∈ dataset.members → ∀ surface, surface ≠ .field →
        ((Member.stored field).contributes surface = true ↔
          ∃ leaf ∈ field.type.leaves, leaf.2 ∈ [Primitive.boolean, .int, .float, .string]) := by
  obtain ⟨valid, -⟩ := Catalog.generated_contents built generated
  refine ⟨fun type listed inputs shape empty => ?_, fun name dataset found => ?_⟩
  · have made := (Catalog.mem_generated built generated).mp listed
    have none : type.entryNames = [] := by
      rw [NamedType.entryNames, shape, empty]
      rfl
    cases shape.symm.trans (Catalog.made_types_filled valid made none)
  have listed := Table.get?_eq_some_iff.mp found
  have own := built _ listed
  have serves := serves_of_built built generated found
  obtain ⟨emitted, ran⟩ := (Catalog.generated_apart built generated).1 _ listed
  refine ⟨fun member inside surface emitted answered type held => ?_, ?_, ?_, ?_, ?_,
    fun field inside surface searched => ?_⟩
  · have follows := Member.surfaceType_follows (Dataset.members_built own member inside) answered
    obtain ⟨outline, shown, -, holds⟩ := follows.of_some
    have part : type ∈ dataset.surfaceTypes surface (.of name) :=
      Dataset.types_of_outline inside shown ((holds _ _).mp held).1
    exact ⟨(Catalog.mem_generated built generated).mpr (Dataset.surface_types_made listed part),
      Dataset.surface_types_filled serves.valid type part⟩
  · rw [serves.filter_declared, Dataset.entries_ne_nil_iff own ran]
  · rw [serves.filterEntries_eq, Dataset.entries_contributed own ran]
  · rw [serves.order_declared, Dataset.entries_ne_nil_iff own ran]
  · rw [serves.orderEntries_eq, Dataset.entries_contributed own ran]
  · obtain ⟨answer, answered⟩ := Dataset.rootField_answers ran surface _ inside
    rw [Member.contributes_eq (Dataset.members_built own _ inside) answered,
      ← Option.ne_none_iff_isSome]
    have hidden := SchemaType.outline_eq_none_iff searched field.type
    exact (not_congr hidden).trans (by simp only [not_forall, not_not, exists_prop])

theorem library_entries_contributed : ∃ schema, libraryCatalog.apiSchema .standard = .ok schema ∧
    schema.filterEntries "books" =
      (bookDataset.members.filter (Member.contributes .filter)).map Member.name ∧
    ((schema.argumentType? "books" "order").isSome ↔
      ∃ member ∈ bookDataset.members, member.contributes .order = true) := by
  obtain ⟨schema, generated⟩ := libraryCatalog_generated
  obtain ⟨-, each⟩ := entries_as_contributed libraryCatalog_built generated
  obtain ⟨-, -, filters, orders, -⟩ := each "books" bookDataset rfl
  exact ⟨schema, generated, filters, orders⟩

end TypedSearch
