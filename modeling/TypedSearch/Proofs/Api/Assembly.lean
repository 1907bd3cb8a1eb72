import TypedSearch.Proofs.Api.Contents

/-!
How generation puts its tables together. Every table that it hands on is made of single types by
checked joins, and the one name that it declares it populates before anything else. So whatever the
generator makes for a dataset, alone or beside others, can be finished.
-/

namespace TypedSearch

open Definitions Outcome

variable {surface : Surface} {names : DatasetNames} {table all : Definitions}
  {emitted : Emitted TypeRef}

namespace Handler

theorem made_definedArg (type : NamedType) : (Emitted.bare type).includeSelf.definitions.Made :=
  .of type

theorem partEntries_made {parts : List (Part Unit (Emitted TypeRef))}
    {entries : List (String × TypeRef)}
    (each : ∀ part ∈ parts, ∀ emitted, part.answer () = .ok (some emitted) →
      emitted.definitions.Made)
    (ran : partEntries parts table = .ok (entries, all)) (before : table.Made) : all.Made := by
  induction parts generalizing table entries with
  | nil =>
    cases ran
    exact before
  | cons part rest ih =>
    obtain ⟨first, others⟩ := List.forall_mem_cons.mp each
    rw [partEntries] at ran
    obtain ⟨answer, answered, ran⟩ := bind_eq_ok.mp ran
    cases answer with
    | none => exact ih others ran before
    | some emitted =>
      obtain ⟨joined, merged, ran⟩ := bind_eq_ok.mp ran
      obtain ⟨⟨later, final⟩, ranRest, done⟩ := bind_eq_ok.mp ran
      cases done
      exact ih others ranRest (.joined before (first emitted answered) merged)

theorem aggregate_made {suffix : String} {body : List (String × TypeRef) → TypeBody}
    {site : Site Unit (Emitted TypeRef)}
    (each : ∀ part ∈ site.parts, ∀ emitted, part.answer () = .ok (some emitted) →
      emitted.definitions.Made)
    (ran : (aggregate suffix body).resolve site () = .ok (some emitted)) :
    emitted.definitions.Made := by
  simp only [aggregate, Capability.resolve] at ran
  split at ran
  · cases ran
  obtain ⟨⟨entries, table⟩, ranParts, ran⟩ := bind_eq_ok.mp ran
  split at ran
  · cases ran
  obtain ⟨joined, merged, done⟩ := bind_eq_ok.mp ran
  cases done
  exact .joined (partEntries_made each ranParts .empty) (.of _) merged

end Handler

open Handler

/-- What the standard registry answers for a type comes with a made table. -/
theorem standard_made (type : SchemaType) {path : FieldPath}
    (ran : Registry.standard.resolve surface.pick type path () = .ok (some emitted)) :
    emitted.definitions.Made := by
  induction type using SchemaType.type_induction generalizing path emitted with
  | primitive kind =>
    rw [Registry.standard_resolve_primitive] at ran
    cases kind with
    | boolean | int | float | string | bytes =>
      cases surface <;> cases ran <;> first | exact .empty | exact made_definedArg _
    | null | long | double => cases ran
  | record name fields ih =>
    rw [Registry.standard_resolve_record] at ran
    have each : ∀ part ∈ fields.map fun field =>
        (⟨field, Registry.standard.resolve surface.pick field.type (path.child field.name)⟩ :
          Part Unit (Emitted TypeRef)),
        ∀ emitted, part.answer () = .ok (some emitted) → emitted.definitions.Made := by
      intro part listed emitted answered
      obtain ⟨field, inside, rfl⟩ := List.mem_map.mp listed
      exact ih field inside answered
    cases surface <;> exact aggregate_made each ran

theorem Surface.registryType_eq (surface : Surface) (registry : Registry) (type : SchemaType)
    (path : FieldPath) :
    surface.registryType registry type path = registry.resolve surface.pick type path () := by
  cases surface <;> rfl

theorem Surface.standard_resolve (surface : Surface) (site : ComputedSite) :
    surface.standard.resolve site () = surface.registryType site.registry site.type site.path := by
  cases surface <;> rfl

theorem ComputedField.capability_made {field : ComputedField} {path : FieldPath}
    (built : field.IsBuilt)
    (ran : (surface.capability field).resolve ⟨.standard, field.resultType, path⟩ () =
      .ok (some emitted)) : emitted.definitions.Made := by
  rcases built surface with absent | ⟨type, -, defined⟩ | standard
  · rw [absent] at ran
    cases ran
  · rw [defined] at ran
    cases ran
    exact made_definedArg type
  · rw [standard, Surface.standard_resolve, Surface.registryType_eq] at ran
    exact standard_made field.resultType ran

namespace Member

variable {member : Member}

theorem surfaceType_made (built : member.IsBuilt)
    (ran : member.surfaceType surface .standard = .ok (some emitted)) :
    emitted.definitions.Made := by
  cases member with
  | stored field =>
    rw [surfaceType, Surface.registryType_eq] at ran
    exact standard_made field.type ran
  | computed name field => exact ComputedField.capability_made built ran

theorem wrapped_made {reference : TypeRef} {entry : SurfaceEntry}
    (ran : member.wrapped surface names reference table = .ok (entry, all)) (before : table.Made) :
    all.Made := by
  cases member with
  | stored field =>
    cases ran
    exact before
  | computed name field =>
    rw [wrapped] at ran
    split at ran
    next =>
      cases ran
      exact before
    next =>
      obtain ⟨arguments, -, ran⟩ := bind_eq_ok.mp ran
      split at ran
      next =>
        split at ran
        next =>
          cases ran
          exact before
        next => cases ran
      next =>
        obtain ⟨withArguments, first, ran⟩ := bind_eq_ok.mp ran
        obtain ⟨withWrapper, second, done⟩ := bind_eq_ok.mp ran
        cases done
        exact .joined (.joined before (.of _) first) (.of _) second

theorem entry_made {entry : Option SurfaceEntry} (built : member.IsBuilt)
    (ran : member.entry surface .standard names table = .ok (entry, all)) (before : table.Made) :
    all.Made := by
  rw [Member.entry] at ran
  obtain ⟨answer, answered, ran⟩ := bind_eq_ok.mp ran
  cases answer with
  | none =>
    cases ran
    exact before
  | some emitted =>
    obtain ⟨joined, merged, ran⟩ := bind_eq_ok.mp ran
    obtain ⟨⟨made, final⟩, wrappedUp, done⟩ := bind_eq_ok.mp ran
    cases done
    exact wrapped_made wrappedUp (.joined before (surfaceType_made built answered) merged)

theorem entries_made {members : List Member} {entries : List SurfaceEntry}
    (built : ∀ member ∈ members, member.IsBuilt)
    (ran : Member.entries surface .standard names members table = .ok (entries, all))
    (before : table.Made) : all.Made := by
  induction members generalizing table entries with
  | nil =>
    cases ran
    exact before
  | cons member rest ih =>
    obtain ⟨first, others⟩ := List.forall_mem_cons.mp built
    rw [Member.entries] at ran
    obtain ⟨⟨found, joined⟩, ranFirst, ran⟩ := bind_eq_ok.mp ran
    obtain ⟨⟨later, final⟩, ranRest, done⟩ := bind_eq_ok.mp ran
    cases done
    exact ih others ranRest (entry_made first ranFirst before)

end Member

namespace Dataset

variable {dataset : Dataset}

theorem filterArgument_made {arguments : List InputValue} (built : dataset.IsBuilt)
    (ran : dataset.filterArgument .standard names table = .ok (arguments, all))
    (before : table.Made) : all.Made := by
  obtain ⟨⟨entries, joined⟩, ranEntries, ran⟩ := bind_eq_ok.mp ran
  have inner := Member.entries_made (members_built built) ranEntries before
  cases empty : entries.isEmpty with
  | true =>
    simp only [empty, ↓reduceIte] at ran
    cases ran
    exact inner
  | false =>
    simp only [empty, Bool.false_eq_true, ↓reduceIte] at ran
    obtain ⟨⟨declared, pending⟩, fresh, ran⟩ := bind_eq_ok.mp ran
    obtain ⟨final, merged, done⟩ := bind_eq_ok.mp ran
    cases done
    exact .joined (.recursive _ inner fresh) (.of _) merged

theorem orderArgument_made {arguments : List InputValue} (built : dataset.IsBuilt)
    (ran : dataset.orderArgument .standard names table = .ok (arguments, all))
    (before : table.Made) : all.Made := by
  obtain ⟨⟨entries, joined⟩, ranEntries, ran⟩ := bind_eq_ok.mp ran
  have inner := Member.entries_made (members_built built) ranEntries before
  cases empty : entries.isEmpty with
  | true =>
    simp only [empty, ↓reduceIte] at ran
    cases ran
    exact inner
  | false =>
    simp only [empty, Bool.false_eq_true, ↓reduceIte] at ran
    obtain ⟨final, merged, done⟩ := bind_eq_ok.mp ran
    cases done
    exact .joined inner (.of _) merged

/-- The query field of a dataset comes with a made table. -/
theorem rootField_made {name : String} {emitted : Emitted ObjectField} (built : dataset.IsBuilt)
    (ran : dataset.rootField .standard name = .ok emitted) : emitted.definitions.Made := by
  rw [rootField] at ran
  split at ran
  · cases ran
  obtain ⟨⟨fields, withFields⟩, ranFields, ran⟩ := bind_eq_ok.mp ran
  obtain ⟨⟨filter, withFilter⟩, ranFilter, ran⟩ := bind_eq_ok.mp ran
  obtain ⟨⟨order, withOrder⟩, ranOrder, ran⟩ := bind_eq_ok.mp ran
  obtain ⟨final, merged, done⟩ := bind_eq_ok.mp ran
  cases done
  have entries := Member.entries_made (members_built built) ranFields .empty
  have arguments := orderArgument_made built ranOrder (filterArgument_made built ranFilter entries)
  exact .joined arguments (.of _) merged

end Dataset

/-- The query fields of datasets come with a made table. -/
theorem Catalog.rootFields_made {datasets : List (String × Dataset)} {fields : List ObjectField}
    (built : ∀ entry ∈ datasets, entry.2.IsBuilt)
    (ran : rootFields .standard datasets table = .ok (fields, all)) (before : table.Made) :
    all.Made := by
  induction datasets generalizing table fields with
  | nil =>
    cases ran
    exact before
  | cons entry rest ih =>
    obtain ⟨first, others⟩ := List.forall_mem_cons.mp built
    obtain ⟨name, dataset⟩ := entry
    rw [rootFields] at ran
    obtain ⟨emitted, ranFirst, ran⟩ := bind_eq_ok.mp ran
    obtain ⟨joined, merged, ran⟩ := bind_eq_ok.mp ran
    obtain ⟨⟨later, final⟩, ranRest, done⟩ := bind_eq_ok.mp ran
    cases done
    exact ih others ranRest (.joined before (Dataset.rootField_made first ranFirst) merged)

end TypedSearch
