import TypedSearch.Proofs.Api.Modularity

/-!
Why a valid catalog has no API. A step of the generator fails only where its table meets a type that
has the name of another one and a different body, both of them made for the catalog. A name that is
declared is new to the table unless some other type has it, and whatever is declared is populated, so
beside such collisions a catalog has an API unless a dataset takes a reserved name.
-/

namespace TypedSearch

open Definitions Outcome

/-- A problem reports that two of some types have one name and different bodies. -/
inductive Clashing (types : List NamedType) : Problem → Prop where
  | between {one two : NamedType} (first : one ∈ types) (second : two ∈ types)
      (same : one.name = two.name) (differ : one.body ≠ two.body) :
      Clashing types (.collision (.type one.name))

variable {types others : List NamedType} {problem : Problem} {surface : Surface}
  {names : DatasetNames} {table : Definitions}

namespace Clashing

theorem mono (clashing : Clashing types problem) (inside : types ⊆ others) :
    Clashing others problem := by
  cases clashing with
  | between first second same differ => exact .between (inside first) (inside second) same differ

theorem not_nil : ¬ Clashing [] problem := by
  rintro ⟨⟨⟩⟩

end Clashing

/-- A checked join fails only for two types of one name. -/
theorem Definitions.mergeChecked_clashes {left right : Definitions}
    (failed : left.mergeChecked right = .error problem) (first : left.Collects types)
    (second : right.Collects others) : Clashing (types ++ others) problem := by
  unfold mergeChecked at failed
  split at failed
  next entry found =>
    cases failed
    obtain ⟨ours, theirs, held, given, differ⟩ :=
      (clashes_iff left entry).mp (List.find?_some found)
    have listed : right.slots.get? entry.1 = some (.defined theirs) :=
      Table.get?_eq_some_iff.mpr (given ▸ List.mem_of_find?_eq_some found)
    obtain ⟨own, named⟩ := (first entry.1 ours).mp held
    obtain ⟨beside, same⟩ := (second entry.1 theirs).mp (get?_eq_some.mpr listed)
    rw [← named]
    refine .between (List.mem_append_left _ own) (List.mem_append_right _ beside)
      (named.trans same.symm) fun alike => differ ?_
    obtain ⟨name, body⟩ := ours
    obtain ⟨other, shape⟩ := theirs
    cases named.trans same.symm
    cases alike
    rfl
  next => cases failed

/-- What a checked join reports is a name that is taken. -/
theorem Definitions.mergeChecked_problem {left right : Definitions}
    (failed : left.mergeChecked right = .error problem) :
    ∃ name, problem = .collision (.type name) := by
  unfold mergeChecked at failed
  split at failed
  next entry _ =>
    cases failed
    exact ⟨entry.1, rfl⟩
  next => cases failed

/-- A name cannot be declared only if a type in the table has it. -/
theorem Definitions.declare_taken {name : String} (failed : table.declare name = .error problem)
    (holds : table.Collects types) (made : table.Made) :
    ∃ type ∈ types, type.name = name ∧ problem = .collision (.type type.name) := by
  unfold declare at failed
  split at failed
  next taken =>
    cases failed
    obtain ⟨slot, found⟩ := Option.isSome_iff_exists.mp taken
    cases slot with
    | declared => exact (made.populated name found).elim
    | defined type =>
      obtain ⟨own, rfl⟩ := (holds name type).mp (get?_eq_some.mpr found)
      exact ⟨type, own, rfl, rfl⟩
  next => cases failed

/-- The types of what appears, none if nothing does. -/
def Outline.typesOf (outline : Option Outline) : List NamedType :=
  (outline.map Outline.types).getD []

theorem SchemaField.outlines_cons_types (field : SchemaField) (rest : List SchemaField) :
    (SchemaField.outlines surface (field :: rest)).flatMap (·.2.types) =
      Outline.typesOf (field.type.outline surface) ++
        (SchemaField.outlines surface rest).flatMap (·.2.types) := by
  obtain ⟨name, type⟩ := field
  rw [SchemaField.outlines, List.flatMap_append]
  cases SchemaType.outline surface type with
  | none => rfl
  | some outline => simp [Outline.typesOf]

/-- The fields of a record fail only for two types that they contribute or that were there before. -/
theorem partEntries_clashes {fields : List SchemaField} {path : FieldPath}
    (each : ∀ field ∈ fields, ∀ path problem,
      Registry.standard.resolve surface.pick field.type path () = .error problem →
      Clashing (Outline.typesOf (field.type.outline surface)) problem)
    (failed : Handler.partEntries (fields.map fun field =>
      ⟨field, Registry.standard.resolve surface.pick field.type (path.child field.name)⟩) table =
        .error problem)
    (holds : table.Collects types) :
    Clashing (types ++ (SchemaField.outlines surface fields).flatMap (·.2.types)) problem := by
  induction fields generalizing table types with
  | nil => cases failed
  | cons field rest ih =>
    obtain ⟨first, others⟩ := List.forall_mem_cons.mp each
    rw [SchemaField.outlines_cons_types, ← List.append_assoc]
    rw [List.map_cons, Handler.partEntries] at failed
    rcases bind_eq_error.mp failed with own | ⟨answer, answered, failed⟩
    · exact (first _ _ own).mono fun type inside => by simp [inside]
    have follows := standard_follows field.type answered
    cases answer with
    | none =>
      rw [follows.of_none]
      exact (ih others failed holds).mono fun type inside => by simpa [Outline.typesOf] using inside
    | some emitted =>
      obtain ⟨outline, found, -, own⟩ := follows.of_some
      rw [found]
      rcases bind_eq_error.mp failed with clash | ⟨joined, merged, failed⟩
      · exact (mergeChecked_clashes clash holds own).mono (List.subset_append_left _ _)
      rcases bind_eq_error.mp failed with later | ⟨⟨entries, all⟩, -, done⟩
      · exact ih others later (collects_mergeChecked merged holds own)
      · cases done

theorem aggregate_clashes {name : String} {fields : List SchemaField} {path : FieldPath}
    (each : ∀ field ∈ fields, ∀ path problem,
      Registry.standard.resolve surface.pick field.type path () = .error problem →
      Clashing (Outline.typesOf (field.type.outline surface)) problem)
    (failed : (Handler.aggregate surface.recordSuffix surface.recordBody).resolve
      ⟨.record ⟨name, fields⟩, path, fields.map fun field =>
        ⟨field, Registry.standard.resolve surface.pick field.type (path.child field.name)⟩⟩ () =
          .error problem) :
    Clashing (Outline.typesOf (surface.recordOutline name (SchemaField.outlines surface fields)))
      problem := by
  simp only [Handler.aggregate, Capability.resolve] at failed
  rw [Surface.recordOutline]
  rcases bind_eq_error.mp failed with inner | ⟨⟨entries, joined⟩, ran, failed⟩
  · have clash := partEntries_clashes each inner collects_empty
    cases parts : SchemaField.outlines surface fields with
    | nil =>
      rw [parts] at clash
      exact clash.not_nil.elim
    | cons part rest =>
      rw [parts] at clash
      exact clash.mono (List.subset_append_left _ _)
  · obtain ⟨rfl, collected⟩ := partEntries_follow
      (fun field _ _ _ => standard_follows field.type) ran collects_empty
    cases parts : SchemaField.outlines surface fields with
    | nil =>
      rw [parts] at failed
      cases failed
    | cons part rest =>
      rw [parts] at failed collected
      rcases bind_eq_error.mp failed with clash | ⟨all, -, done⟩
      · exact mergeChecked_clashes clash collected (collects_of _)
      · cases done

/-- The standard registry fails for a type only if two of the types made for it clash. -/
theorem standard_clashes (type : SchemaType) {path : FieldPath}
    (failed : Registry.standard.resolve surface.pick type path () = .error problem) :
    Clashing (Outline.typesOf (type.outline surface)) problem := by
  induction type using SchemaType.type_induction generalizing path problem with
  | primitive kind =>
    rw [Registry.standard_resolve_primitive] at failed
    cases kind <;> cases surface <;> cases failed
  | record name fields ih =>
    rw [Registry.standard_resolve_record, Surface.pick_record] at failed
    exact aggregate_clashes (fun field listed _ _ failed => ih field listed failed) failed

/-- The arguments of a valid computed field become inputs. -/
theorem ComputedField.argumentInputs_succeed {name : String} {field : ComputedField}
    (valid : field.validate name = .ok ()) : ∃ inputs, field.argumentInputs name = .ok inputs := by
  obtain ⟨-, -, legal⟩ := validate_eq_ok.mp valid
  rw [← not_fails_iff, argumentInputs, mapM_fails_iff]
  rintro ⟨argument, listed, problem, failed⟩
  obtain ⟨scalar, known⟩ := Option.isSome_iff_exists.mp (legal argument listed).2
  rw [Argument.toInput, known] at failed
  cases failed

theorem ComputedField.argumentsDefinition_succeeds {name : String} {field : ComputedField}
    (names : DatasetNames) (valid : field.validate name = .ok ()) :
    ∃ type, field.argumentsDefinition names name = .ok type := by
  obtain ⟨inputs, made⟩ := argumentInputs_succeed valid
  exact ⟨_, by rw [argumentsDefinition, made, ok_bind, pure_eq_ok]⟩

/-- Arguments are refused for the type of one of them. -/
theorem ComputedField.argumentInputs_problem {name : String} {field : ComputedField}
    (failed : field.argumentInputs name = .error problem) :
    ∃ argument ∈ field.arguments,
      problem = .schema (.argumentType argument.name name argument.type) := by
  obtain ⟨argument, listed, refused⟩ := mapM_eq_error failed
  refine ⟨argument, listed, ?_⟩
  rw [Argument.toInput] at refused
  split at refused
  · cases refused
  · exact (Except.error.inj refused).symm

theorem ComputedField.capability_clashes {field : ComputedField} {path : FieldPath}
    (built : field.IsBuilt)
    (failed : (surface.capability field).resolve ⟨.standard, field.resultType, path⟩ () =
      .error problem) : Clashing (Outline.typesOf (field.outline surface)) problem := by
  rcases built surface with absent | ⟨type, -, defined⟩ | standard
  · rw [absent] at failed
    cases failed
  · rw [defined] at failed
    cases failed
  · rw [outline_standard standard]
    rw [standard, Surface.standard_resolve, Surface.registryType_eq] at failed
    exact standard_clashes field.resultType failed

namespace Member

variable {member : Member} {members : List Member}

theorem surfaceType_clashes (built : member.IsBuilt)
    (failed : member.surfaceType surface .standard = .error problem) :
    Clashing (Outline.typesOf (member.outline surface)) problem := by
  cases member with
  | stored field =>
    rw [surfaceType, Surface.registryType_eq] at failed
    exact standard_clashes field.type failed
  | computed name field => exact ComputedField.capability_clashes built failed

/-- A member is valid if it is stored, or a valid computed field. -/
def IsValid : Member → Prop
  | stored _ => True
  | computed name field => field.validate name = .ok ()

/-- The entry of a member is refused for a name that is taken or for the type of an argument: whatever
is put together from arguments is an input type. -/
theorem wrapped_problem {reference : TypeRef}
    (failed : member.wrapped surface names reference table = .error problem) :
    (∃ name, problem = .collision (.type name)) ∨
      ∃ argument computed type, problem = .schema (.argumentType argument computed type) := by
  cases member with
  | stored field => cases failed
  | computed name field =>
    rw [wrapped] at failed
    split at failed
    next => cases failed
    next =>
      rcases bind_eq_error.mp failed with unmade | ⟨arguments, made, failed⟩
      · rcases bind_eq_error.mp unmade with refused | ⟨inputs, -, done⟩
        · obtain ⟨argument, -, rfl⟩ := ComputedField.argumentInputs_problem refused
          exact .inr ⟨_, _, _, rfl⟩
        · cases done
      · obtain ⟨inputs, -, done⟩ := bind_eq_ok.mp made
        cases done
        split at failed
        next => cases failed
        next =>
          rcases bind_eq_error.mp failed with taken | ⟨withArguments, -, failed⟩
          · exact .inl (mergeChecked_problem taken)
          · rcases bind_eq_error.mp failed with taken | ⟨withWrapper, -, done⟩
            · exact .inl (mergeChecked_problem taken)
            · cases done

/-- The types for arguments fail only for types that were there before. -/
theorem wrapped_clashes {reference : TypeRef} (valid : member.IsValid)
    (failed : member.wrapped surface names reference table = .error problem)
    (holds : table.Collects types) :
    Clashing (types ++ (member.wrapping surface names reference).2) problem := by
  cases member with
  | stored field => cases failed
  | computed name field =>
    rw [wrapped] at failed
    rw [wrapping]
    split at failed
    next => cases failed
    next takesArguments =>
      obtain ⟨arguments, made⟩ := ComputedField.argumentsDefinition_succeeds names valid
      rw [if_neg takesArguments]
      rw [made, ok_bind] at failed
      cases ComputedField.argumentsDefinition_follows made
      cases wrapper : surface.wrapper? with
      | none =>
        rw [wrapper] at failed
        cases failed
      | some key =>
        simp only [wrapper] at failed
        rcases bind_eq_error.mp failed with clash | ⟨withArguments, first, failed⟩
        · exact (mergeChecked_clashes clash holds (collects_of (argumentsType names name field))).mono
            (by simp)
        · have collected := collects_mergeChecked first holds
            (collects_of (argumentsType names name field))
          rcases bind_eq_error.mp failed with clash | ⟨withWrapper, -, done⟩
          · have wrapped := collects_of (wrapperType names name field key.1 key.2 reference)
            exact (mergeChecked_clashes clash collected wrapped).mono (by simp)
          · cases done

theorem entry_clashes (built : member.IsBuilt) (valid : member.IsValid)
    (failed : member.entry surface .standard names table = .error problem)
    (holds : table.Collects types) :
    Clashing (types ++ ((member.entryOutline surface names).map (·.2)).getD []) problem := by
  rw [Member.entry] at failed
  rw [entryOutline]
  rcases bind_eq_error.mp failed with own | ⟨answer, answered, failed⟩
  · have clash := surfaceType_clashes built own
    cases shown : member.outline surface with
    | none =>
      rw [shown] at clash
      exact clash.not_nil.elim
    | some outline =>
      rw [shown] at clash
      exact clash.mono fun type inside =>
        List.mem_append_right _ (List.mem_append_left _ inside)
  have follows := surfaceType_follows built answered
  cases answer with
  | none => cases failed
  | some emitted =>
    obtain ⟨outline, shown, same, own⟩ := follows.of_some
    rw [shown, Option.map_some, Option.map_some, Option.getD_some, ← List.append_assoc, ← same]
    rcases bind_eq_error.mp failed with clash | ⟨joined, merged, failed⟩
    · exact (mergeChecked_clashes clash holds own).mono (List.subset_append_left _ _)
    rcases bind_eq_error.mp failed with wrappedUp | ⟨⟨made, all⟩, -, done⟩
    · exact wrapped_clashes valid wrappedUp (collects_mergeChecked merged holds own)
    · cases done

/-- The entries of members fail only for types that are made for them or were there before. -/
theorem entries_clash (built : ∀ member ∈ members, member.IsBuilt)
    (valid : ∀ member ∈ members, member.IsValid)
    (failed : Member.entries surface .standard names members table = .error problem)
    (holds : table.Collects types) :
    Clashing (types ++ (entryOutlines surface names members).flatMap (·.2)) problem := by
  induction members generalizing table types with
  | nil => cases failed
  | cons member rest ih =>
    obtain ⟨first, others⟩ := List.forall_mem_cons.mp built
    obtain ⟨checked, later⟩ := List.forall_mem_cons.mp valid
    have made : (entryOutlines surface names (member :: rest)).flatMap (·.2) =
        ((member.entryOutline surface names).map (·.2)).getD [] ++
          (entryOutlines surface names rest).flatMap (·.2) := by
      rw [entryOutlines, List.filterMap_cons]
      cases member.entryOutline surface names <;> rfl
    rw [made, ← List.append_assoc]
    rw [Member.entries] at failed
    rcases bind_eq_error.mp failed with own | ⟨⟨found, joined⟩, ranFirst, failed⟩
    · exact (entry_clashes first checked own holds).mono (List.subset_append_left _ _)
    · obtain ⟨-, collected⟩ := entry_follows first ranFirst holds
      rcases bind_eq_error.mp failed with inner | ⟨⟨entries, all⟩, -, done⟩
      · exact ih others later inner collected
      · cases done

end Member

/-- A type of combinations has lists of itself as inputs. -/
theorem DatasetNames.combinations_listed {inputs : List InputValue}
    (same : .inputObject inputs = names.combinationsType.body) :
    ∃ input ∈ inputs, ∃ inner, input.type = .list inner := by
  cases same
  exact ⟨_, List.mem_cons_of_mem _ List.mem_cons_self, _, rfl⟩

namespace Dataset

variable {dataset : Dataset} {name : String}

theorem members_checked (valid : dataset.validate = .ok ()) :
    ∀ member ∈ dataset.members, member.IsValid :=
  forall_members (fun _ _ => trivial) (computed_valid valid)

/-- No type that is made for an entry has the body of a type of combinations. -/
theorem surface_types_uncombined : ∀ type ∈ dataset.surfaceTypes surface names,
    type.body ≠ names.combinationsType.body := by
  intro type made same
  cases entryOrigin_of_surface type made with
  | leaf fixed =>
    have named : ∀ type ∈ leafTypes, type.body.entryNames ≠ ["cond", "and", "or"] := by decide
    exact named type fixed (congrArg TypeBody.entryNames same)
  | record name fields =>
    rw [Surface.recordType_eq] at same
    cases surface with
    | field => cases same
    | filter | order =>
      obtain ⟨input, listed, inner, list⟩ := DatasetNames.combinations_listed same
      obtain ⟨entry, own, rfl⟩ := List.mem_map.mp listed
      obtain ⟨part, inside, rfl⟩ := List.mem_map.mp own
      obtain ⟨field, -, -, shown⟩ := mem_outlines.mp inside
      obtain ⟨key, named⟩ := SchemaType.outline_named shown
      cases named.symm.trans list
  | arguments =>
    obtain ⟨input, listed, inner, list⟩ := DatasetNames.combinations_listed same
    obtain ⟨argument, -, found⟩ := List.mem_filterMap.mp listed
    obtain ⟨scalar, -, rfl⟩ := Option.map_eq_some_iff.mp found
    cases list
  | wrapper => simp [Member.wrapperType, DatasetNames.combinationsType] at same

section Clashes

variable (built : dataset.IsBuilt) (valid : dataset.validate = .ok ())

include built valid

theorem surface_entries_clash
    (failed : Member.entries surface .standard names dataset.members table = .error problem)
    (holds : table.Collects types) :
    Clashing (types ++ dataset.surfaceTypes surface names) problem :=
  Member.entries_clash (members_built built) (members_checked valid) failed holds

/-- The filter argument fails only for types that are made for it or were there before. The name of
the combinations is taken only by a type with another body. -/
theorem filterArgument_clashes
    (failed : dataset.filterArgument .standard names table = .error problem)
    (holds : table.Collects types) (before : table.Made)
    (uncombined : ∀ type ∈ types, type.body ≠ names.combinationsType.body) :
    Clashing (types ++ (dataset.filterOutline names).2) problem := by
  rcases bind_eq_error.mp failed with inner | ⟨⟨entries, joined⟩, ranEntries, failed⟩
  · refine (surface_entries_clash built valid inner holds).mono ?_
    rcases filterOutline_cases dataset names with same | same <;> simp [same]
  obtain ⟨rfl, collected⟩ := entries_follow built ranEntries holds
  have made := Member.entries_made (members_built built) ranEntries before
  rw [filterOutline]
  cases empty : (dataset.surfaceEntries .filter names).isEmpty with
  | true =>
    simp only [empty, ↓reduceIte] at failed
    cases failed
  | false =>
    simp only [empty, Bool.false_eq_true, ↓reduceIte] at failed ⊢
    rcases bind_eq_error.mp failed with taken | ⟨⟨declared, pending⟩, fresh, failed⟩
    · -- The type that has the name of the combinations was made for an entry, so it is another one.
      obtain ⟨type, own, same, rfl⟩ := declare_taken taken collected made
      rw [← List.append_assoc]
      have beside : names.combinationsType ∈ types ++ dataset.surfaceTypes .filter names ++
          [names.combinationsType, names.filterType (dataset.surfaceEntries .filter names)] := by
        simp
      refine .between (List.mem_append_left _ own) beside same ?_
      rcases List.mem_append.mp own with old | inner
      · exact uncombined type old
      · exact surface_types_uncombined type inner
    · obtain ⟨unchanged, rfl, new⟩ := collects_declare fresh collected
      have populated : (declared.insert names.combinationsType).Collects _ :=
        collects_insert unchanged new
      have single := collects_of (names.filterType (dataset.surfaceEntries .filter names))
      rcases bind_eq_error.mp failed with clash | ⟨all, -, done⟩
      · simpa only [List.append_assoc, List.cons_append, List.nil_append] using
          mergeChecked_clashes clash populated single
      · cases done

theorem orderArgument_clashes
    (failed : dataset.orderArgument .standard names table = .error problem)
    (holds : table.Collects types) : Clashing (types ++ (dataset.orderOutline names).2) problem := by
  rcases bind_eq_error.mp failed with inner | ⟨⟨entries, joined⟩, ranEntries, failed⟩
  · refine (surface_entries_clash built valid inner holds).mono ?_
    rcases orderOutline_cases dataset names with same | same <;> simp [same]
  obtain ⟨rfl, collected⟩ := entries_follow built ranEntries holds
  rw [orderOutline]
  cases empty : (dataset.surfaceEntries .order names).isEmpty with
  | true =>
    simp only [empty, ↓reduceIte] at failed
    cases failed
  | false =>
    simp only [empty, Bool.false_eq_true, ↓reduceIte] at failed ⊢
    rcases bind_eq_error.mp failed with clash | ⟨all, -, done⟩
    · rw [← List.append_assoc]
      exact mergeChecked_clashes clash collected
        (collects_of (names.orderType (dataset.surfaceEntries .order names)))
    · cases done

/-- A valid dataset has no query field only if its name is reserved or two types made for it clash. -/
theorem rootField_fails (failed : dataset.rootField .standard name = .error problem) :
    (DatasetNames.of name).object ∈ reservedNames ∧
        problem = .collision (.type (DatasetNames.of name).object) ∨
      Clashing (dataset.rootOutline name).2 problem := by
  rw [rootField] at failed
  split at failed
  next taken =>
    cases failed
    exact .inl ⟨by simpa using taken, rfl⟩
  refine .inr ?_
  rw [rootOutline]
  rcases bind_eq_error.mp failed with inner | ⟨⟨fields, withFields⟩, ranFields, failed⟩
  · exact (surface_entries_clash built valid inner collects_empty).mono fun _ own =>
      List.mem_append_left _ (List.mem_append_left _ (List.mem_append_left _ own))
  obtain ⟨rfl, collected⟩ := entries_follow built ranFields collects_empty
  have made := Member.entries_made (members_built built) ranFields .empty
  rcases bind_eq_error.mp failed with inner | ⟨⟨filter, withFilter⟩, ranFilter, failed⟩
  · exact (filterArgument_clashes built valid inner collected made surface_types_uncombined).mono
      fun _ own => List.mem_append_left _ (List.mem_append_left _ own)
  obtain ⟨rfl, collected⟩ := filterArgument_follows built ranFilter collected
  rcases bind_eq_error.mp failed with inner | ⟨⟨order, withOrder⟩, ranOrder, failed⟩
  · exact (orderArgument_clashes built valid inner collected).mono fun _ own =>
      List.mem_append_left _ own
  obtain ⟨rfl, collected⟩ := orderArgument_follows built ranOrder collected
  rcases bind_eq_error.mp failed with clash | ⟨all, -, done⟩
  · exact mergeChecked_clashes clash collected (collects_of _)
  · cases done

end Clashes

end Dataset

namespace Catalog

variable {catalog : Catalog}

/-- Query fields fail only for a reserved name or for two types that clash. -/
theorem rootFields_fail {datasets : List (String × Dataset)}
    (built : ∀ entry ∈ datasets, entry.2.IsBuilt)
    (valid : ∀ entry ∈ datasets, entry.2.validate = .ok ())
    (failed : rootFields .standard datasets table = .error problem) (holds : table.Collects types) :
    (∃ entry ∈ datasets, (DatasetNames.of entry.1).object ∈ reservedNames ∧
        problem = .collision (.type (DatasetNames.of entry.1).object)) ∨
      Clashing (types ++ (rootOutlines datasets).flatMap (·.2)) problem := by
  induction datasets generalizing table types with
  | nil => cases failed
  | cons entry rest ih =>
    obtain ⟨first, others⟩ := List.forall_mem_cons.mp built
    obtain ⟨checked, later⟩ := List.forall_mem_cons.mp valid
    obtain ⟨name, dataset⟩ := entry
    have made : (rootOutlines ((name, dataset) :: rest)).flatMap (·.2) =
        (dataset.rootOutline name).2 ++ (rootOutlines rest).flatMap (·.2) := rfl
    rw [made, ← List.append_assoc]
    rw [rootFields] at failed
    rcases bind_eq_error.mp failed with own | ⟨emitted, ranFirst, failed⟩
    · rcases Dataset.rootField_fails first checked own with ⟨taken, rfl⟩ | clash
      · exact .inl ⟨_, List.mem_cons_self, taken, rfl⟩
      · exact .inr (clash.mono fun _ inside =>
          List.mem_append_left _ (List.mem_append_right _ inside))
    obtain ⟨-, own⟩ := Dataset.rootField_follows first ranFirst
    rcases bind_eq_error.mp failed with clash | ⟨joined, merged, failed⟩
    · exact .inr ((mergeChecked_clashes clash holds own).mono (List.subset_append_left _ _))
    rcases bind_eq_error.mp failed with inner | ⟨⟨fields, all⟩, -, done⟩
    · refine (ih others later inner (collects_mergeChecked merged holds own)).imp_left ?_
      rintro ⟨other, listed, taken⟩
      exact ⟨other, List.mem_cons_of_mem _ listed, taken⟩
    · cases done

/-- What is put together for the queries of a catalog can always be finished. -/
theorem rootFields_finish {fields : List ObjectField} {all : Definitions} (built : catalog.IsBuilt)
    (ran : rootFields .standard catalog.datasets.entries .empty = .ok (fields, table))
    (merged : table.mergeChecked (.of ⟨queryTypeName, .object fields⟩) = .ok all) :
    ∃ types, all.finish = .ok types :=
  (Made.joined (rootFields_made built ran .empty) (.of _) merged).finish

/-- A valid catalog has no API only for a reserved name or for two types that clash. -/
theorem apiSchema_fails (built : catalog.IsBuilt) (valid : catalog.validate = .ok ())
    (failed : catalog.apiSchema .standard = .error problem) :
    (∃ entry ∈ catalog.datasets.entries, (DatasetNames.of entry.1).object ∈ reservedNames ∧
        problem = .collision (.type (DatasetNames.of entry.1).object)) ∨
      Clashing catalog.madeTypes problem := by
  rw [apiSchema, valid, ok_bind] at failed
  rcases bind_eq_error.mp failed with inner | ⟨⟨fields, table⟩, ran, failed⟩
  · have checked := fun entry listed => (validate_eq_ok.mp valid entry listed).2
    exact (rootFields_fail built checked inner collects_empty).imp_right
      fun clash => clash.mono (List.subset_append_left _ _)
  obtain ⟨rfl, collected⟩ := rootFields_follow built ran collects_empty
  rcases bind_eq_error.mp failed with clash | ⟨all, merged, failed⟩
  · exact .inr (mergeChecked_clashes clash collected (collects_of _))
  obtain ⟨listed, finished⟩ := rootFields_finish built ran merged
  simp only [finished, ok_bind] at failed
  cases failed

end Catalog

/-- After validation a catalog fails to have an API only by a collision: exactly if the object type of
a dataset takes a reserved name, or two of the types that are made for the catalog have one name and
different bodies, which are otherwise the types of its API. The arguments of its computed fields always
become inputs of an input type, and whatever is put together for it can be finished. -/
theorem api_fails_iff_collision {catalog : Catalog} (built : catalog.IsBuilt)
    (valid : catalog.validate = .ok ()) :
    ((∃ schema, catalog.apiSchema .standard = .ok schema) ∨
      ∃ name, catalog.apiSchema .standard = .error (.collision (.type name))) ∧
    ((∃ name, catalog.apiSchema .standard = .error (.collision (.type name))) ↔
      (∃ name ∈ catalog.datasets.names, Name.pascalCase name ∈ reservedNames) ∨
        ∃ one ∈ catalog.madeTypes, ∃ two ∈ catalog.madeTypes,
          one.name = two.name ∧ one.body ≠ two.body) ∧
    (∀ schema, catalog.apiSchema .standard = .ok schema →
      ∀ type, type ∈ schema.definitions ↔ type ∈ catalog.madeTypes) ∧
    (∀ entry ∈ catalog.datasets.entries, ∀ computed ∈ entry.2.computed.entries,
      ∃ inputs, computed.2.argumentInputs computed.1 = .ok inputs) ∧
    (∀ (member : Member) (surface : Surface) (names : DatasetNames) (reference : TypeRef)
        (table : Definitions) (name : String),
      member.wrapped surface names reference table ≠ .error (.notInputType name)) ∧
    ∀ fields table all,
      Catalog.rootFields .standard catalog.datasets.entries .empty = .ok (fields, table) →
      table.mergeChecked (.of ⟨queryTypeName, .object fields⟩) = .ok all →
      ∃ types, all.finish = .ok types := by
  have collides : ∀ problem, catalog.apiSchema .standard = .error problem →
      ∃ name, problem = .collision (.type name) := by
    intro problem failed
    rcases Catalog.apiSchema_fails built valid failed with ⟨entry, -, -, rfl⟩ | clash
    · exact ⟨_, rfl⟩
    · cases clash with
      | between => exact ⟨_, rfl⟩
  refine ⟨?_, ⟨?_, ?_⟩, fun schema generated type => Catalog.mem_generated built generated,
    fun entry listed computed owned => ?_, fun member surface names reference table name failed => ?_,
    fun fields table all => ?_⟩
  · cases ran : catalog.apiSchema .standard with
    | ok schema => exact .inl ⟨schema, rfl⟩
    | error problem =>
      obtain ⟨name, rfl⟩ := collides problem ran
      exact .inr ⟨name, rfl⟩
  · rintro ⟨name, failed⟩
    rcases Catalog.apiSchema_fails built valid failed with ⟨entry, listed, taken, -⟩ | clash
    · exact .inl ⟨entry.1, List.mem_map.mpr ⟨entry, listed, rfl⟩, taken⟩
    · cases clash with
      | between first second same differ => exact .inr ⟨_, first, _, second, same, differ⟩
  · intro reason
    cases ran : catalog.apiSchema .standard with
    | error problem =>
      obtain ⟨name, rfl⟩ := collides problem ran
      exact ⟨name, rfl⟩
    | ok schema =>
      rcases reason with ⟨name, listed, taken⟩ | ⟨one, first, two, second, same, differ⟩
      · obtain ⟨entry, member, rfl⟩ := List.mem_map.mp listed
        exact (Catalog.generated_unreserved ran entry member taken).elim
      · obtain ⟨-, apart⟩ := Catalog.generated_apart built ran
        exact (differ (congrArg _ (apart one first two second same))).elim
  · have checked := (Catalog.validate_eq_ok.mp valid entry listed).2
    exact ComputedField.argumentInputs_succeed (Dataset.computed_valid checked computed owned)
  · rcases Member.wrapped_problem failed with ⟨_, other⟩ | ⟨_, _, _, other⟩
    · cases other
    · cases other
  · exact Catalog.rootFields_finish built

/-- People with two kinds of addresses under one record name. -/
def addressCatalog : Catalog :=
  let home : RecordType := ⟨"Address", [⟨"city", .primitive .string⟩]⟩
  let work : RecordType := ⟨"Address", [⟨"company", .primitive .string⟩]⟩
  Catalog.empty.withDataset "people" (Dataset.ofSchema
    ⟨"Person", [⟨"home", .record home⟩, ⟨"work", .record work⟩]⟩ "people")

theorem addresses_collide : addressCatalog.validate = .ok () ∧
    ∃ name, addressCatalog.apiSchema .standard = .error (.collision (.type name)) := by
  obtain ⟨⟨⟩, valid⟩ : ∃ checked, addressCatalog.validate = .ok checked :=
    not_fails_iff.mp (by decide +kernel)
  have built : addressCatalog.IsBuilt := Catalog.isBuilt_withDataset nofun nofun
  exact ⟨valid, (api_fails_iff_collision built valid).2.1.mpr (.inr (by decide +kernel))⟩

end TypedSearch
