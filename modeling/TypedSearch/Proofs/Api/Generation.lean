import TypedSearch.Proofs.Api.Outline
import TypedSearch.Proofs.Definitions
import TypedSearch.Proofs.Handler.Dispatch
import TypedSearch.Proofs.Schema.Induction

/-!
Generation follows the outlines. Where a step of the generator succeeds, its table holds what it held
before and the types that the outline adds, so a generated schema defines exactly the types that are
made for its catalog.
-/

namespace TypedSearch

open Definitions Outcome

variable {surface : Surface} {names : DatasetNames} {table all : Definitions}
  {types : List NamedType}

/-- An answer of a surface appears where its outline does, and comes with the types made for it. -/
inductive Follows : Option Outline → Option (Emitted TypeRef) → Prop where
  | nothing : Follows none none
  | part {outline : Outline} {emitted : Emitted TypeRef}
      (same : emitted.value = outline.reference)
      (holds : emitted.definitions.Collects outline.types) : Follows (some outline) (some emitted)

namespace Follows

variable {found : Option Outline}

theorem of_none (follows : Follows found none) : found = none := by
  cases follows
  rfl

theorem of_some {emitted : Emitted TypeRef} (follows : Follows found (some emitted)) :
    ∃ outline, found = some outline ∧ emitted.value = outline.reference ∧
      emitted.definitions.Collects outline.types := by
  cases follows with
  | part same holds => exact ⟨_, rfl, same, holds⟩

end Follows

theorem follows_scalar (scalar : String) :
    Follows (some ⟨.named scalar, []⟩) (some (.bare (.named scalar))) :=
  .part rfl collects_empty

theorem follows_definedArg (type : NamedType) :
    Follows (some type.outline) (some (Emitted.bare type).includeSelf) :=
  .part rfl (collects_of type)

theorem leaf_follows {kind : Primitive} {path : FieldPath} {answer : Option (Emitted TypeRef)}
    (ran : Registry.standard.resolve surface.pick (.primitive kind) path () = .ok answer) :
    Follows (kind.outline surface) answer := by
  rw [Registry.standard_resolve_primitive] at ran
  cases kind with
  | boolean | int | float | string =>
    cases surface with
    | field =>
      cases ran
      exact follows_scalar _
    | filter | order =>
      cases ran
      exact follows_definedArg _
  | bytes =>
    cases surface with
    | field =>
      cases ran
      exact follows_scalar _
    | filter | order =>
      cases ran
      exact .nothing
  | null | long | double =>
    cases ran
    cases surface <;> exact .nothing

/-- The fields of a record contribute their entries in order, and their types to the table. -/
theorem partEntries_follow {fields : List SchemaField} {path : FieldPath}
    {entries : List (String × TypeRef)}
    (each : ∀ field ∈ fields, ∀ path answer,
      Registry.standard.resolve surface.pick field.type path () = .ok answer →
      Follows (field.type.outline surface) answer)
    (ran : Handler.partEntries (fields.map fun field =>
      ⟨field, Registry.standard.resolve surface.pick field.type (path.child field.name)⟩) table =
        .ok (entries, all))
    (holds : table.Collects types) :
    entries = (SchemaField.outlines surface fields).map (fun part => (part.1, part.2.reference)) ∧
      all.Collects (types ++ (SchemaField.outlines surface fields).flatMap (·.2.types)) := by
  induction fields generalizing table types entries with
  | nil =>
    cases ran
    exact ⟨rfl, by simpa [SchemaField.outlines] using holds⟩
  | cons field rest ih =>
    have others := fun other member => each other (List.mem_cons_of_mem field member)
    rw [List.map_cons, Handler.partEntries] at ran
    obtain ⟨answer, answered, ran⟩ := bind_eq_ok.mp ran
    obtain ⟨name, type⟩ := field
    have follows : Follows (SchemaType.outline surface type) answer :=
      each ⟨name, type⟩ List.mem_cons_self _ answer answered
    rw [SchemaField.outlines]
    cases answer with
    | none =>
      rw [follows.of_none]
      exact ih others ran holds
    | some emitted =>
      obtain ⟨outline, found, same, own⟩ := follows.of_some
      obtain ⟨joined, merged, ran⟩ := bind_eq_ok.mp ran
      obtain ⟨⟨later, final⟩, ranRest, done⟩ := bind_eq_ok.mp ran
      cases done
      obtain ⟨listed, collected⟩ := ih others ranRest (collects_mergeChecked merged holds own)
      rw [found]
      refine ⟨by simp [listed, same], ?_⟩
      simpa [List.append_assoc] using collected

theorem aggregate_follows {name : String} {fields : List SchemaField} {path : FieldPath}
    {answer : Option (Emitted TypeRef)}
    (each : ∀ field ∈ fields, ∀ path answer,
      Registry.standard.resolve surface.pick field.type path () = .ok answer →
      Follows (field.type.outline surface) answer)
    (ran : (Handler.aggregate surface.recordSuffix surface.recordBody).resolve
      ⟨.record ⟨name, fields⟩, path, fields.map fun field =>
        ⟨field, Registry.standard.resolve surface.pick field.type (path.child field.name)⟩⟩ () =
          .ok answer) :
    Follows (surface.recordOutline name (SchemaField.outlines surface fields)) answer := by
  simp only [Handler.aggregate, Capability.resolve] at ran
  obtain ⟨⟨entries, table⟩, ranParts, ran⟩ := bind_eq_ok.mp ran
  obtain ⟨rfl, collected⟩ := partEntries_follow each ranParts collects_empty
  rw [Surface.recordOutline]
  cases parts : SchemaField.outlines surface fields with
  | nil =>
    rw [parts] at ran
    cases ran
    exact .nothing
  | cons part rest =>
    rw [parts] at ran collected
    obtain ⟨all, merged, done⟩ := bind_eq_ok.mp ran
    cases done
    exact .part rfl (collects_mergeChecked merged collected (collects_of _))

/-- Whatever the standard registry answers for a type on a surface follows the type's outline. -/
theorem standard_follows (type : SchemaType) {path : FieldPath}
    {answer : Option (Emitted TypeRef)}
    (ran : Registry.standard.resolve surface.pick type path () = .ok answer) :
    Follows (type.outline surface) answer := by
  induction type using SchemaType.type_induction generalizing path answer with
  | primitive kind => exact leaf_follows ran
  | record name fields ih =>
    rw [Registry.standard_resolve_record, Surface.pick_record] at ran
    exact aggregate_follows (fun field member path answer => ih field member) ran

namespace ComputedField

theorem capability_follows {field : ComputedField} {path : FieldPath}
    {answer : Option (Emitted TypeRef)} (built : field.IsBuilt)
    (ran : (surface.capability field).resolve ⟨.standard, field.resultType, path⟩ () = .ok answer) :
    Follows (field.outline surface) answer := by
  rcases built surface with absent | ⟨type, scripted, defined⟩ | standard
  · rw [absent] at ran
    cases ran
    rw [outline_absent absent]
    exact .nothing
  · rw [defined] at ran
    cases ran
    rw [outline_defined scripted defined]
    exact follows_definedArg type
  · rw [standard] at ran
    rw [outline_standard standard]
    cases surface <;> exact standard_follows field.resultType ran

private theorem inputs_follow {name : String} {arguments : List Argument} {inputs : List InputValue}
    (ran : arguments.mapM (Argument.toInput name) = .ok inputs) :
    inputs = arguments.filterMap fun argument =>
      (argumentScalar? argument.type).map fun scalar =>
        ⟨argument.name, .nonNull (.named scalar)⟩ := by
  induction arguments generalizing inputs with
  | nil =>
    cases ran
    rfl
  | cons argument rest ih =>
    rw [List.mapM_cons] at ran
    obtain ⟨input, first, ran⟩ := bind_eq_ok.mp ran
    obtain ⟨later, ranRest, joined⟩ := bind_eq_ok.mp ran
    cases joined
    rw [Argument.toInput] at first
    cases known : argumentScalar? argument.type with
    | none =>
      rw [known] at first
      cases first
    | some scalar =>
      rw [known] at first
      cases first
      simp [known, ih ranRest]

theorem argumentInputs_follow {name : String} {field : ComputedField} {inputs : List InputValue}
    (ran : field.argumentInputs name = .ok inputs) : inputs = field.inputs :=
  inputs_follow ran

theorem argumentsDefinition_follows {name : String} {field : ComputedField} {type : NamedType}
    (ran : field.argumentsDefinition names name = .ok type) :
    type = Member.argumentsType names name field := by
  obtain ⟨inputs, made, done⟩ := bind_eq_ok.mp ran
  cases argumentInputs_follow made
  exact (Except.ok.inj done).symm

end ComputedField

namespace Member

variable {member : Member}

/-- A stored field is built, and a computed one may be. -/
def IsBuilt : Member → Prop
  | stored _ => True
  | computed _ field => field.IsBuilt

theorem surfaceType_follows {answer : Option (Emitted TypeRef)} (built : member.IsBuilt)
    (ran : member.surfaceType surface .standard = .ok answer) :
    Follows (member.outline surface) answer := by
  cases member with
  | stored field => cases surface <;> exact standard_follows field.type ran
  | computed name field => exact ComputedField.capability_follows built ran

/-- Wrapping adds the types of the arguments and of the wrapper to a table, where there are any. -/
theorem wrapped_follows {reference : TypeRef} {entry : SurfaceEntry}
    (ran : member.wrapped surface names reference table = .ok (entry, all))
    (holds : table.Collects types) :
    entry = (member.wrapping surface names reference).1 ∧
      all.Collects (types ++ (member.wrapping surface names reference).2) := by
  cases member with
  | stored field =>
    cases ran
    exact ⟨rfl, by simpa [wrapping] using holds⟩
  | computed name field =>
    rw [wrapped] at ran
    rw [wrapping]
    split at ran
    next plain =>
      cases ran
      rw [if_pos plain]
      exact ⟨rfl, by simpa using holds⟩
    next takesArguments =>
      obtain ⟨arguments, made, ran⟩ := bind_eq_ok.mp ran
      cases ComputedField.argumentsDefinition_follows made
      rw [if_neg takesArguments]
      cases wrapper : surface.wrapper? with
      | none =>
        rw [wrapper] at ran
        cases ran
        exact ⟨rfl, by simpa using holds⟩
      | some key =>
        rw [wrapper] at ran
        obtain ⟨withArguments, first, ran⟩ := bind_eq_ok.mp ran
        obtain ⟨withWrapper, second, ran⟩ := bind_eq_ok.mp ran
        cases ran
        refine ⟨rfl, ?_⟩
        have collected := collects_mergeChecked second
          (collects_mergeChecked first holds (collects_of _)) (collects_of _)
        rwa [List.append_assoc] at collected

theorem entry_follows {entry : Option SurfaceEntry} (built : member.IsBuilt)
    (ran : member.entry surface .standard names table = .ok (entry, all))
    (holds : table.Collects types) :
    entry = (member.entryOutline surface names).map (·.1) ∧
      all.Collects (types ++ ((member.entryOutline surface names).map (·.2)).getD []) := by
  rw [Member.entry] at ran
  obtain ⟨answer, answered, ran⟩ := bind_eq_ok.mp ran
  have follows := surfaceType_follows built answered
  rw [entryOutline]
  cases answer with
  | none =>
    rw [follows.of_none]
    cases ran
    exact ⟨rfl, by simpa using holds⟩
  | some emitted =>
    obtain ⟨outline, found, same, own⟩ := follows.of_some
    obtain ⟨joined, merged, ran⟩ := bind_eq_ok.mp ran
    obtain ⟨⟨made, final⟩, wrappedUp, done⟩ := bind_eq_ok.mp ran
    cases done
    obtain ⟨rfl, collected⟩ := wrapped_follows wrappedUp (collects_mergeChecked merged holds own)
    rw [found]
    exact ⟨by simp [same], by simpa [same] using collected⟩

/-- The entries of members are the outlined ones, and the table receives the types made for them. -/
theorem entries_follow {members : List Member} {entries : List SurfaceEntry}
    (built : ∀ member ∈ members, member.IsBuilt)
    (ran : Member.entries surface .standard names members table = .ok (entries, all))
    (holds : table.Collects types) :
    entries = (entryOutlines surface names members).map (·.1) ∧
      all.Collects (types ++ (entryOutlines surface names members).flatMap (·.2)) := by
  induction members generalizing table types entries with
  | nil =>
    cases ran
    exact ⟨rfl, by simpa [entryOutlines] using holds⟩
  | cons member rest ih =>
    obtain ⟨first, others⟩ := List.forall_mem_cons.mp built
    rw [Member.entries] at ran
    obtain ⟨⟨found, joined⟩, ranFirst, ran⟩ := bind_eq_ok.mp ran
    obtain ⟨⟨later, final⟩, ranRest, done⟩ := bind_eq_ok.mp ran
    cases done
    obtain ⟨rfl, collected⟩ := entry_follows first ranFirst holds
    obtain ⟨rfl, collected⟩ := ih others ranRest collected
    simp only [entryOutlines, List.filterMap_cons]
    cases outlined : member.entryOutline surface names with
    | none => exact ⟨rfl, by simpa [outlined, entryOutlines] using collected⟩
    | some made => exact ⟨rfl, by simpa [outlined, entryOutlines] using collected⟩

end Member

end TypedSearch
