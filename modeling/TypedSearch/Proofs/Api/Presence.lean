import TypedSearch.Proofs.Api.Acceptance
import TypedSearch.Proofs.Handler.FilterClauses

/-!
Types that appear on a surface are those of which its handlers make clauses. Of a type that does not
appear they make none, whatever a client gives; all they do is to refuse a record given as something
other than an object.
-/

namespace TypedSearch

open Outcome

variable {surface : Surface} {hook : Handler → HandlerCapability Json (List Json)}
  {type : SchemaType} {path : FieldPath} {params : Json} {problem : Problem}

/-- A record appears on a surface if one of its fields does. -/
theorem record_outline_eq_none {name : String} {fields : List SchemaField} :
    (SchemaType.record ⟨name, fields⟩).outline surface = none ↔
      ∀ field ∈ fields, field.type.outline surface = none := by
  have parts : SchemaField.outlines surface fields = [] ↔
      ∀ field ∈ fields, field.type.outline surface = none := by
    induction fields with
    | nil => simp [SchemaField.outlines]
    | cons field rest ih =>
      obtain ⟨key, type⟩ := field
      rw [SchemaField.outlines, List.append_eq_nil_iff, ih, List.forall_mem_cons]
      simp
  rw [SchemaType.outline, Surface.recordOutline, ← parts]
  cases SchemaField.outlines surface fields with
  | nil => simp
  | cons part rest => simp

/-- A clause is among those that the standard handlers make of what a client gives for a type. -/
def Yields (hook : Handler → HandlerCapability Json (List Json)) (type : SchemaType)
    (path : FieldPath) (params clause : Json) : Prop :=
  ∃ clauses, Registry.standard.resolve hook type path params = .ok (some clauses) ∧ clause ∈ clauses

/-- A capability of handlers acts on a surface: it makes clauses of the primitives that appear there,
does nothing for the others, and puts those of a record together from its fields. -/
structure ActsOn (surface : Surface) (hook : Handler → HandlerCapability Json (List Json)) :
    Prop where
  /-- Records have the clauses of their fields. -/
  record : hook .record = Handler.recordClauses
  /-- Some clause can be had of every primitive that appears. -/
  present : ∀ kind path, Primitive.outline surface kind ≠ none →
    ∃ params clause, params ≠ .null ∧ Yields hook (.primitive kind) path params clause
  /-- There is no answer for any other. -/
  absent : ∀ kind path params, Primitive.outline surface kind = none →
    Registry.standard.resolve hook (.primitive kind) path params = .ok none

theorem filter_actsOn : ActsOn .filter Handler.filter where
  record := rfl
  present kind path appears := by
    cases kind with
    | boolean =>
      exact ⟨.single "equals" (.bool true), _, by simp [Json.single], _, rfl, List.mem_cons_self⟩
    | int =>
      exact ⟨.single "equals" (.ofInt 0), _, by simp [Json.single], _, rfl, List.mem_cons_self⟩
    | float =>
      exact ⟨.single "equals" (.ofInt 0), _, by simp [Json.single], _, rfl, List.mem_cons_self⟩
    | string =>
      exact ⟨.single "equals" (.string ""), _, by simp [Json.single], _, rfl, List.mem_cons_self⟩
    | bytes | null | long | double => exact (appears rfl).elim
  absent kind path params hidden := by
    rw [Registry.standard_resolve_primitive]
    cases kind with
    | boolean | int | float | string => cases hidden
    | bytes | null | long | double => rfl

theorem sort_actsOn : ActsOn .order Handler.sort where
  record := rfl
  present kind path appears := by
    cases kind with
    | boolean | int | float | string =>
      exact ⟨Direction.ascending.toJson, _, by simp [Direction.toJson], _, rfl, List.mem_cons_self⟩
    | bytes | null | long | double => exact (appears rfl).elim
  absent kind path params hidden := by
    rw [Registry.standard_resolve_primitive]
    cases kind with
    | boolean | int | float | string => cases hidden
    | bytes | null | long | double => rfl

/-- A clause of a field is a clause of the record for which the client gives that field alone. -/
theorem record_yields {name : String} {fields : List SchemaField} {field : SchemaField}
    {clause : Json} (records : hook .record = Handler.recordClauses)
    (distinct : SchemaField.Distinct fields) (listed : field ∈ fields) (given : params ≠ .null)
    (own : Yields hook field.type (path.child field.name) params clause) :
    Yields hook (.record ⟨name, fields⟩) path (.single field.name params) clause := by
  obtain ⟨found, answered, member⟩ := own
  let entries : Json.Entries := [(field.name, params)]
  let parts : List (Part Json (List Json)) := fields.map fun field =>
    ⟨field, Registry.standard.resolve hook field.type (path.child field.name)⟩
  have ownPart : (⟨field, Registry.standard.resolve hook field.type (path.child field.name)⟩ :
      Part Json (List Json)) ∈ parts := List.mem_map.mpr ⟨field, listed, rfl⟩
  have addressed : entries.lookup field.name = some params := List.lookup_cons_self
  -- No other field is addressed, since names differ.
  have runs : ¬ Fails (Handler.partClauses entries parts) := by
    rw [Handler.partClauses_fails_iff]
    rintro ⟨other, inside, value, ⟨held, -⟩, problem, failed⟩
    obtain ⟨rival, listedRival, rfl⟩ := List.mem_map.mp inside
    have same : rival.name = field.name ∧ value = params := by
      simpa [entries] using Table.mem_of_lookup held
    obtain ⟨name, rfl⟩ := same
    cases SchemaField.eq_of_name_eq distinct listedRival listed name
    exact nomatch answered.symm.trans failed
  obtain ⟨clauses, ran⟩ := not_fails_iff.mp runs
  have whole : Registry.standard.resolve hook (.record ⟨name, fields⟩) path (.object entries) =
      .ok (some clauses) := by
    rw [Registry.standard_resolve_record, records]
    exact bind_eq_ok.mpr ⟨clauses, ran, rfl⟩
  refine ⟨clauses, whole, ?_⟩
  rw [Handler.mem_partClauses ran]
  exact ⟨_, ownPart, params, ⟨addressed, given⟩, found, answered, member⟩

/-- Some clause can be had of every type that appears. -/
theorem present_yields (acts : ActsOn surface hook) (type : SchemaType)
    (valid : type.validate = .ok ()) (appears : type.outline surface ≠ none) :
    ∃ params clause, params ≠ .null ∧ Yields hook type path params clause := by
  induction type using SchemaType.type_induction generalizing path with
  | primitive kind => exact acts.present kind path appears
  | record name fields ih =>
    obtain ⟨-, legal, distinct⟩ := RecordType.validate_eq_ok.mp valid
    have inside : ∃ field ∈ fields, field.type.outline surface ≠ none := by
      simpa [record_outline_eq_none] using appears
    obtain ⟨field, listed, shown⟩ := inside
    obtain ⟨params, clause, given, own⟩ := ih field listed (legal field listed).2 shown
    exact ⟨_, clause, by simp [Json.single], record_yields acts.record distinct listed given own⟩

/-- No clause can be had of a type that does not appear. -/
theorem absent_yields_nothing (acts : ActsOn surface hook) (hidden : type.outline surface = none)
    (clause : Json) : ¬ Yields hook type path params clause := by
  rintro ⟨clauses, ran, member⟩
  obtain ⟨kind, leaf, given, answer, gone, answered, -⟩ :=
    standard_clause_leaf (fun type _ => type.outline surface = none) type acts.record
      (fun _ _ _ => record_outline_eq_none.mp) hidden ran member
  rw [acts.absent kind leaf given gone] at answered
  cases answered

/-- A type appears on a surface exactly if something can be given for it that makes clauses. -/
theorem appears_iff_clauses (acts : ActsOn surface hook) (type : SchemaType)
    (valid : type.validate = .ok ()) :
    type.outline surface ≠ none ↔ ∃ params clauses, params ≠ .null ∧
      Registry.standard.resolve hook type path params = .ok (some clauses) ∧ clauses ≠ [] := by
  constructor
  · intro appears
    obtain ⟨params, clause, given, clauses, ran, member⟩ := present_yields acts type valid appears
    exact ⟨params, clauses, given, ran, List.ne_nil_of_mem member⟩
  · rintro ⟨params, clauses, -, ran, nonempty⟩ hidden
    obtain ⟨clause, member⟩ := List.exists_mem_of_ne_nil clauses nonempty
    exact absent_yields_nothing acts hidden clause ⟨clauses, ran, member⟩

/-- What a client gives does not have the shape of a type at a path: for some record in it there is
something other than an object. The problem names the first place on the way to the record. -/
inductive Mismatch : FieldPath → SchemaType → Json → Problem → Prop where
  | record {path : FieldPath} {shape : RecordType} {value : Json} (given : value ≠ .null)
      (other : ∀ entries, value ≠ .object entries) :
      Mismatch path (.record shape) value (.argument path.dotted (.notRecord shape.name value))
  | inside {path : FieldPath} {name : String} {fields : List SchemaField} {entries : Json.Entries}
      {field : SchemaField} {value : Json} {problem : Problem} (listed : field ∈ fields)
      (held : entries.lookup field.name = some value)
      (inner : Mismatch (path.child field.name) field.type value problem) :
      Mismatch path (.record ⟨name, fields⟩) (.object entries) problem

theorem Mismatch.given (mismatch : Mismatch path type params problem) : params ≠ .null := by
  cases mismatch with
  | record given => exact given
  | inside => simp

/-- What does not have the shape of a type is refused. -/
theorem mismatch_fails (records : hook .record = Handler.recordClauses)
    (mismatch : Mismatch path type params problem) :
    Fails (Registry.standard.resolve hook type path params) := by
  induction mismatch with
  | @record path shape value given other =>
    obtain ⟨name, fields⟩ := shape
    rw [Registry.standard_resolve_record, records]
    cases value with
    | null => exact (given rfl).elim
    | object entries => exact (other entries rfl).elim
    | bool | number | string | array => exact ⟨_, rfl⟩
  | @inside path name fields entries field value problem listed held inner ih =>
    rw [Registry.standard_resolve_record, records]
    simp only [Handler.recordClauses, Capability.resolve]
    rw [fails_return some, Handler.partClauses_fails_iff]
    exact ⟨_, List.mem_map.mpr ⟨field, listed, rfl⟩, value, ⟨held, inner.given⟩, ih⟩

/-- Of a type that does not appear nothing else is refused. -/
theorem absent_problem (acts : ActsOn surface hook) (type : SchemaType)
    (hidden : type.outline surface = none)
    (failed : Registry.standard.resolve hook type path params = .error problem) :
    Mismatch path type params problem := by
  induction type using SchemaType.type_induction generalizing path params with
  | primitive kind =>
    rw [acts.absent kind path params hidden] at failed
    cases failed
  | record name fields ih =>
    rw [Registry.standard_resolve_record, acts.record] at failed
    simp only [Handler.recordClauses, Capability.resolve] at failed
    cases params with
    | null => cases failed
    | object entries =>
      have inParts := (bind_eq_error.mp failed).resolve_right (by simp)
      obtain ⟨part, inside, value, ⟨held, -⟩, own⟩ := Handler.partClauses_eq_error inParts
      obtain ⟨field, listed, rfl⟩ := List.mem_map.mp inside
      exact .inside listed held (ih field listed (record_outline_eq_none.mp hidden field listed) own)
    | bool | number | string | array =>
      cases failed
      exact .record (by simp) (by simp)

end TypedSearch
