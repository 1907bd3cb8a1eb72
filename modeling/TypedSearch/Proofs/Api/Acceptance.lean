import TypedSearch.Proofs.Api.Outline
import TypedSearch.Proofs.Handler.Acceptance
import TypedSearch.Proofs.Handler.Dispatch
import TypedSearch.Proofs.Handler.Parts
import TypedSearch.Proofs.Schema.Induction
import TypedSearch.Proofs.Schema.Validation
import TypedSearch.Proofs.Table

/-!
Filters and orders on stored fields are accepted as typed. Whatever conforms to the type that a field
has on one of the two surfaces is taken by the handlers of that surface, at any depth of records.
-/

namespace TypedSearch

open ApiSchema Outcome

variable {schema : ApiSchema} {surface : Surface} {path : FieldPath} {params : Json}
  {hook : Handler → HandlerCapability Json (List Json)} {outline : Outline}

/-- A schema defines types as they are, each under its name. -/
def ApiSchema.Lists (schema : ApiSchema) (types : List NamedType) : Prop :=
  ∀ type ∈ types, schema.get? type.name = some type

theorem ApiSchema.lists_append {left right : List NamedType} :
    schema.Lists (left ++ right) ↔ schema.Lists left ∧ schema.Lists right :=
  List.forall_mem_append

/-- Names that end differently are different. -/
theorem append_ne (base : String) {suffix other : String} (last : Char)
    (ends : suffix.toList.getLast? = some last) (differs : other.toList.getLast? ≠ some last) :
    base ++ suffix ≠ other := by
  rintro rfl
  refine differs ?_
  rw [String.toList_append, List.getLast?_append, ends]
  rfl

/-- A name that ends differently from all scalars is not one of them. -/
theorem append_unreserved (base : String) {suffix : String} (last : Char)
    (ends : suffix.toList.getLast? = some last)
    (other : ∀ scalar ∈ Scalar.names, scalar.toList.getLast? ≠ some last) :
    base ++ suffix ∉ Scalar.names :=
  fun scalar => append_ne base last ends (other _ scalar) rfl

theorem mem_outlines {name : String} {fields : List SchemaField} :
    (name, outline) ∈ SchemaField.outlines surface fields ↔
      ∃ field ∈ fields, field.name = name ∧ field.type.outline surface = some outline := by
  induction fields with
  | nil => simp [SchemaField.outlines]
  | cons field rest ih =>
    obtain ⟨key, type⟩ := field
    rw [SchemaField.outlines, List.mem_append, ih]
    simp only [List.mem_cons, exists_eq_or_imp]
    refine or_congr_left ?_
    cases SchemaType.outline surface type with
    | none => simp
    | some own => simp [eq_comm]

/-- A surface on which clients give something for fields, with the capability of handlers to take it.
Records are input objects there, and leaves take what conforms to their types. -/
structure TakesInput (schema : ApiSchema) (surface : Surface)
    (hook : Handler → HandlerCapability Json (List Json)) : Prop where
  /-- Records appear as input objects. -/
  body : surface.recordBody = Handler.inputBody
  /-- Records take what their fields do. -/
  clauses : hook .record = Handler.recordClauses
  /-- The names of record types are none of scalars. -/
  unreserved : ∀ base, base ++ surface.recordSuffix ∉ Scalar.names
  /-- Leaves take what conforms to their types. -/
  leaf : ∀ kind path params outline, Primitive.outline surface kind = some outline →
    schema.Lists outline.types → schema.conforms params outline.reference = true →
    params ≠ .null → ¬ Fails (Registry.standard.resolve hook (.primitive kind) path params)

/-- Whatever conforms to the type of a stored field is accepted for the field, null apart. -/
theorem stored_accepts (takes : TakesInput schema surface hook) (type : SchemaType)
    (valid : type.validate = .ok ()) (found : type.outline surface = some outline)
    (listed : schema.Lists outline.types)
    (fits : schema.conforms params outline.reference = true) (given : params ≠ .null) :
    ¬ Fails (Registry.standard.resolve hook type path params) := by
  induction type using SchemaType.type_induction generalizing path params outline with
  | primitive kind => exact takes.leaf kind path params outline found listed fits given
  | record name fields ih =>
    obtain ⟨-, legal, distinct⟩ := RecordType.validate_eq_ok.mp valid
    rw [SchemaType.outline, Surface.recordOutline] at found
    split at found
    · cases found
    cases found
    have defined : schema.get? (name ++ surface.recordSuffix) =
        some (surface.recordType name (SchemaField.outlines surface fields)) :=
      listed _ (List.mem_append_right _ List.mem_cons_self)
    rw [Surface.recordType, takes.body] at defined
    rcases conforms_inputObject (takes.unreserved name) defined fits with
      null | ⟨entries, rfl, fitting⟩
    · exact (given null).elim
    rw [Registry.standard_resolve_record, takes.clauses]
    simp only [Handler.recordClauses, Capability.resolve]
    rw [fails_return some, Handler.partClauses_fails_iff]
    -- The entry that a field finds was admitted for an input of its name, which only it can have made.
    rintro ⟨part, listedPart, params, ⟨wanted, given⟩, fails⟩
    obtain ⟨field, inside, rfl⟩ := List.mem_map.mp listedPart
    obtain ⟨input, member, same, conforming⟩ := fitting.input_of (Table.mem_of_lookup wanted)
    obtain ⟨reference, listedReference, rfl⟩ := List.mem_map.mp member
    obtain ⟨⟨key, inner⟩, appears, rfl⟩ := List.mem_map.mp listedReference
    obtain ⟨other, insideOther, named, outlined⟩ := mem_outlines.mp appears
    cases SchemaField.eq_of_name_eq distinct insideOther inside (named.trans same)
    refine ih field inside (legal field inside).2 outlined (fun type made => ?_) conforming given fails
    exact listed type (List.mem_append_left _ (List.mem_flatMap.mpr ⟨_, appears, made⟩))

private theorem termFilter_accepts {φ : Type} {ofParams : FieldPath → Json → Except Problem φ}
    {clauses : φ → FieldPath → List Json} {site : Site Json (List Json)}
    (read : ∃ filter, ofParams site.path params = .ok filter) :
    ¬ Fails ((Handler.termFilter ofParams clauses).resolve site params) := by
  obtain ⟨filter, read⟩ := read
  simp [Handler.termFilter, Capability.resolve, read]

/-- Filters take what conforms to the types of filters. -/
theorem filter_takesInput : TakesInput schema .filter Handler.filter where
  body := rfl
  clauses := rfl
  unreserved base := append_unreserved base 'r' rfl (by decide)
  leaf kind path params outline found listed fits given := by
    rw [Registry.standard_resolve_primitive]
    cases kind with
    | boolean =>
      cases found
      exact termFilter_accepts
        (parse_accepts (by decide) boolean_reads_parts (listed _ List.mem_cons_self) fits)
    | int =>
      cases found
      exact termFilter_accepts
        (parse_accepts (by decide) (range_reads_parts (by decide) toInt64_decodes)
          (listed _ List.mem_cons_self) fits)
    | float =>
      cases found
      exact termFilter_accepts
        (parse_accepts (by decide) (range_reads_parts (by decide) toReal_decodes)
          (listed _ List.mem_cons_self) fits)
    | string =>
      cases found
      exact termFilter_accepts
        (parse_accepts (by decide) string_reads_parts (listed _ List.mem_cons_self) fits)
    | bytes | null | long | double => cases found

private theorem fieldSort_accepts {target : FieldPath → String} {site : Site Json (List Json)}
    (listed : schema.Lists [Direction.namedType])
    (fits : schema.conforms params (.named Direction.typeName) = true) (given : params ≠ .null) :
    ¬ Fails ((Handler.fieldSort target).resolve site params) := by
  obtain ⟨direction, read⟩ :=
    direction_accepts site.path (listed _ List.mem_cons_self) fits given
  simp [Handler.fieldSort, Capability.resolve, read]

/-- Sorts take directions. -/
theorem order_takesInput : TakesInput schema .order Handler.sort where
  body := rfl
  clauses := rfl
  unreserved base := append_unreserved base 'r' rfl (by decide)
  leaf kind path params outline found listed fits given := by
    rw [Registry.standard_resolve_primitive]
    cases kind with
    | boolean | int | float | string =>
      cases found
      exact fieldSort_accepts listed fits given
    | bytes | null | long | double => cases found

end TypedSearch
