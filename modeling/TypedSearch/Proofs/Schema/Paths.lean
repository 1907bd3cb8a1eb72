import TypedSearch.Proofs.Schema.Validation

/-!
Paths in a schema: the names of fields that lead from the fields of a record to a type, through any
number of records inside.
-/

namespace TypedSearch.SchemaField

/-- Names lead from fields to a type: to that of a field, or from there into a record. -/
inductive Leads : List SchemaField → List String → SchemaType → Prop where
  | here {fields : List SchemaField} {field : SchemaField} (listed : field ∈ fields) :
      Leads fields [field.name] field.type
  | deeper {fields inner : List SchemaField} {field : SchemaField} {record : String}
      {segments : List String} {type : SchemaType} (listed : field ∈ fields)
      (inside : field.type = .record ⟨record, inner⟩) (rest : Leads inner segments type) :
      Leads fields (field.name :: segments) type

/-- Fields are valid if they are those of a valid record. -/
def Valid (fields : List SchemaField) : Prop :=
  (∀ field ∈ fields, Name.isIdentifier field.name = true ∧ field.type.validate = .ok ()) ∧
    Distinct fields

variable {fields inner : List SchemaField} {segments : List String} {type : SchemaType}
  {record : String}

theorem valid_of_record (valid : (SchemaType.record ⟨record, fields⟩).validate = .ok ()) :
    Valid fields :=
  (RecordType.validate_eq_ok.mp valid).2

theorem leads_cons_iff {head : String} :
    Leads fields (head :: segments) type ↔ ∃ field ∈ fields, field.name = head ∧
      (segments = [] ∧ field.type = type ∨
        ∃ record inner, field.type = .record ⟨record, inner⟩ ∧ Leads inner segments type) := by
  constructor
  · rintro (⟨listed⟩ | ⟨listed, inside, rest⟩)
    · exact ⟨_, listed, rfl, .inl ⟨rfl, rfl⟩⟩
    · exact ⟨_, listed, rfl, .inr ⟨_, _, inside, rest⟩⟩
  · rintro ⟨field, listed, rfl, ⟨rfl, rfl⟩ | ⟨record, inner, inside, rest⟩⟩
    · exact .here listed
    · exact .deeper listed inside rest

namespace Leads

theorem ne_nil (leads : Leads fields segments type) : segments ≠ [] := by
  cases leads <;> simp

/-- A path to a record goes on to the fields of the record. -/
theorem child (leads : Leads fields segments (.record ⟨record, inner⟩)) {field : SchemaField}
    (listed : field ∈ inner) : Leads fields (segments ++ [field.name]) field.type := by
  generalize reached : SchemaType.record ⟨record, inner⟩ = type at leads
  induction leads with
  | here first => exact .deeper first reached.symm (.here listed)
  | deeper first inside rest ih => exact .deeper first inside (ih reached)

/-- What a path that goes on passes through is a record. -/
theorem parent {last : String} (leads : Leads fields (segments ++ [last]) type)
    (nonempty : segments ≠ []) : ∃ record inner, Leads fields segments (.record ⟨record, inner⟩) := by
  -- By the names before the last one, as the cases of the path itself do not show its end.
  induction segments generalizing fields with
  | nil => exact (nonempty rfl).elim
  | cons head rest ih =>
    obtain ⟨field, listed, rfl, ⟨ends, -⟩ | ⟨record, inner, inside, tail⟩⟩ :=
      leads_cons_iff.mp leads
    · simp at ends
    · cases rest with
      | nil => exact ⟨record, inner, inside ▸ .here listed⟩
      | cons next rest =>
        obtain ⟨outer, others, reached⟩ := ih tail (by simp)
        exact ⟨outer, others, .deeper listed inside reached⟩

/-- In valid fields paths consist of identifiers. -/
theorem legal (leads : Leads fields segments type) (valid : Valid fields) :
    ∀ name ∈ segments, Name.isIdentifier name = true := by
  induction leads with
  | here listed => simpa using (valid.1 _ listed).1
  | deeper listed inside rest ih =>
    obtain ⟨own, checked⟩ := valid.1 _ listed
    exact List.forall_mem_cons.mpr ⟨own, ih (valid_of_record (inside ▸ checked))⟩

end Leads

end TypedSearch.SchemaField
