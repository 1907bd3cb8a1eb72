import TypedSearch.Schema.Type

/-!
The primitives in a schema type, however deep they are nested in records.
-/

namespace TypedSearch

mutual

/-- The primitives in a type in the order of the schema, each with the names that lead to it. -/
def SchemaType.leaves : SchemaType → List (List String × Primitive)
  | .primitive kind => [([], kind)]
  | .record ⟨_, fields⟩ => SchemaField.leaves fields
termination_by structural type => type

/-- The primitives in fields in the order of the schema, each with the names that lead to it. -/
def SchemaField.leaves : List SchemaField → List (List String × Primitive)
  | [] => []
  | ⟨name, type⟩ :: rest =>
    (SchemaType.leaves type).map (fun leaf => (name :: leaf.1, leaf.2)) ++ SchemaField.leaves rest
termination_by structural fields => fields

end

variable {fields : List SchemaField} {leaf : List String × Primitive}

/-- The primitives in fields are those in the types of the fields. -/
theorem SchemaField.mem_leaves : leaf ∈ SchemaField.leaves fields ↔
    ∃ field ∈ fields, ∃ inner ∈ field.type.leaves, (field.name :: inner.1, inner.2) = leaf := by
  induction fields with
  | nil => simp [SchemaField.leaves]
  | cons field rest ih =>
    obtain ⟨name, type⟩ := field
    rw [SchemaField.leaves, List.mem_append, List.mem_map, ih]
    simp only [List.mem_cons, exists_eq_or_imp]

/-- What is true of every primitive in a record is true of every one in each of its fields. -/
theorem SchemaType.forall_leaves_record (holds : Primitive → Prop) {name : String} :
    (∀ leaf ∈ (SchemaType.record ⟨name, fields⟩).leaves, holds leaf.2) ↔
      ∀ field ∈ fields, ∀ leaf ∈ field.type.leaves, holds leaf.2 := by
  rw [SchemaType.leaves]
  constructor
  · intro every field listed leaf inside
    exact every (field.name :: leaf.1, leaf.2)
      (SchemaField.mem_leaves.mpr ⟨field, listed, leaf, inside, rfl⟩)
  · intro each leaf inside
    obtain ⟨field, listed, inner, own, rfl⟩ := SchemaField.mem_leaves.mp inside
    exact each field listed inner own

end TypedSearch
