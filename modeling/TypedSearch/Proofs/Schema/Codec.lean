import TypedSearch.Proofs.Json.Value
import TypedSearch.Proofs.Schema.Induction
import TypedSearch.Schema.Decode

/-!
Schema types read back from their values. A reader takes a value for a primitive first and for a
record otherwise, so it has to be seen that no record is ever taken for a primitive, whatever its
names are.
-/

namespace TypedSearch

open Outcome

/-- A record has two entries, and what names a primitive has one at most. -/
theorem Primitive.ofJson?_record (shape : RecordType) : ofJson? shape.toJson = none := by
  obtain ⟨name, fields⟩ := shape
  rfl

theorem SchemaType.ofJson?_primitive (kind : Primitive) :
    ofJson? (toJson (.primitive kind)) = .ok (.primitive kind) := by
  cases kind <;> rfl

/-- The reader of types reads a record as one if it can be read as one. -/
theorem SchemaType.ofJson?_record {shape : RecordType}
    (back : RecordType.ofJson? shape.toJson = .ok shape) :
    ofJson? (toJson (.record shape)) = .ok (.record shape) := by
  have notPrimitive := Primitive.ofJson?_record shape
  obtain ⟨name, fields⟩ := shape
  rw [RecordType.toJson] at notPrimitive back
  rw [RecordType.ofJson?] at back
  rw [toJson, RecordType.toJson, ofJson?, notPrimitive, back]

theorem SchemaField.ofJson?_of_type {field : SchemaField}
    (back : SchemaType.ofJson? field.type.toJson = .ok field.type) :
    ofJson? field.toJson = .ok field := by
  obtain ⟨name, type⟩ := field
  simp [toJson, ofJson?, ofEntries, Json.toText, back, ofParts]

theorem SchemaField.listOfItems_written {fields : List SchemaField}
    (back : ∀ field ∈ fields, ofJson? field.toJson = .ok field) :
    listOfItems (listToJson fields) = .ok fields := by
  induction fields with
  | nil => rfl
  | cons field rest ih =>
    obtain ⟨first, others⟩ := List.forall_mem_cons.mp back
    rw [listToJson, listOfItems, first, ok_bind, ih others, ok_bind]
    rfl

theorem RecordType.ofJson?_of_fields {shape : RecordType}
    (back : ∀ field ∈ shape.fields, SchemaField.ofJson? field.toJson = .ok field) :
    ofJson? shape.toJson = .ok shape := by
  obtain ⟨name, fields⟩ := shape
  have items := SchemaField.listOfItems_written back
  simp [toJson, ofJson?, ofEntries, Json.toText, SchemaField.listOfJson?, items, ofParts]

/-- A type is read back from its value. -/
theorem SchemaType.ofJson?_toJson (type : SchemaType) : ofJson? type.toJson = .ok type := by
  induction type using type_induction with
  | primitive kind => exact ofJson?_primitive kind
  | record name fields each =>
    have shape : RecordType.ofJson? (RecordType.toJson ⟨name, fields⟩) = .ok ⟨name, fields⟩ :=
      RecordType.ofJson?_of_fields fun field member =>
        SchemaField.ofJson?_of_type (each field member)
    exact ofJson?_record shape

theorem SchemaField.ofJson?_toJson (field : SchemaField) : ofJson? field.toJson = .ok field :=
  ofJson?_of_type field.type.ofJson?_toJson

theorem RecordType.ofJson?_toJson (shape : RecordType) : ofJson? shape.toJson = .ok shape :=
  ofJson?_of_fields fun field _ => field.ofJson?_toJson

/-- Types, records and fields of any depth, with any names, are read back from their values, and so
different ones have different values. -/
theorem schema_read_back :
    (∀ type : SchemaType, SchemaType.ofJson? type.toJson = .ok type) ∧
    (∀ shape : RecordType, RecordType.ofJson? shape.toJson = .ok shape) ∧
    (∀ field : SchemaField, SchemaField.ofJson? field.toJson = .ok field) ∧
    Function.Injective SchemaType.toJson ∧ Function.Injective RecordType.toJson ∧
    Function.Injective SchemaField.toJson := by
  refine ⟨SchemaType.ofJson?_toJson, RecordType.ofJson?_toJson, SchemaField.ofJson?_toJson, ?_⟩
  refine ⟨?_, ?_, ?_⟩
  · exact Json.injective_of_read SchemaType.ofJson?_toJson
  · exact Json.injective_of_read RecordType.ofJson?_toJson
  · exact Json.injective_of_read SchemaField.ofJson?_toJson

end TypedSearch
