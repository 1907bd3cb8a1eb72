import TypedSearch.Api.Codec
import TypedSearch.Proofs.Json.Text

/-!
API schemas read back from their values, and known by the bytes that their fingerprint is made of.
Every part of a schema is read back once what it consists of is, and its value has strings only, so
the compact text of a schema leaves nothing open.
-/

namespace TypedSearch

open Outcome

section Read

theorem TypeRef.ofJson?_toJson (type : TypeRef) : ofJson? type.toJson = .ok type := by
  induction type with
  | named name => rfl
  | list inner ih =>
    simp only [toJson, Json.single, ofJson?, ih, map_ok]
    rfl
  | nonNull inner ih =>
    simp only [toJson, Json.single, ofJson?, ih, map_ok]
    rfl

theorem InputValue.ofJson?_toJson (buffered : Bool) (input : InputValue) :
    ofJson? buffered input.toJson = .ok input := by
  rw [ofJson?, toJson, Json.toPair_written (by decide) (Json.toText_written _)
    input.type.ofJson?_toJson, ok_bind]
  rfl

theorem InputValue.listOfJson?_written (buffered : Bool) (inputs : List InputValue) :
    listOfJson? buffered (.array (inputs.map toJson)) = .ok inputs :=
  Json.toList_written fun input _ => input.ofJson?_toJson buffered

/-- A field without arguments has none in its value, and none are read. -/
theorem ObjectField.ofJson?_toJson (buffered : Bool) (field : ObjectField) :
    ofJson? buffered field.toJson = .ok field := by
  obtain ⟨name, type, arguments⟩ := field
  have typed := type.ofJson?_toJson
  cases arguments with
  | nil => simp [toJson, ofJson?, readPart, Json.toText, typed]
  | cons first others =>
    have listed := InputValue.listOfJson?_written buffered (first :: others)
    rw [List.map_cons] at listed
    simp [toJson, ofJson?, readPart, Json.toText, typed, listed]

theorem TypeBody.ofKind?_entries (buffered : Bool) (body : TypeBody) :
    ofKind? buffered body.kind body.entriesToJson = .ok body := by
  cases body with
  | object fields =>
    have listed := Json.toList_written fun (field : ObjectField) (_ : field ∈ fields) =>
      field.ofJson?_toJson buffered
    simp [ofKind?, kind, entriesToJson, listed]
  | inputObject fields =>
    simp [ofKind?, kind, entriesToJson, InputValue.listOfJson?_written]
  | enumeration values =>
    have listed := Json.toList_written fun (value : String) (_ : value ∈ values) =>
      Json.toText_written value
    simp [ofKind?, kind, entriesToJson, Json.ofStrings, listed]

theorem TypeBody.toBareVariant_kind (body : TypeBody) :
    Json.toBareVariant kinds (.string body.kind) = .ok body.kind := by
  cases body <;> rfl

theorem TypeBody.ofJson?_toJson (body : TypeBody) : ofJson? body.toJson = .ok body := by
  simp [toJson, ofJson?, ofEntries, toBareVariant_kind, ofKind?_entries]

theorem NamedType.ofJson?_toJson (type : NamedType) : ofJson? type.toJson = .ok type := by
  rw [ofJson?, toJson, Json.toPair_written (by decide) (Json.toText_written _)
    type.body.ofJson?_toJson, ok_bind]
  rfl

theorem ApiSchema.ofJson?_toJson (schema : ApiSchema) : ofJson? schema.toJson = .ok schema := by
  have listed := Json.toList_written fun (type : NamedType) (_ : type ∈ schema.definitions) =>
    type.ofJson?_toJson
  rw [ofJson?, toJson, Json.toPair_written (by decide) (Json.toText_written _) listed, ok_bind]
  rfl

end Read

section Text

open Json (Textual)

theorem TypeRef.textual (type : TypeRef) : Textual type.toJson := by
  induction type with
  | named name => exact .single (.string name)
  | list inner ih => exact .single ih
  | nonNull inner ih => exact .single ih

theorem InputValue.textual (input : InputValue) : Textual input.toJson :=
  .pair (.string input.name) input.type.textual

theorem ObjectField.textual (field : ObjectField) : Textual field.toJson := by
  refine .object ?_
  rw [List.forall_mem_append, List.forall_mem_cons, List.forall_mem_singleton]
  refine ⟨⟨.string field.name, field.type.textual⟩, ?_⟩
  split
  · simp
  · exact List.forall_mem_singleton.mpr (.list field.arguments InputValue.textual)

theorem TypeBody.entries_textual (body : TypeBody) : Textual body.entriesToJson := by
  cases body with
  | object fields => exact .list fields ObjectField.textual
  | inputObject fields => exact .list fields InputValue.textual
  | enumeration values => exact .list values .string

theorem TypeBody.textual (body : TypeBody) : Textual body.toJson :=
  .pair (.string body.kind) body.entries_textual

theorem NamedType.textual (type : NamedType) : Textual type.toJson :=
  .pair (.string type.name) type.body.textual

theorem ApiSchema.textual (schema : ApiSchema) : Textual schema.toJson :=
  .pair (.string schema.query) (.list schema.definitions NamedType.textual)

end Text

/-- The bytes that the fingerprint of a schema is made of. -/
def ApiSchema.hashed (schema : ApiSchema) : List UInt8 := schema.toJson.compact.toUTF8.toList

theorem ApiSchema.hashed_inj {schema other : ApiSchema} :
    schema.hashed = other.hashed ↔ schema = other := by
  rw [hashed, hashed, Json.byteList_inj, schema.textual.compact_inj other.textual]
  exact (Json.injective_of_read ofJson?_toJson).eq_iff

/-- Different texts with one digest. -/
def Fingerprint.Collision (bytes other : List UInt8) : Prop :=
  bytes ≠ other ∧ ofBytes bytes = ofBytes other

/-- A schema is read back from its value and known by the bytes that its fingerprint is made of, so
two schemas share a fingerprint only if they are equal or their bytes are a collision of the digest. -/
theorem schema_known_by_bytes (schema other : ApiSchema) :
    ApiSchema.ofJson? schema.toJson = .ok schema ∧
    schema.fingerprint = .ofBytes schema.hashed ∧
    (schema.hashed = other.hashed ↔ schema = other) ∧
    (schema.fingerprint = other.fingerprint ↔
      schema = other ∨ Fingerprint.Collision schema.hashed other.hashed) := by
  have known : schema.hashed = other.hashed ↔ schema = other := ApiSchema.hashed_inj
  refine ⟨schema.ofJson?_toJson, rfl, known, ?_⟩
  rw [Fingerprint.Collision, Ne, known]
  by_cases same : schema = other
  · simp [same]
  · simp only [same, not_false_eq_true, true_and, false_or]
    rfl

end TypedSearch
