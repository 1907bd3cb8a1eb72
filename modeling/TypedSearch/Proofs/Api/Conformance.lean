import TypedSearch.Api.Types

/-!
What values a schema admits for a type. Null conforms to every type that does not exclude it. A scalar
admits values of its kind, an enumeration its names, a list lists of what conforms to its items' type,
and an input object those objects that have only its keys, each with a conforming value, and all of
its keys whose types exclude null.
-/

namespace TypedSearch

namespace TypeRef

/-- Whether null conforms to a type. -/
def admitsNull : TypeRef → Bool
  | nonNull _ => false
  | _ => true

/-- The type of the values that are not null. -/
def nullable : TypeRef → TypeRef
  | nonNull inner => inner.nullable
  | type => type

end TypeRef

namespace Scalar

/-- The scalars. -/
def names : List String := [int, float, string, boolean]

/-- Whether a scalar admits a value. Whole numbers are those of 64 bits with a sign, and real numbers
may be whole. -/
def admits (scalar : String) : Json → Bool
  | .bool _ => scalar == boolean
  | .number (.integer value) =>
    scalar == float ||
      scalar == int && decide (-0x8000000000000000 ≤ value ∧ value < 0x8000000000000000)
  | .number (.real _) => scalar == float
  | .string _ => scalar == string
  | _ => false

end Scalar

namespace ApiSchema

/-- Whether a type without parts admits a value. -/
def admits (schema : ApiSchema) (value : Json) : TypeRef → Bool
  | .named name =>
    if Scalar.names.contains name then Scalar.admits name value
    else
      match schema.get? name, value with
      | some ⟨_, .enumeration values⟩, .string text => values.contains text
      | _, _ => false
  | _ => false

/-- The inputs of an input object. -/
def inputs? (schema : ApiSchema) : TypeRef → Option (List InputValue)
  | .named name =>
    if Scalar.names.contains name then none
    else
      match schema.get? name with
      | some ⟨_, .inputObject inputs⟩ => some inputs
      | _ => none
  | _ => none

mutual

/-- Whether a value conforms to a type. -/
def conforms (schema : ApiSchema) : Json → TypeRef → Bool
  | .null, type => type.admitsNull
  | .bool value, type => schema.admits (.bool value) type.nullable
  | .number value, type => schema.admits (.number value) type.nullable
  | .string text, type => schema.admits (.string text) type.nullable
  | .array items, type =>
    match type.nullable with
    | .list inner => itemsConform schema items inner
    | _ => false
  | .object entries, type =>
    match schema.inputs? type.nullable with
    | some inputs =>
      entriesConform schema entries inputs &&
        inputs.all fun input =>
          input.type.admitsNull || (Json.Entries.keys entries).contains input.name
    | none => false
termination_by structural value => value

/-- Whether all items of a list conform to a type. -/
def itemsConform (schema : ApiSchema) : List Json → TypeRef → Bool
  | [], _ => true
  | item :: rest, type => conforms schema item type && itemsConform schema rest type
termination_by structural items => items

/-- Whether all entries of an object have keys of an input object and conform to their types. -/
def entriesConform (schema : ApiSchema) : List (String × Json) → List InputValue → Bool
  | [], _ => true
  | (key, value) :: rest, inputs =>
    (match inputs.find? fun input => input.name = key with
      | some input => conforms schema value input.type
      | none => false) && entriesConform schema rest inputs
termination_by structural entries => entries

end

/-- The type of an argument of a dataset's query field. -/
def argumentType? (schema : ApiSchema) (dataset argument : String) : Option TypeRef := do
  let query ← schema.queryType?
  let field ← query.objectField? dataset
  let input ← field.arguments.find? fun input => input.name = argument
  return input.type

variable {schema : ApiSchema} {value : Json} {name : String} {inputs : List InputValue}

/-- An object fits inputs if each of its entries conforms to the input of its key and every input that
excludes null has an entry. -/
structure Fits (schema : ApiSchema) (inputs : List InputValue) (entries : Json.Entries) : Prop where
  /-- Each entry conforms to the input of its key. -/
  each : ∀ entry ∈ entries, ∃ input, inputs.find? (fun input => input.name = entry.1) = some input ∧
    schema.conforms entry.2 input.type = true
  /-- Every input that excludes null has an entry. -/
  required : ∀ input ∈ inputs, input.type.admitsNull = false →
    input.name ∈ Json.Entries.keys entries

theorem Fits.input_of {entries : Json.Entries} (fits : schema.Fits inputs entries)
    {entry : String × Json} (member : entry ∈ entries) :
    ∃ input ∈ inputs, input.name = entry.1 ∧ schema.conforms entry.2 input.type = true := by
  obtain ⟨input, found, conforming⟩ := fits.each entry member
  exact ⟨input, List.mem_of_find?_eq_some found, by simpa using List.find?_some found, conforming⟩

theorem itemsConform_iff {items : List Json} {type : TypeRef} :
    schema.itemsConform items type = true ↔ ∀ item ∈ items, schema.conforms item type = true := by
  induction items with
  | nil => simp [itemsConform]
  | cons item rest ih => rw [itemsConform, Bool.and_eq_true, ih, List.forall_mem_cons]

theorem entriesConform_iff {entries : Json.Entries} :
    schema.entriesConform entries inputs = true ↔
      ∀ entry ∈ entries, ∃ input, inputs.find? (fun input => input.name = entry.1) = some input ∧
        schema.conforms entry.2 input.type = true := by
  induction entries with
  | nil => simp [entriesConform]
  | cons entry rest ih =>
    obtain ⟨key, value⟩ := entry
    rw [entriesConform, Bool.and_eq_true, ih, List.forall_mem_cons]
    refine and_congr_left fun _ => ?_
    cases inputs.find? fun input => input.name = key with
    | none => simp
    | some input => simp

/-- Null conforms exactly to the types that do not exclude it. -/
theorem conforms_null (type : TypeRef) : schema.conforms .null type = type.admitsNull := rfl

theorem conforms_nonNull {type : TypeRef} :
    schema.conforms value (.nonNull type) = true ↔
      value ≠ .null ∧ schema.conforms value type = true := by
  cases value with
  | null => simp [conforms_null, TypeRef.admitsNull]
  | bool | number | string | array | object => simp [conforms, TypeRef.nullable]

/-- Besides null, lists conform to the type of lists if their items conform to the inner type. -/
theorem conforms_list {inner : TypeRef} (fits : schema.conforms value (.list inner) = true) :
    value = .null ∨ ∃ items, value = .array items ∧
      ∀ item ∈ items, schema.conforms item inner = true := by
  cases value with
  | null => exact .inl rfl
  | array items => exact .inr ⟨items, rfl, itemsConform_iff.mp fits⟩
  | bool | number | string | object => simp [conforms, TypeRef.nullable, admits, inputs?] at fits

/-- Besides null, only objects that fit conform to an input object. -/
theorem conforms_inputObject {type : String} (unreserved : name ∉ Scalar.names)
    (defined : schema.get? name = some ⟨type, .inputObject inputs⟩)
    (fits : schema.conforms value (.named name) = true) :
    value = .null ∨ ∃ entries, value = .object entries ∧ schema.Fits inputs entries := by
  cases value with
  | null => exact .inl rfl
  | bool | number | string | array =>
    simp [conforms, TypeRef.nullable, admits, defined, unreserved] at fits
  | object entries =>
    simp only [conforms, TypeRef.nullable, inputs?, defined, List.contains_eq_mem, unreserved,
      decide_false, Bool.false_eq_true, ↓reduceIte, Bool.and_eq_true, entriesConform_iff,
      List.all_eq_true, Bool.or_eq_true, decide_eq_true_eq] at fits
    refine .inr ⟨entries, rfl, fits.1, fun input member excludes => ?_⟩
    simpa [excludes] using fits.2 input member

/-- Besides null, a scalar's values conform to it. -/
theorem conforms_scalar (scalar : name ∈ Scalar.names) :
    schema.conforms value (.named name) = true ↔ value = .null ∨ Scalar.admits name value = true := by
  cases value with
  | null => simp [conforms_null, TypeRef.admitsNull]
  | array items => simp [conforms, TypeRef.nullable, Scalar.admits]
  | object entries => simp [conforms, TypeRef.nullable, inputs?, scalar, Scalar.admits]
  | bool | number | string => simp [conforms, TypeRef.nullable, admits, scalar]

/-- Besides null, only the names of an enumeration conform to it. -/
theorem conforms_enumeration {type : String} {values : List String}
    (unreserved : name ∉ Scalar.names)
    (defined : schema.get? name = some ⟨type, .enumeration values⟩)
    (fits : schema.conforms value (.named name) = true) :
    value = .null ∨ ∃ text, value = .string text ∧ text ∈ values := by
  cases value with
  | null => exact .inl rfl
  | string text =>
    refine .inr ⟨text, rfl, ?_⟩
    simpa [conforms, TypeRef.nullable, admits, defined, unreserved] using fits
  | bool | number | array | object =>
    simp [conforms, TypeRef.nullable, admits, inputs?, defined, unreserved] at fits

end ApiSchema

end TypedSearch
