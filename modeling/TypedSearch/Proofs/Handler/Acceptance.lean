import TypedSearch.Proofs.Api.Conformance
import TypedSearch.Proofs.Json.Value
import TypedSearch.Query.TermFilter

/-!
The readers of term filters and of directions accept what conforms to their types. Each key of a term
filter's type is read by the decoder of its scalar, and the decoder takes all that the scalar admits.
-/

namespace TypedSearch

open ApiSchema Outcome

variable {schema : ApiSchema} {path : FieldPath} {params : Json} {scalar name : String}
  {keys : List String}

/-- A decoder takes every value that a scalar admits. -/
def Decodes {α : Type} (decode : Json → Json.Decoded α) (scalar : String) : Prop :=
  ∀ value, Scalar.admits scalar value = true → ∃ part, decode value = .ok part

theorem toBool_decodes : Decodes Json.toBool Scalar.boolean := by
  intro value admitted
  cases value with
  | bool value => exact ⟨value, rfl⟩
  | number value =>
    cases value <;> simp [Scalar.admits, Scalar.boolean, Scalar.float, Scalar.int] at admitted
  | null | string | array | object => simp [Scalar.admits, Scalar.boolean, Scalar.string] at admitted

theorem toText_decodes : Decodes Json.toText Scalar.string := by
  intro value admitted
  cases value with
  | string text => exact ⟨text, rfl⟩
  | number value =>
    cases value <;> simp [Scalar.admits, Scalar.string, Scalar.float, Scalar.int] at admitted
  | null | bool | array | object => simp [Scalar.admits, Scalar.boolean, Scalar.string] at admitted

theorem toReal_decodes : Decodes Json.toReal Scalar.float := by
  intro value admitted
  cases value with
  | number value => exact ⟨value.toBinary64, rfl⟩
  | null | bool | string | array | object =>
    simp [Scalar.admits, Scalar.boolean, Scalar.string, Scalar.float] at admitted

/-- The whole numbers that the API admits are the 64-bit integers that filters are read into. -/
theorem toInt64_decodes : Decodes Json.toInt64 Scalar.int := by
  intro value admitted
  cases value with
  | number value =>
    cases value with
    | integer value =>
      have range : -0x8000000000000000 ≤ value ∧ value < 0x8000000000000000 := by
        simpa [Scalar.admits, Scalar.int, Scalar.float] using admitted
      have bounds : -(powerOfTwo 63 : Int) ≤ value ∧ value ≤ powerOfTwo 63 - 1 := by
        have power : powerOfTwo 63 = 0x8000000000000000 := by decide
        omega
      exact ⟨value, by simp [Json.toInt64, Json.toBounded, bounds]⟩
    | real value => simp [Scalar.admits, Scalar.int, Scalar.float] at admitted
  | null | bool | string | array | object =>
    simp [Scalar.admits, Scalar.boolean, Scalar.string, Scalar.int] at admitted

/-- What conforms to a scalar can be read as an optional part. -/
theorem toOption_reads {α : Type} {decode : Json → Json.Decoded α} {value : Json}
    (known : scalar ∈ Scalar.names) (decodes : Decodes decode scalar)
    (fits : schema.conforms value (.named scalar) = true) :
    ∃ part, value.toOption decode = .ok part := by
  by_cases null : value = .null
  · subst null
    exact ⟨none, rfl⟩
  · have admitted := ((conforms_scalar known).mp fits).resolve_left null
    obtain ⟨part, decoded⟩ := decodes value admitted
    exact ⟨some part, by simp [Json.toOption_given null, decoded]⟩

/-- The entries of a term filter are read whatever was read before them, if their keys are known and
their values conform to a scalar. -/
def ReadsParts {φ : Type} (schema : ApiSchema) (readPart : φ → String × Json → Json.Decoded φ)
    (scalar : String) (keys : List String) : Prop :=
  ∀ entry : String × Json, entry.1 ∈ keys → schema.conforms entry.2 (.named scalar) = true →
    ∀ filter, ∃ next, readPart filter entry = .ok next

theorem boolean_reads_parts :
    ReadsParts schema BooleanFilter.readPart Scalar.boolean [TermFilter.equalsKey] := by
  intro entry known fits filter
  obtain ⟨part, read⟩ := toOption_reads (by decide) toBool_decodes fits
  refine ⟨{ filter with equals := part }, ?_⟩
  simp [BooleanFilter.readPart, List.mem_singleton.mp known, read]

private theorem mem_rangeKeys {key : String} (listed : key ∈ TermFilter.rangeKeys) :
    key = "equals" ∨ key = "greaterThan" ∨ key = "greaterEqualTo" ∨ key = "lessThan" ∨
      key = "lessEqualTo" := by
  simpa only [TermFilter.rangeKeys, TermFilter.equalsKey, TermFilter.bounds, List.map_cons,
    List.map_nil, List.mem_cons, List.not_mem_nil, or_false] using listed

theorem range_reads_parts {α : Type} {decode : Json → Json.Decoded α} {known : List String}
    (unwrapped : scalar ∈ Scalar.names) (decodes : Decodes decode scalar) :
    ReadsParts schema (RangeFilter.readPart decode known) scalar TermFilter.rangeKeys := by
  rintro ⟨key, value⟩ listed fits filter
  obtain ⟨part, read⟩ := toOption_reads unwrapped decodes fits
  rcases mem_rangeKeys listed with rfl | rfl | rfl | rfl | rfl <;>
    simp [RangeFilter.readPart, read]

theorem string_reads_parts :
    ReadsParts schema StringFilter.readPart Scalar.string TermFilter.stringKeys := by
  rintro ⟨key, value⟩ listed fits filter
  rcases List.mem_append.mp listed with ordered | worded
  · obtain ⟨order, read⟩ : ∃ order,
        filter.order.readPart Json.toText TermFilter.stringKeys (key, value) = .ok order :=
      range_reads_parts (by decide) toText_decodes (key, value) ordered fits filter.order
    refine ⟨{ filter with order := order }, ?_⟩
    rcases mem_rangeKeys ordered with rfl | rfl | rfl | rfl | rfl <;>
      simp [StringFilter.readPart, read]
  · obtain ⟨part, read⟩ := toOption_reads (by decide) toText_decodes fits
    simp only [List.mem_cons, List.not_mem_nil, or_false] at worded
    rcases worded with rfl | rfl | rfl <;> simp [StringFilter.readPart, read]

/-- A term filter is read from whatever conforms to its type, null included. -/
theorem parse_accepts {φ : Type} {empty : φ} {readPart : φ → String × Json → Json.Decoded φ}
    (unreserved : name ∉ Scalar.names) (reads : ReadsParts schema readPart scalar keys)
    (defined : schema.get? name = some (TermFilter.namedType name scalar keys))
    (fits : schema.conforms params (.named name) = true) :
    ∃ filter, TermFilter.parse empty readPart path params = .ok filter := by
  rcases conforms_inputObject unreserved defined fits with rfl | ⟨entries, rfl, fitting⟩
  · exact ⟨empty, rfl⟩
  · have each : ∀ entry ∈ entries, ∀ filter, ∃ next, readPart filter entry = .ok next := by
      intro entry member
      obtain ⟨input, listed, same, conforming⟩ := fitting.input_of member
      obtain ⟨key, known, rfl⟩ := List.mem_map.mp listed
      exact reads entry (same ▸ known) conforming
    obtain ⟨filter, read⟩ := foldlM_ok each empty
    exact ⟨filter, by simp [TermFilter.parse, read]⟩

/-- A direction is read from whatever conforms to the enumeration of directions but null. -/
theorem direction_accepts (path : FieldPath)
    (defined : schema.get? Direction.typeName = some Direction.namedType)
    (fits : schema.conforms params (.named Direction.typeName) = true) (given : params ≠ .null) :
    ∃ direction, Direction.ofParams path params = .ok direction := by
  rcases conforms_enumeration (by decide) defined fits with null | ⟨text, rfl, known⟩
  · exact (given null).elim
  · simp only [Direction.names, Direction.name, List.mem_cons, List.not_mem_nil, or_false] at known
    rcases known with rfl | rfl
    · exact ⟨.ascending, rfl⟩
    · exact ⟨.descending, rfl⟩

end TypedSearch
