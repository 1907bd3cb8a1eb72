import TypedSearch.Proofs.Handler.Acceptance
import TypedSearch.Proofs.Query.FilterParts

/-!
Term filters as their types describe them. The values under the keys of a filter are those that the
scalar of its type admits. So a filter is read from just the objects that its type admits, and its
clauses are those of the keys that are given something, in the order of the type's entries whatever
order the client used.
-/

namespace TypedSearch

open Outcome

section Decoding

variable {value : Json}

theorem toBool_eq_ok {given : Bool} (decoded : value.toBool = .ok given) : value = .bool given := by
  cases value with
  | bool own =>
    cases decoded
    rfl
  | null | number | string | array | object => cases decoded

theorem toText_eq_ok {given : String} (decoded : value.toText = .ok given) :
    value = .string given := by
  cases value with
  | string own =>
    cases decoded
    rfl
  | null | bool | number | array | object => cases decoded

theorem toReal_eq_ok {given : Binary64} (decoded : value.toReal = .ok given) :
    ∃ number, value = .number number ∧ number.toBinary64 = given := by
  cases value with
  | number own =>
    cases decoded
    exact ⟨own, rfl, rfl⟩
  | null | bool | string | array | object => cases decoded

theorem toInt64_eq_ok {given : Int} (decoded : value.toInt64 = .ok given) :
    value = .ofInt given ∧ -0x8000000000000000 ≤ given ∧ given < 0x8000000000000000 := by
  cases value with
  | number own =>
    cases own with
    | integer own =>
      rw [Json.toInt64, Json.toBounded] at decoded
      split at decoded
      next fits =>
        cases decoded
        have power : (powerOfTwo 63 : Int) = 0x8000000000000000 := by decide
        exact ⟨rfl, by omega, by omega⟩
      next => cases decoded
    | real own => cases decoded
  | null | bool | string | array | object => cases decoded

end Decoding

/-- The kinds of values that have term filters. -/
inductive TermKind where
  | boolean
  | int
  | float
  | string
  deriving DecidableEq

namespace TermKind

/-- The filters on values of a kind. -/
def Filter : TermKind → Type
  | boolean => BooleanFilter
  | int => IntFilter
  | float => FloatFilter
  | string => StringFilter

/-- The type of the API for the filters of a kind. -/
def type : TermKind → NamedType
  | boolean => BooleanFilter.namedType
  | int => IntFilter.namedType
  | float => FloatFilter.namedType
  | string => StringFilter.namedType

def scalar : TermKind → String
  | boolean => Scalar.boolean
  | int => Scalar.int
  | float => Scalar.float
  | string => Scalar.string

/-- The filter that a client gives for the field at a path. -/
def ofParams : (kind : TermKind) → FieldPath → Json → Except Problem kind.Filter
  | boolean => BooleanFilter.ofParams
  | int => IntFilter.ofParams
  | float => FloatFilter.ofParams
  | string => StringFilter.ofParams

def clauses : (kind : TermKind) → kind.Filter → FieldPath → List Json
  | boolean => BooleanFilter.clauses
  | int => IntFilter.clauses
  | float => FloatFilter.clauses
  | string => StringFilter.clauses

/-- The field that equality is asked of. -/
def exact : TermKind → FieldPath → String
  | boolean | float => FieldPath.dotted
  | int | string => FieldPath.keyword

/-- The field that bounds are asked of. -/
def ordered : TermKind → FieldPath → String
  | boolean | int | float => FieldPath.dotted
  | string => FieldPath.keyword

/-- A given value as clauses have it: where real numbers are asked for, a whole number is the real
one that it denotes. -/
def written : TermKind → Json → Json
  | float, .number (.integer value) => .number (.real (Binary64.ofInt value))
  | _, value => value

/-- The clause that a key asks for with a value. -/
def asked? (kind : TermKind) (path : FieldPath) (key : String) (given : Json) : Option Json :=
  TermFilter.asked? (kind.exact path) (kind.ordered path) path.dotted key (kind.written given)

/-- What the filters of a kind are in terms of their type: how they are read and what clauses they
have. -/
structure Description (kind : TermKind) where
  /-- The values of the parts. -/
  Value : Type
  reader : TermFilter.Reader kind.Filter Value
  write : Value → Json
  /-- The entries of the type are the keys of the parts, each of the scalar. -/
  body : kind.type.body = .inputObject (reader.keys.map fun key => ⟨key, .named kind.scalar⟩)
  ofParams : kind.ofParams = reader.ofParams
  /-- What the scalar admits is decoded. -/
  decodes : Decodes reader.decode kind.scalar
  /-- What is decoded the scalar admits, and clauses have it as it was given. -/
  decoded : ∀ {value given}, reader.decode value = .ok given →
    Scalar.admits kind.scalar value = true ∧ write given = kind.written value
  /-- Each part has its clause, in the order of the keys. -/
  clauses : ∀ filter path, (kind.clauses filter path).map some =
    reader.keys.filterMap fun key => (reader.part filter key).map fun value =>
      TermFilter.asked? (kind.exact path) (kind.ordered path) path.dotted key (write value)

def description : (kind : TermKind) → kind.Description
  | boolean =>
    { Value := Bool
      reader := BooleanFilter.reader
      write := .bool
      body := rfl
      ofParams := rfl
      decodes := toBool_decodes
      decoded := fun read => by
        obtain rfl := toBool_eq_ok read
        exact ⟨rfl, rfl⟩
      clauses := fun filter path => filter.clauses_parts path _ _ rfl }
  | int =>
    { Value := Int
      reader := RangeFilter.reader Json.toInt64
      write := .ofInt
      body := rfl
      ofParams := rfl
      decodes := toInt64_decodes
      decoded := fun read => by
        obtain ⟨rfl, low, high⟩ := toInt64_eq_ok read
        exact ⟨by simp [scalar, Scalar.admits, Json.ofInt, low, high], rfl⟩
      clauses := fun filter path => filter.clauses_parts .ofInt _ _ path.dotted }
  | float =>
    { Value := Binary64
      reader := RangeFilter.reader Json.toReal
      write := FloatFilter.write
      body := rfl
      ofParams := rfl
      decodes := toReal_decodes
      decoded := fun read => by
        obtain ⟨number, rfl, rfl⟩ := toReal_eq_ok read
        cases number <;> exact ⟨by simp [scalar, Scalar.admits], rfl⟩
      clauses := fun filter path => filter.clauses_parts FloatFilter.write _ _ path.dotted }
  | string =>
    { Value := String
      reader := StringFilter.reader
      write := .string
      body := rfl
      ofParams := rfl
      decodes := toText_decodes
      decoded := fun read => by
        obtain rfl := toText_eq_ok read
        exact ⟨rfl, rfl⟩
      clauses := fun filter path => filter.clauses_parts path }

variable {kind : TermKind} {path : FieldPath} {params : Json}

theorem entryNames_eq (kind : TermKind) : kind.type.entryNames = kind.description.reader.keys := by
  rw [NamedType.entryNames, kind.description.body, TypeBody.entryNames, List.map_map]
  exact List.map_id _

theorem inputField?_iff {key : String} {input : InputValue} :
    kind.type.inputField? key = some input ↔
      key ∈ kind.description.reader.keys ∧ input = ⟨key, .named kind.scalar⟩ := by
  rw [NamedType.inputField?, kind.description.body]
  generalize kind.description.reader.keys = keys
  simp only [List.find?_map]
  induction keys with
  | nil => simp
  | cons first rest ih =>
    by_cases same : first = key
    · subst same
      simp [eq_comm]
    · simpa [List.find?_cons, same, Ne.symm same] using ih

/-- A value is read under a key if it is null or the scalar admits it. -/
theorem toOption_iff {value : Json} :
    (∃ given, value.toOption kind.description.reader.decode = .ok given) ↔
      value = .null ∨ Scalar.admits kind.scalar value = true := by
  by_cases null : value = .null
  · subst null
    exact iff_of_true ⟨none, rfl⟩ (.inl rfl)
  · rw [Json.toOption_given null]
    constructor
    · rintro ⟨given, read⟩
      obtain ⟨part, decoded, -⟩ := map_eq_ok.mp read
      exact .inr (kind.description.decoded decoded).1
    · intro admitted
      obtain ⟨part, decoded⟩ := kind.description.decodes value (admitted.resolve_left null)
      exact ⟨some part, by rw [decoded, map_ok]⟩

/-- A filter is read from null and from just those objects whose keys are entries of its type, with
values that are null or that the scalar of the entry admits. -/
theorem ofParams_iff :
    (∃ filter, kind.ofParams path params = .ok filter) ↔
      params = .null ∨ ∃ entries, params = .object entries ∧ ∀ entry ∈ entries, ∃ scalar,
        kind.type.inputField? entry.1 = some ⟨entry.1, .named scalar⟩ ∧
          (entry.2 = .null ∨ Scalar.admits scalar entry.2 = true) := by
  rw [kind.description.ofParams, TermFilter.Reader.ofParams_iff]
  simp only [toOption_iff, inputField?_iff]
  have listed (entry : String × Json) :
      (∃ scalar, (entry.1 ∈ kind.description.reader.keys ∧
          (⟨entry.1, .named scalar⟩ : InputValue) = ⟨entry.1, .named kind.scalar⟩) ∧
        (entry.2 = .null ∨ Scalar.admits scalar entry.2 = true)) ↔
      entry.1 ∈ kind.description.reader.keys ∧
        (entry.2 = .null ∨ Scalar.admits kind.scalar entry.2 = true) := by
    simp
  simp only [listed]

/-- A filter that was read asks for one clause for each key that is given something, in the order of
the entries of its type: the clause of that key with what is given. -/
theorem clauses_ofParams (keyed : params.Keyed) {filter : kind.Filter}
    (read : kind.ofParams path params = .ok filter) :
    (kind.clauses filter path).map some =
      kind.type.entryNames.filterMap fun key =>
        (params.given? key).map fun value => kind.asked? path key value := by
  rw [kind.description.ofParams] at read
  rw [kind.description.clauses, entryNames_eq]
  refine List.filterMap_congr fun key _ => ?_
  have part := TermFilter.Reader.part_ofParams keyed read key
  cases given : params.given? key with
  | none =>
    rw [given] at part
    cases own : kind.description.reader.part filter key with
    | none => rfl
    | some value =>
      rw [own] at part
      cases part
  | some value =>
    rw [given] at part
    cases own : kind.description.reader.part filter key with
    | none =>
      rw [own] at part
      cases part
    | some decoded =>
      rw [own] at part
      have decodes : kind.description.reader.decode value = .ok decoded := Option.some.inj part
      rw [Option.map_some, Option.map_some, asked?, (kind.description.decoded decodes).2]

/-- Every kind of term filter is read from exactly what its type admits, and asks for exactly what
it is given. -/
theorem filters_as_typed (kind : TermKind) (path : FieldPath) (params : Json) :
    ((∃ filter, kind.ofParams path params = .ok filter) ↔
      params = .null ∨ ∃ entries, params = .object entries ∧ ∀ entry ∈ entries, ∃ scalar,
        kind.type.inputField? entry.1 = some ⟨entry.1, .named scalar⟩ ∧
          (entry.2 = .null ∨ Scalar.admits scalar entry.2 = true)) ∧
    ∀ filter, params.Keyed → kind.ofParams path params = .ok filter →
      (kind.clauses filter path).map some =
        kind.type.entryNames.filterMap fun key =>
          (params.given? key).map fun value => kind.asked? path key value :=
  ⟨ofParams_iff, fun _ keyed read => clauses_ofParams keyed read⟩

/-- Two bounds on real numbers, given as whole numbers and the upper one first, beside a key that is
given nothing. -/
theorem bounds_filtered_as_typed :
    let path := FieldPath.root.child "age"
    let params : Json :=
      .object [("lessThan", .ofInt 9), ("equals", .null), ("greaterThan", .ofInt 3)]
    params.Keyed ∧ ∃ filter, float.ofParams path params = .ok filter ∧
      (float.clauses filter path).map some =
        [some (Clause.range "age" "gt" (.number (.real (.ofInt 3)))),
          some (Clause.range "age" "lt" (.number (.real (.ofInt 9))))] := by
  intro path params
  have keyed : params.Keyed := by
    refine Json.keyed_object.mpr ⟨by decide, List.forall_mem_cons.mpr ⟨.number _, ?_⟩⟩
    exact List.forall_mem_cons.mpr ⟨.null, List.forall_mem_singleton.mpr (.number _)⟩
  obtain ⟨filter, read⟩ : ∃ filter, float.ofParams path params = .ok filter := ⟨_, rfl⟩
  exact ⟨keyed, filter, read, (filters_as_typed float path params).2 filter keyed read⟩

/-- The clauses of the filter that a client gives for the field at a path. -/
def answer (kind : TermKind) (path : FieldPath) (params : Json) :
    Except Problem (Option (List Json)) := do
  let filter ← kind.ofParams path params
  return some (kind.clauses filter path)

end TermKind

/-- The kind of term filters that a primitive has. -/
def Primitive.termKind? : Primitive → Option TermKind
  | .boolean => some .boolean
  | .int => some .int
  | .float => some .float
  | .string => some .string
  | .bytes | .null | .long | .double => none

/-- A primitive is filtered by its kind of term filters. -/
theorem standard_filter_primitive (primitive : Primitive) (path : FieldPath) (params : Json) :
    Registry.standard.filter (.primitive primitive) path params =
      match primitive.termKind? with
      | none => .ok none
      | some kind => kind.answer path params := by
  rw [Registry.filter, Registry.standard_resolve_primitive]
  cases primitive <;> rfl

/-- A primitive is sorted by the field that equality is asked of. -/
theorem standard_sort_primitive (primitive : Primitive) (path : FieldPath) (params : Json) :
    Registry.standard.sort (.primitive primitive) path params =
      match primitive.termKind? with
      | none => .ok none
      | some kind => (fun direction => some [Clause.sort (kind.exact path) direction]) <$>
          Direction.ofParams path params := by
  rw [Registry.sort, Registry.standard_resolve_primitive]
  cases primitive <;> rfl

end TypedSearch
