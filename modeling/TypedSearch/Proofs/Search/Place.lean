import TypedSearch.Proofs.Json.Value
import TypedSearch.Proofs.Schema.Paths
import TypedSearch.Proofs.Text.Dotted

/-!
Places in documents. A search finds at the dotted form of a path what the names of the path lead to, and
it finds nothing where a name is missing, where something that is no object stands on the way, or where
the names lead to a null.
-/

namespace TypedSearch

namespace Json

/-- A document that has a value at the end of a path and nothing else. -/
def placed : List String → Json → Json
  | [], value => value
  | name :: rest, value => .single name (placed rest value)

theorem along_placed (names : List String) (value : Json) :
    (placed names value).along names = some value := by
  induction names with
  | nil => rfl
  | cons name rest ih => simp [placed, along, get?, single, ih]

theorem placed_ne_null {names : List String} {value : Json} (given : value ≠ .null) :
    placed names value ≠ .null := by
  cases names with
  | nil => exact given
  | cons name rest => simp [placed, single]

/-- A value has nothing at the end of a path. -/
inductive Lacks : (value : Json) → (names : List String) → Prop where
  | null : Lacks .null []
  | missing {entries : Entries} {name : String} {rest : List String}
      (absent : entries.lookup name = none) : Lacks (.object entries) (name :: rest)
  /-- What is no object has nothing under any name. -/
  | bare {value : Json} {name : String} {rest : List String} (noObject : value.entries? = none) :
      Lacks value (name :: rest)
  | deeper {entries : Entries} {name : String} {rest : List String} {inner : Json}
      (found : entries.lookup name = some inner) (lacks : Lacks inner rest) :
      Lacks (.object entries) (name :: rest)

/-- Nothing is at the end of a path if the names lead nowhere or to a null. -/
theorem lacks_iff {value : Json} {names : List String} :
    value.Lacks names ↔ (value.along names).filter (fun found => !found.isNull) = none := by
  induction names generalizing value with
  | nil =>
    constructor
    · intro lacks
      cases lacks
      rfl
    · intro nothing
      cases value with
      | null => exact .null
      | bool | number | string | array | object => cases nothing
  | cons name rest ih =>
    cases value with
    | object entries =>
      rw [along, get?]
      cases found : entries.lookup name with
      | none => exact iff_of_true (.missing found) rfl
      | some inner =>
        simp only [← ih]
        constructor
        · intro lacks
          cases lacks with
          | missing absent => cases found.symm.trans absent
          | bare noObject => cases noObject
          | deeper other lacks =>
            cases found.symm.trans other
            exact lacks
        · exact .deeper found
    | null | bool | number | string | array => exact iff_of_true (.bare rfl) rfl

/-- A document has at the dotted form of a path what its names lead to. -/
theorem atPath?_dotted {path : FieldPath} (document : Json) (nonempty : path.segments ≠ [])
    (dotless : ∀ name ∈ path.segments, Dotless name) :
    document.atPath? path.dotted =
      (document.along path.segments).filter fun value => !value.isNull := by
  rw [atPath?, FieldPath.dotted, pathNames_joined nonempty dotless]

end Json

end TypedSearch
