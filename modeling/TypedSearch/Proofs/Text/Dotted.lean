import TypedSearch.Proofs.Text.Name
import TypedSearch.Search.Field

/-!
Dotted paths are taken apart as they were put together: at their dots, which no name may contain. A
name with a further ending after a dot is taken apart into what the name is and the ending.
-/

namespace TypedSearch

namespace Text

variable {separator : Char} {text : List Char}

theorem pieces_of_not_mem (absent : separator ∉ text) : pieces separator text = [text] := by
  induction text with
  | nil => rfl
  | cons c rest ih =>
    obtain ⟨differs, absent⟩ := not_or.mp (mt List.mem_cons.mpr absent)
    rw [pieces, if_neg (Ne.symm differs), ih absent]

theorem pieces_ne_nil (separator : Char) (text : List Char) : pieces separator text ≠ [] := by
  fun_induction pieces separator text <;> simp

/-- A separator ends the pieces before it and begins those behind it. -/
theorem pieces_append (left right : List Char) :
    pieces separator (left ++ separator :: right) =
      pieces separator left ++ pieces separator right := by
  induction left with
  | nil => simp [pieces]
  | cons c rest ih =>
    rw [List.cons_append, pieces, pieces, ih]
    split
    · rfl
    · cases before : pieces separator rest with
      | nil => exact (pieces_ne_nil separator rest before).elim
      | cons piece others => rfl

end Text

/-- A name without dots. -/
def Dotless (name : String) : Prop := '.' ∉ name.toList

variable {name : String} {names : List String}

theorem pathNames_of_dotless (dotless : Dotless name) : pathNames name = [name] := by
  rw [pathNames, Text.pieces_of_not_mem dotless, List.map_singleton, String.ofList_toList]

theorem pathNames_append (left right : String) :
    pathNames (left ++ "." ++ right) = pathNames left ++ pathNames right := by
  have text : (left ++ "." ++ right).toList = left.toList ++ '.' :: right.toList := by
    simp [String.toList_append]
  rw [pathNames, text, Text.pieces_append, List.map_append]
  rfl

theorem pathNames_ne_nil (path : String) : pathNames path ≠ [] := by
  simp [pathNames, Text.pieces_ne_nil]

/-- The names of a path are found again in its dotted form. -/
theorem pathNames_joined (nonempty : names ≠ []) (dotless : ∀ name ∈ names, Dotless name) :
    pathNames (Text.joined "." names) = names := by
  induction names with
  | nil => exact (nonempty rfl).elim
  | cons name rest ih =>
    obtain ⟨first, others⟩ := List.forall_mem_cons.mp dotless
    cases rest with
    | nil => exact pathNames_of_dotless first
    | cons next rest =>
      rw [Text.joined, pathNames_append, pathNames_of_dotless first, ih (by simp) others]
      rfl

/-- Identifiers have no dots. -/
theorem dotless_of_isIdentifier (legal : Name.isIdentifier name = true) : Dotless name := by
  intro dot
  have inner := List.all_eq_true.mp (Name.isIdentifier_inner legal) '.' dot
  exact absurd inner (by decide)

end TypedSearch
