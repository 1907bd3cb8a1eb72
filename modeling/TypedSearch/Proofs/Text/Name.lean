import Mathlib.Data.List.Find
import TypedSearch.Text.Name

/-!
Identifiers are words of ASCII letters, underscores and digits that begin with no digit. Type names
made from them consist of the letters and digits of the identifier, so they can begin with the wrong
character only: with a digit, or with none at all.
-/

namespace TypedSearch

namespace Text

variable {separates : Char → Bool} {c : Char}

theorem runs_of_separator (drops : separates c = true) (rest : List Char) :
    runs separates (c :: rest) = runs separates rest := by
  rw [runs.eq_def]
  simp [drops]

theorem runs_of_kept (keeps : separates c = false) (rest : List Char) :
    ∃ run others, runs separates (c :: rest) = (c :: run) :: others := by
  unfold runs
  rw [if_neg (by simp [keeps])]
  cases rest with
  | nil => exact ⟨[], [], rfl⟩
  | cons next rest =>
    dsimp only
    split
    · exact ⟨[], _, rfl⟩
    · split
      · exact ⟨[], [], rfl⟩
      · exact ⟨_, _, rfl⟩

/-- Runs have characters of the text only. -/
theorem mem_of_mem_runs {text run : List Char} (listed : run ∈ runs separates text)
    (inside : c ∈ run) : c ∈ text := by
  fun_induction runs separates text generalizing run with grind

end Text

namespace Name

variable {name base suffix : String} {c : Char} {text : List Char}

/-- An ASCII letter or an underscore. -/
def IsLetter (c : Char) : Prop := c = '_' ∨ 'A' ≤ c ∧ c ≤ 'Z' ∨ 'a' ≤ c ∧ c ≤ 'z'

def IsDigit (c : Char) : Prop := '0' ≤ c ∧ c ≤ '9'

/-- A word is a letter followed by any number of letters and digits. -/
def IsWord (name : String) : Prop :=
  ∃ first rest, name.toList = first :: rest ∧ IsLetter first ∧
    ∀ c ∈ rest, IsLetter c ∨ IsDigit c

theorem isInitial_iff : isInitial c = true ↔ IsLetter c := by
  delta isInitial Char.isAlpha Char.isUpper Char.isLower
  simp only [IsLetter, Bool.or_eq_true, Bool.and_eq_true, decide_eq_true_eq, Char.le_def]

theorem isInner_iff : isInner c = true ↔ IsLetter c ∨ IsDigit c := by
  rw [← isInitial_iff]
  delta isInner isInitial Char.isAlphanum Char.isDigit
  simp only [IsDigit, Bool.or_eq_true, Bool.and_eq_true, decide_eq_true_eq, Char.le_def, or_assoc]

/-- Identifiers are the words. -/
theorem isIdentifier_iff : isIdentifier name = true ↔ IsWord name := by
  rw [isIdentifier, IsWord]
  cases name.toList with
  | nil => simp [isIdentifierChars]
  | cons first rest => simp [isIdentifierChars, isInitial_iff, isInner_iff]

theorem isInitial_toUpper (c : Char) : isInitial c.toUpper = isInitial c := by
  delta isInitial Char.toUpper Char.isAlpha Char.isUpper Char.isLower
  split <;> grind [UInt32.toNat_add]

theorem isInner_toUpper (c : Char) : isInner c.toUpper = isInner c := by
  delta isInner Char.toUpper Char.isAlphanum Char.isAlpha Char.isUpper Char.isLower Char.isDigit
  split <;> grind [UInt32.toNat_add]

/-- Of the characters of identifiers only the underscore separates parts of a name. -/
theorem isSeparator_of_isInner (inner : isInner c = true) : isSeparator c = decide (c = '_') := by
  have range : c = '_' ∨ 48 ≤ c.toNat ∧ c.toNat ≤ 122 := by
    delta isInner Char.isAlphanum Char.isAlpha Char.isUpper Char.isLower Char.isDigit at inner
    simp only [↓Char.isValue, Char.reduceVal, ge_iff_le, UInt32.le_iff_toNat_le,
      UInt32.reduceToNat, Char.toNat_val, Bool.decide_and, Bool.or_eq_true, decide_eq_true_eq,
      Bool.and_eq_true] at inner
    exact inner.imp_right fun alphanumeric => by omega
  rcases range with rfl | range
  · rfl
  · have hyphen : c ≠ '-' := by
      rintro rfl
      simp at range
    simp [isSeparator, hyphen, Text.isSpace, Text.within, Text.spaceRanges]
    omega

theorem isInner_of_isInitial (initial : isInitial c = true) : isInner c = true := by
  simp only [isInitial, isInner, Char.isAlphanum, Bool.or_eq_true] at initial ⊢
  exact initial.imp_right .inl

/-- Only the first character of an identifier is restricted further than the others. -/
theorem isIdentifierChars_eq (text : List Char) :
    isIdentifierChars text = (text.head?.any isInitial && text.all isInner) := by
  cases text with
  | nil => rfl
  | cons c rest =>
    rw [Bool.eq_iff_iff]
    simp only [isIdentifierChars, List.head?_cons, Option.any_some, List.all_cons, Bool.and_eq_true]
    exact ⟨fun ⟨first, others⟩ => ⟨first, isInner_of_isInitial first, others⟩,
      fun ⟨first, _, others⟩ => ⟨first, others⟩⟩

theorem isIdentifier_inner (legal : isIdentifier name = true) : name.toList.all isInner = true := by
  rw [isIdentifier, isIdentifierChars_eq, Bool.and_eq_true] at legal
  exact legal.2

/-- An identifier remains one if further characters of identifiers are put behind it. -/
theorem isIdentifier_append (legal : isIdentifier base = true)
    (inner : suffix.toList.all isInner = true) : isIdentifier (base ++ suffix) = true := by
  rw [isIdentifier, String.toList_append]
  rw [isIdentifier] at legal
  cases text : base.toList with
  | nil => simp [text, isIdentifierChars] at legal
  | cons c rest =>
    simp only [text, isIdentifierChars, Bool.and_eq_true] at legal
    simp [isIdentifierChars, legal, inner]

/-- The type name of a name begins with its first character that does not separate parts. -/
theorem head?_pascalChars (text : List Char) :
    (pascalChars text).head? = (text.find? fun c => !isSeparator c).map Char.toUpper := by
  induction text with
  | nil => rfl
  | cons c rest ih =>
    cases separates : isSeparator c with
    | true =>
      rw [pascalChars, Text.runs_of_separator separates, List.find?_cons_of_neg (by simp [separates])]
      exact ih
    | false =>
      obtain ⟨run, others, same⟩ := Text.runs_of_kept separates rest
      rw [pascalChars, same, List.find?_cons_of_pos (by simp [separates])]
      rfl

/-- The type name of a name made of the characters of identifiers is made of them too. -/
theorem pascalCase_inner (inner : name.toList.all isInner = true) :
    (pascalCase name).toList.all isInner = true := by
  rw [List.all_eq_true] at inner ⊢
  rw [pascalCase, String.toList_ofList]
  intro c member
  obtain ⟨run, listed, inside⟩ := List.mem_flatMap.mp member
  have kept : ∀ other ∈ run, isInner other = true := fun other own =>
    inner other (Text.mem_of_mem_runs listed own)
  cases run with
  | nil => cases inside
  | cons first rest =>
    rcases List.mem_cons.mp inside with rfl | later
    · rw [isInner_toUpper]
      exact kept first List.mem_cons_self
    · exact kept c (List.mem_cons_of_mem _ later)

/-- Whether a letter follows the underscores that a name begins with. -/
def leadsWithLetter (name : String) : Bool :=
  (name.toList.find? fun c => c ≠ '_').any Char.isAlpha

/-- The type name of an identifier is an identifier if a letter follows the leading underscores. -/
theorem isIdentifier_pascalCase (legal : isIdentifier name = true) :
    isIdentifier (pascalCase name) = leadsWithLetter name := by
  have inner := isIdentifier_inner legal
  have first : (name.toList.find? fun c => !isSeparator c) = name.toList.find? fun c => c ≠ '_' := by
    refine List.find?_congr fun c member => ?_
    rw [isSeparator_of_isInner (List.all_eq_true.mp inner c member), decide_not]
  rw [isIdentifier, isIdentifierChars_eq, pascalCase_inner inner, Bool.and_true, pascalCase,
    String.toList_ofList, head?_pascalChars, first, leadsWithLetter]
  cases found : name.toList.find? fun c => c ≠ '_' with
  | none => rfl
  | some c =>
    have differs : c ≠ '_' := by simpa using List.find?_some found
    rw [Option.map_some, Option.any_some, isInitial_toUpper]
    simp [isInitial, differs]

end Name

end TypedSearch
