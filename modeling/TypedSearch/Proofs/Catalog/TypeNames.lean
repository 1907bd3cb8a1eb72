import Mathlib
import TypedSearch.Catalog.Surface
import TypedSearch.Proofs.Text.Words

/-!
Type names are made part by part. A name falls apart wherever something separates, and its type name
is that of what stands before followed by that of what stands behind (`pascalChars_separated`); a
name in one part only has its initial raised (`IsPart.pascalChars_eq`). Nothing else is open: a way
of naming types with these two laws is this one (`eq_pascalChars`).

The names that can come out are those in one part that begin with no small letter. They are also the
ones that stay as they are, so that a type name is its own type name.
-/

namespace TypedSearch

namespace Name

variable {c : Char} {text front back : List Char}

section Separators

theorem isSeparator_iff : isSeparator c = true ↔ c = '_' ∨ c = '-' ∨ Text.isSpace c = true := by
  simp [isSeparator, or_assoc]

/-- Letters stand in parts. -/
theorem isSeparator_of_isAlpha (letter : c.isAlpha = true) : isSeparator c = false := by
  have inner : isInner c = true := by simp [isInner, Char.isAlphanum, letter]
  have differs : c ≠ '_' := by
    rintro rfl
    exact absurd letter (by decide)
  rw [isSeparator_of_isInner inner, decide_eq_false differs]

theorem isSeparator_toUpper (c : Char) : isSeparator c.toUpper = isSeparator c := by
  by_cases lower : c.isLower = true
  · have letter : c.isAlpha = true := by simp [Char.isAlpha, lower]
    have raised : c.toUpper.isAlpha = true := by rw [Char.isAlpha_toUpper_eq_isAlpha, letter]
    rw [isSeparator_of_isAlpha letter, isSeparator_of_isAlpha raised]
  · rw [Char.toUpper_eq_of_not_isLower lower]

end Separators

section Parts

/-- A text in one part: nothing in it separates. -/
def IsPart (text : List Char) : Prop := ∀ c ∈ text, isSeparator c = false

theorem isPart_iff :
    IsPart text ↔ ∀ c ∈ text, ¬ (c = '_' ∨ c = '-' ∨ Text.isSpace c = true) := by
  simp only [IsPart, ← isSeparator_iff, Bool.not_eq_true]

theorem isPart_nil : IsPart [] := nofun

theorem isPart_append_iff : IsPart (front ++ back) ↔ IsPart front ∧ IsPart back :=
  List.forall_mem_append

/-- Every text is one part, or a part with a separator and another text behind it. -/
theorem parts_induction {motive : List Char → Prop} (part : ∀ text, IsPart text → motive text)
    (separated : ∀ front c back, IsPart front → isSeparator c = true → motive back →
      motive (front ++ c :: back)) (text : List Char) : motive text := by
  -- The part that the text begins with is gathered in front of what is still to be looked at.
  have gathered (front : List Char) (isPart : IsPart front) : motive (front ++ text) := by
    induction text generalizing front with
    | nil => exact part _ (by rwa [List.append_nil])
    | cons c rest ih =>
      by_cases separates : isSeparator c = true
      · exact separated front c rest isPart separates (ih [] isPart_nil)
      · have longer : IsPart (front ++ [c]) :=
          isPart_append_iff.mpr ⟨isPart, by simpa [IsPart] using separates⟩
        rw [List.append_cons]
        exact ih _ longer
  exact gathered [] isPart_nil

/-- The type names of what stands before and behind a separator are put together. -/
theorem pascalChars_separated (separates : isSeparator c = true) (front back : List Char) :
    pascalChars (front ++ c :: back) = pascalChars front ++ pascalChars back := by
  rw [pascalChars, Text.runs_append_separator separates, List.flatMap_append]
  rfl

theorem capitalised_eq (text : List Char) : capitalised text = text.modifyHead Char.toUpper := by
  cases text <;> rfl

/-- The type name of a single part is the part with its initial raised. -/
theorem IsPart.pascalChars_eq (isPart : IsPart text) : pascalChars text = capitalised text := by
  cases text with
  | nil => rfl
  | cons c rest =>
    have isRun : Text.IsRun isSeparator [] (c :: rest) [] :=
      ⟨List.cons_ne_nil c rest, isPart, nofun, nofun⟩
    have whole := Text.runs_of_start isRun
    rw [List.append_nil] at whole
    rw [pascalChars, whole]
    exact List.append_nil _

/-- Type names are settled by what they are for parts and by how they are put together. -/
theorem eq_pascalChars {naming : List Char → List Char}
    (parts : ∀ text, IsPart text → naming text = capitalised text)
    (composed : ∀ front c back, isSeparator c = true →
      naming (front ++ c :: back) = naming front ++ naming back) : naming = pascalChars := by
  funext text
  induction text using parts_induction with
  | part text isPart => rw [parts text isPart, isPart.pascalChars_eq]
  | separated front c back isPart separates ih =>
    rw [composed front c back separates, pascalChars_separated separates, ih,
      parts front isPart, isPart.pascalChars_eq]

end Parts

section TypeNames

/-- A type name is in one part and begins with no small letter. -/
structure IsTypeName (text : List Char) : Prop where
  part : IsPart text
  initial : ∀ c ∈ text.head?, c.isLower = false

theorem IsPart.isTypeName_capitalised (isPart : IsPart text) : IsTypeName (capitalised text) := by
  cases text with
  | nil => exact ⟨isPart_nil, nofun⟩
  | cons c rest =>
    obtain ⟨initial, others⟩ := List.forall_mem_cons.mp isPart
    refine ⟨List.forall_mem_cons.mpr ⟨?_, others⟩, ?_⟩
    · rw [isSeparator_toUpper, initial]
    · rintro _ ⟨⟩
      exact Char.isLower_toUpper_eq_false c

theorem IsTypeName.append (first : IsTypeName front) (second : IsTypeName back) :
    IsTypeName (front ++ back) := by
  refine ⟨isPart_append_iff.mpr ⟨first.part, second.part⟩, ?_⟩
  cases front with
  | nil => exact second.initial
  | cons => exact first.initial

theorem isTypeName_pascalChars (text : List Char) : IsTypeName (pascalChars text) := by
  induction text using parts_induction with
  | part text isPart =>
    rw [isPart.pascalChars_eq]
    exact isPart.isTypeName_capitalised
  | separated front c back isPart separates ih =>
    rw [pascalChars_separated separates, isPart.pascalChars_eq]
    exact isPart.isTypeName_capitalised.append ih

/-- Type names are what stays as it is. -/
theorem pascalChars_eq_self_iff : pascalChars text = text ↔ IsTypeName text := by
  constructor
  · intro same
    rw [← same]
    exact isTypeName_pascalChars text
  · intro isTypeName
    rw [isTypeName.part.pascalChars_eq]
    cases text with
    | nil => rfl
    | cons c rest =>
      have large : ¬ c.isLower = true := by simp [isTypeName.initial c rfl]
      rw [capitalised, Char.toUpper_eq_of_not_isLower large]

end TypeNames

section Names

variable {name : String}

theorem toList_pascalCase (name : String) : (pascalCase name).toList = pascalChars name.toList :=
  String.toList_ofList

theorem pascalCase_separated (separates : isSeparator c = true) (front back : String) :
    pascalCase (front ++ String.singleton c ++ back) = pascalCase front ++ pascalCase back := by
  apply String.toList_injective
  simp only [toList_pascalCase, String.toList_append, String.toList_singleton, List.append_assoc,
    List.singleton_append, pascalChars_separated separates]

theorem pascalCase_eq_self_iff : pascalCase name = name ↔ IsTypeName name.toList := by
  rw [← pascalChars_eq_self_iff, ← toList_pascalCase, String.toList_inj]

end Names

end Name

open Name

namespace DatasetNames

/-- What is made for a member of a dataset is named as for the two names joined by an underscore. -/
theorem memberBase_of (dataset member : String) :
    (of dataset).memberBase member = pascalCase (dataset ++ "_" ++ member) :=
  (pascalCase_separated (by decide : isSeparator '_' = true) dataset member).symm

/-- A part at the end of a dataset's name may as well begin the member's name, so that members of
different datasets can share their type names. -/
theorem memberBase_regrouped (dataset part member : String) :
    (of (dataset ++ "_" ++ part)).memberBase member =
      (of dataset).memberBase (part ++ "_" ++ member) := by
  simp only [memberBase_of, String.append_assoc]

end DatasetNames

/-- Separated names have their type names put together. A name in one part has its initial raised
and nothing else changed, nothing that separates is left, and a type name is its own. So the types
of a member of a dataset are named as for the two names joined by an underscore. -/
theorem separated_names_compose :
    (∀ (front back : String) (c : Char), c = '_' ∨ c = '-' ∨ Text.isSpace c = true →
      pascalCase (front ++ String.singleton c ++ back) = pascalCase front ++ pascalCase back) ∧
    (∀ name : String, (∀ c ∈ name.toList, ¬ (c = '_' ∨ c = '-' ∨ Text.isSpace c = true)) →
      (pascalCase name).toList = name.toList.modifyHead Char.toUpper) ∧
    (∀ name : String, pascalCase (pascalCase name) = pascalCase name) ∧
    (∀ name : String, ∀ c ∈ (pascalCase name).toList,
      ¬ (c = '_' ∨ c = '-' ∨ Text.isSpace c = true)) ∧
    ∀ dataset member : String,
      (DatasetNames.of dataset).memberBase member = pascalCase (dataset ++ "_" ++ member) := by
  refine ⟨?composed, ?part, ?idempotent, ?apart, DatasetNames.memberBase_of⟩
  case composed =>
    intro front back c separates
    exact pascalCase_separated (isSeparator_iff.mpr separates) front back
  case part =>
    intro name apart
    have isPart : IsPart name.toList := isPart_iff.mpr apart
    rw [toList_pascalCase, isPart.pascalChars_eq, capitalised_eq]
  case idempotent =>
    intro name
    rw [pascalCase_eq_self_iff, toList_pascalCase]
    exact isTypeName_pascalChars name.toList
  case apart =>
    intro name
    rw [toList_pascalCase, ← isPart_iff]
    exact (isTypeName_pascalChars name.toList).part

/-- An ideographic space separates as well, and an initial beyond ASCII stays. -/
theorem spaced_names_compose :
    Text.isSpace '\u3000' = true ∧
      pascalCase ("_market-" ++ String.singleton '\u3000' ++ "élan") =
        pascalCase "_market-" ++ pascalCase "élan" ∧
      (∀ c ∈ "élan".toList, ¬ (c = '_' ∨ c = '-' ∨ Text.isSpace c = true)) ∧
      (pascalCase "élan").toList = ['é', 'l', 'a', 'n'] := by
  have space : Text.isSpace '\u3000' = true := by decide
  have spelled : "élan".toList = ['é', 'l', 'a', 'n'] := rfl
  have whole : ∀ c ∈ "élan".toList, ¬ (c = '_' ∨ c = '-' ∨ Text.isSpace c = true) := by
    simp only [spelled, List.forall_mem_cons, List.not_mem_nil, false_implies, implies_true]
    decide
  refine ⟨space, ?_, whole, ?_⟩
  · exact separated_names_compose.1 "_market-" "élan" '\u3000' (.inr (.inr space))
  · rw [separated_names_compose.2.1 "élan" whole, spelled]
    decide

end TypedSearch
