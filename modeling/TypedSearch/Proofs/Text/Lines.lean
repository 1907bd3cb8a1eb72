import Mathlib.Data.List.DropRight
import TypedSearch.Proofs.Text.Dotted
import TypedSearch.Text.Lines

/-!
Lines are taken apart at line feeds and nowhere else, so what is written on a line stays together as
long as it has no line feed of its own. A carriage return at the end of a line is no part of it, and a
blank line stays blank without it.
-/

namespace TypedSearch.Text

variable {line text : List Char} {c : Char}

/-- How a line is ended: by a line feed, with or without a carriage return before it. -/
inductive LineEnd where
  | feed
  | returnFeed

namespace LineEnd

/-- What stands before the line feed. -/
def before : LineEnd → List Char
  | feed => []
  | returnFeed => ['\r']

def written (ending : LineEnd) : List Char := ending.before ++ ['\n']

theorem eq_return_of_mem_before {ending : LineEnd} (inside : c ∈ ending.before) : c = '\r' := by
  cases ending with
  | feed => cases inside
  | returnFeed => exact List.mem_singleton.mp inside

/-- The end of a line is white space. -/
theorem isSpace_of_mem_written {ending : LineEnd} (inside : c ∈ ending.written) :
    isSpace c = true := by
  rcases List.mem_append.mp inside with before | feed
  · rw [eq_return_of_mem_before before]
    decide
  · rw [List.mem_singleton.mp feed]
    decide

end LineEnd

section Returns

/-- A line that does not end with a carriage return is itself without the one written behind it. -/
theorem withoutReturn_append_before (plain : line.getLast? ≠ some '\r') (ending : LineEnd) :
    withoutReturn (line ++ ending.before) = line := by
  cases ending with
  | feed => rw [LineEnd.before, List.append_nil, withoutReturn, if_neg plain]
  | returnFeed => simp [withoutReturn, LineEnd.before]

theorem withoutReturn_subset (line : List Char) : withoutReturn line ⊆ line := by
  rw [withoutReturn]
  split
  · exact List.dropLast_subset line
  · exact List.Subset.refl line

end Returns

section Cutting

/-- A line feed ends the line before it. -/
theorem lines_append (unbroken : '\n' ∉ line) (rest : List Char) :
    lines (line ++ '\n' :: rest) = withoutReturn line :: lines rest := by
  rw [lines, pieces_append, pieces_of_not_mem unbroken, List.singleton_append, lines]
  obtain ⟨next, others, more⟩ := List.exists_cons_of_ne_nil (pieces_ne_nil '\n' rest)
  rw [more, linesOfPieces]

/-- What stands behind the last line feed is one line more, if it is anything. -/
theorem lines_of_not_mem (unbroken : '\n' ∉ line) :
    lines line = if line.isEmpty then [] else [line] := by
  rw [lines, pieces_of_not_mem unbroken, linesOfPieces]

end Cutting

section Blank

/-- White space at the start of a text does not count. -/
theorem trimStart_append (space : ∀ c ∈ line, isSpace c = true) (rest : List Char) :
    trimStart (line ++ rest) = trimStart rest :=
  List.dropWhile_append_of_pos space

/-- A blank line has white space alone. -/
theorem isBlankLine_iff : isBlankLine line = true ↔ ∀ c ∈ line, isSpace c = true := by
  have inner : (∀ c ∈ trimStart line, isSpace c = true) ↔ trimStart line = [] := by
    rw [← List.dropWhile_eq_nil_iff, trimStart, List.dropWhile_idempotent]
  rw [isBlankLine, trim, List.isEmpty_iff, List.reverse_eq_nil_iff, trimStart,
    List.dropWhile_eq_nil_iff]
  simp only [List.mem_reverse]
  rw [inner, trimStart, List.dropWhile_eq_nil_iff]

end Blank

end TypedSearch.Text
