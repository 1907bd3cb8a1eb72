import TypedSearch.Text.Space

/-!
The lines of a text (`lines`). A line ends with a line feed, before which a carriage return may stand;
what stands after the last line feed is a line too, unless it is empty.
-/

namespace TypedSearch.Text

/-- A line without the carriage return at its end. -/
def withoutReturn (line : List Char) : List Char :=
  if line.getLast? = some '\r' then line.dropLast else line

/-- Pieces between line feeds as lines. The last piece has no line feed after it, so it keeps a
carriage return, and it is no line when it is empty. -/
def linesOfPieces : List (List Char) → List (List Char)
  | [] => []
  | [last] => if last.isEmpty then [] else [last]
  | line :: next :: rest => withoutReturn line :: linesOfPieces (next :: rest)

/-- The lines of a text without their ends. -/
def lines (text : List Char) : List (List Char) := linesOfPieces (pieces '\n' text)

/-- Whether a line holds nothing but white space. -/
def isBlankLine (line : List Char) : Bool := (trim line).isEmpty

end TypedSearch.Text
