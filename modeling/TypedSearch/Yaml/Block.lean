import TypedSearch.Yaml.Plain

/-!
Block scalars (`yaml_parser_scan_block_scalar`): indented lines after a bar, which keeps their ends, or
after an angle, which folds them. A header may say how the last line ends are treated and how far the
lines are indented; otherwise the first line that is not empty sets the indentation.
-/

namespace TypedSearch.Yaml

/-- What becomes of the line ends after the last line of a block scalar. -/
inductive Chomping where
  | strip
  /-- The first is kept. -/
  | clip
  | keep
  deriving DecidableEq, Repr

def chomping? : Option Char → Option Chomping
  | some '+' => some .keep
  | some '-' => some .strip
  | _ => none

/-- An indentation in a header, zero where there is none; a zero that is written is refused. -/
def takeIncrement? (cursor : Cursor) : Option (Nat × Cursor) :=
  match cursor.peek? with
  | some c =>
    if c = '0' then none
    else if c.isDigit then some (c.toNat - '0'.toNat, cursor.skip 1)
    else some (0, cursor)
  | none => some (0, cursor)

/-- The header of a block scalar: the treatment of its last line ends and its indentation, in either
order. -/
def takeHeader? (cursor : Cursor) : Option (Chomping × Nat × Cursor) :=
  match chomping? cursor.peek? with
  | some chomping => do
    let (increment, after) ← takeIncrement? (cursor.skip 1)
    return (chomping, increment, after)
  | none => do
    let (increment, after) ← takeIncrement? cursor
    if increment = 0 then return (.clip, 0, after)
    match chomping? after.peek? with
    | some chomping => return (chomping, increment, after.skip 1)
    | none => return (.clip, increment, after)

/-- Takes the indentation and the empty lines before the next line with text: how their ends read,
and the furthest column reached. With `indent` zero all blanks count as indentation. `fuel` is more
than the number of characters left. -/
def takeEmptyLines? (indent : Nat) :
    (fuel : Nat) → (furthest : Nat) → Cursor → Option (List Char × Nat × Cursor)
  | 0, furthest, cursor => some ([], furthest, cursor)
  | fuel + 1, furthest, cursor =>
    let blanks := cursor.rest.takeWhile (· = ' ')
    let count := if indent = 0 then blanks.length else min blanks.length (indent - cursor.column)
    let after := cursor.skip count
    let reached := max furthest after.column
    if (indent = 0 ∨ after.column < indent) ∧ after.sees '\t' then none
    else if !after.rest.head?.any isBreak then some ([], reached, after)
    else do
      let (reading, next) := after.takeBreak
      let (more, furthest, following) ← takeEmptyLines? indent fuel reached next
      return (reading ++ more, furthest, following)

structure BlockLines where
  /-- The text up to the last line. -/
  text : List Char
  /-- How the end of the last line reads. -/
  last : List Char
  /-- How the ends of the empty lines after it read. -/
  further : List Char
  /-- The place after them. -/
  cursor : Cursor

/-- Takes the lines of a block scalar at the column `indent`. `last` and `further` are the line ends
passed since the line before, and `blank` says whether that line starts with a blank. `fuel` is more
than the number of characters left. -/
def takeLines? (literal : Bool) (indent : Nat) :
    (fuel : Nat) → (last further : List Char) → (blank : Bool) → Cursor → Option BlockLines
  | 0, last, further, _, cursor => some ⟨[], last, further, cursor⟩
  | fuel + 1, last, further, blank, cursor =>
    if cursor.column ≠ indent ∨ cursor.rest.isEmpty then some ⟨[], last, further, cursor⟩
    else do
      let startsBlank := cursor.rest.head?.any isBlank
      let ends :=
        if !literal ∧ last = ['\n'] ∧ !blank ∧ !startsBlank then
          (if further.isEmpty then [' '] else further)
        else last ++ further
      let (line, after) := cursor.takeWhile fun c => !isBreak c
      let (reading, next) := after.takeBreak
      let (empty, _, following) ← takeEmptyLines? indent (next.rest.length + 1) 0 next
      let more ← takeLines? literal indent fuel reading empty startsBlank following
      return { more with text := ends ++ line ++ more.text }

/-- Takes a block scalar after its indicator, inside a block that is indented by `parent`. -/
def takeBlock? (literal : Bool) (parent : Int) (cursor : Cursor) : Option Scanned := do
  let (chomping, increment, after) ← takeHeader? cursor
  let start ← after.endLine?
  let given := if increment = 0 then 0 else parent.toNat + increment
  let (empty, furthest, first) ← takeEmptyLines? given (start.rest.length + 1) 0 start
  let indent := if given = 0 then max (max furthest (parent + 1).toNat) 1 else given
  let lines ← takeLines? literal indent (first.rest.length + 1) [] empty false first
  let tail :=
    match chomping with
    | .strip => []
    | .clip => lines.last
    | .keep => lines.last ++ lines.further
  return ⟨lines.text ++ tail, false, lines.cursor⟩

end TypedSearch.Yaml
