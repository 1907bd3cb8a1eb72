import TypedSearch.Yaml.Cursor

/-!
Gaps inside scalars that run over several lines. Within a line the blanks are kept; across lines a
single line end becomes a blank and of several the first is dropped. Blanks around line ends do not
count.
-/

namespace TypedSearch.Yaml

structure Gap where
  /-- The blanks, if no line end follows them. -/
  blanks : List Char := []
  /-- How the first line end reads. -/
  first : Option (List Char) := none
  further : List Char := []
  deriving Repr

namespace Gap

def broken (gap : Gap) : Bool := gap.first.isSome

def text (gap : Gap) : List Char :=
  match gap.first with
  | none => gap.blanks
  | some first =>
    if first = ['\n'] then (if gap.further.isEmpty then [' '] else gap.further)
    else first ++ gap.further

/-- Takes a gap to its end. After its first line end a tab must not stand before the column `least`.
`fuel` is at least the number of characters left. -/
def take? (least : Int) : (fuel : Nat) → Gap → Cursor → Option (Gap × Cursor)
  | 0, gap, cursor => some (gap, cursor)
  | fuel + 1, gap, cursor =>
    match cursor.rest with
    | [] => some (gap, cursor)
    | c :: _ =>
      if isBlank c then
        if !gap.broken then take? least fuel { gap with blanks := gap.blanks ++ [c] } (cursor.skip 1)
        else if c = '\t' ∧ (cursor.column : Int) < least then none
        else take? least fuel gap (cursor.skip 1)
      else if isBreak c then
        let (reading, next) := cursor.takeBreak
        match gap.first with
        | none => take? least fuel { gap with blanks := [], first := some reading } next
        | some _ => take? least fuel { gap with further := gap.further ++ reading } next
      else some (gap, cursor)

end Gap

end TypedSearch.Yaml
