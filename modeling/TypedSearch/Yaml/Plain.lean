import TypedSearch.Yaml.Folding

/-!
Plain scalars (`yaml_parser_scan_plain_scalar`): text without quotes. It ends before a colon with a gap
after it, before a comment, before a line that marks a document and, outside brackets, at a line that
is not indented far enough. Inside brackets it also ends before a comma and before any bracket.
-/

namespace TypedSearch.Yaml

structure Scanned where
  text : List Char
  /-- Whether a line end was passed after the text. -/
  broken : Bool := false
  /-- The place after the scalar. -/
  cursor : Cursor
  deriving Repr

/-- The characters that end a plain scalar inside brackets. -/
def isFlowMark (c : Char) : Bool := [',', '[', ']', '\x7b', '\x7d'].contains c

/-- The characters that must not follow a colon inside a plain scalar in brackets. -/
def isColonFault (c : Char) : Bool := c = '?' || isFlowMark c

/-- The next characters of a plain scalar up to a gap or to its end. -/
def takePlainRun? (flow : Bool) : List Char → Option (List Char)
  | [] => some []
  | c :: rest =>
    if isBlank c ∨ isBreak c then some []
    else if flow ∧ c = ':' ∧ (rest.head?.any isColonFault) then none
    else if (c = ':' ∧ atGap rest) ∨ (flow ∧ isFlowMark c) then some []
    else (takePlainRun? flow rest).map (c :: ·)

/-- Takes a plain scalar whose lines must reach the column `least`. `gap` is what was passed since
the last run, and `fuel` is at least the number of characters left. -/
def takePlain? (flow : Bool) (least : Int) : (fuel : Nat) → Gap → Cursor → Option Scanned
  | 0, gap, cursor => some ⟨[], gap.broken, cursor⟩
  | fuel + 1, gap, cursor =>
    if cursor.atMarker ∨ cursor.sees '#' then some ⟨[], gap.broken, cursor⟩
    else do
      let run ← takePlainRun? flow cursor.rest
      if run.isEmpty then return ⟨[], gap.broken, cursor⟩
      let after := cursor.skip run.length
      if !atGap after.rest ∨ after.rest.isEmpty then return ⟨gap.text ++ run, false, after⟩
      let (next, following) ← Gap.take? least (after.rest.length) {} after
      if !flow ∧ (following.column : Int) < least then
        return ⟨gap.text ++ run, next.broken, following⟩
      let more ← takePlain? flow least fuel next following
      return { more with text := gap.text ++ run ++ more.text }

end TypedSearch.Yaml
