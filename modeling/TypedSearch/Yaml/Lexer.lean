import TypedSearch.Yaml.Block
import TypedSearch.Yaml.Tag

/-!
The tokens that a text is made of (`yaml_parser_fetch_next_token`). Outside brackets the columns of
lines open and close blocks. A key without a mark of its own is known only by the colon after it, so
the place where a key may start is kept, and the tokens that mark it are put there once the colon is
seen (`yaml_parser_save_simple_key`). Such a key stands on one line and is at most 1024 characters
long.
-/

namespace TypedSearch.Yaml

/-- A place where a key without a mark may have started. -/
structure KeyStart where
  /-- Whether nothing but a key can stand here. -/
  required : Bool
  /-- The number of tokens before it. -/
  tokens : Nat
  cursor : Cursor

structure Lexing where
  cursor : Cursor
  /-- The column of the innermost block, minus one outside of all blocks. -/
  indent : Int := -1
  outerIndents : List Int := []
  /-- Where a key may have started at the innermost level of brackets. -/
  keyStart : Option KeyStart := none
  outerKeyStarts : List (Option KeyStart) := []
  keyAllowed : Bool := true
  /-- The tokens so far, the last one first. -/
  tokens : List Token := []

namespace Lexing

def inFlow (state : Lexing) : Bool := !state.outerKeyStarts.isEmpty

def emit (state : Lexing) (token : Token) : Lexing := { state with tokens := token :: state.tokens }

/-- Puts a token where `place` tokens stand before it. -/
def emitAt (state : Lexing) (place : Nat) (token : Token) : Lexing :=
  let later := state.tokens.length - place
  { state with tokens := state.tokens.take later ++ token :: state.tokens.drop later }

/-- Adds a token for a number of characters and goes past them. -/
def emitPast (state : Lexing) (count : Nat) (token : Token) : Lexing :=
  { state.emit token with cursor := state.cursor.skip count }

/-- Whether a key that may have started can no longer be one: it is on another line or too long. -/
def isStale (cursor : Cursor) (start : KeyStart) : Bool :=
  start.cursor.line < cursor.line || start.cursor.index + 1024 < cursor.index

/-- Gives up a key start if it is stale; a required one must not be. -/
def refresh? (cursor : Cursor) : Option KeyStart → Option (Option KeyStart)
  | none => some none
  | some start =>
    if isStale cursor start then (if start.required then none else some none) else some (some start)

def refreshKeys? (state : Lexing) : Option Lexing := do
  let keyStart ← refresh? state.cursor state.keyStart
  let outer ← state.outerKeyStarts.mapM (refresh? state.cursor)
  return { state with keyStart, outerKeyStarts := outer }

/-- Gives up the innermost key start; a required one must not be. -/
def dropKey? (state : Lexing) : Option Lexing :=
  match state.keyStart with
  | some start => if start.required then none else some { state with keyStart := none }
  | none => some state

/-- Keeps the place as a key start, if a key may start here. -/
def saveKey? (state : Lexing) : Option Lexing :=
  if !state.keyAllowed then some state
  else do
    let dropped ← state.dropKey?
    let required := !state.inFlow && state.indent == (state.cursor.column : Int)
    return { dropped with keyStart := some ⟨required, state.tokens.length, state.cursor⟩ }

/-- How many blocks end before a column, and the columns of the blocks that are left. -/
def endedBlocks (column indent : Int) : List Int → Nat × Int × List Int
  | [] => (0, indent, [])
  | outer :: rest =>
    if indent ≤ column then (0, indent, outer :: rest)
    else
      let (count, left) := endedBlocks column outer rest
      (count + 1, left)

/-- Closes the blocks that are indented further than a column. -/
def closeBlocks (state : Lexing) (column : Int) : Lexing :=
  if state.inFlow then state
  else
    let (count, indent, outerIndents) := endedBlocks column state.indent state.outerIndents
    { state with
      indent
      outerIndents
      tokens := List.replicate count .blockEnd ++ state.tokens }

/-- Opens a block at a column if that is further than the innermost block, its token standing where
`place` tokens stand before it. -/
def openBlock (state : Lexing) (column : Nat) (place : Nat) (token : Token) : Lexing :=
  if !state.inFlow ∧ state.indent < column then
    { state with indent := column, outerIndents := state.indent :: state.outerIndents }.emitAt place
      token
  else state

/-- The place of the next token: after blanks, comments and line ends. A tab counts as a blank where
no key may start. Outside brackets a key may start on each new line. `fuel` is more than the number
of characters left. -/
def skipGap : (fuel : Nat) → Lexing → Lexing
  | 0, state => state
  | fuel + 1, state =>
    let start :=
      if state.cursor.column = 0 ∧ state.cursor.rest.head?.any isEncodingMark then
        state.cursor.skip 1
      else state.cursor
    let tabs := state.inFlow || !state.keyAllowed
    let after := (start.skipWhile fun c => c = ' ' || (tabs && c = '\t')).skipComment
    if after.rest.head?.any isBreak then
      skipGap fuel
        { state with
          cursor := after.takeBreak.2
          keyAllowed := state.keyAllowed || !state.inFlow }
    else { state with cursor := after }

/-- A directive or a line that starts or ends a document, which closes all blocks. -/
def documentMark? (state : Lexing) (token : Token) (cursor : Cursor) : Option Lexing := do
  let closed ← (state.closeBlocks (-1)).dropKey?
  return { closed.emit token with cursor, keyAllowed := false }

def openFlow? (state : Lexing) (token : Token) : Option Lexing := do
  let saved ← state.saveKey?
  return { saved with
    keyStart := none
    outerKeyStarts := saved.keyStart :: saved.outerKeyStarts
    keyAllowed := true }.emitPast 1 token

def closeFlow? (state : Lexing) (token : Token) : Option Lexing := do
  let dropped ← state.dropKey?
  let outer :=
    match dropped.outerKeyStarts with
    | keyStart :: rest => { dropped with keyStart, outerKeyStarts := rest }
    | [] => dropped
  return { outer with keyAllowed := false }.emitPast 1 token

def flowEntry? (state : Lexing) : Option Lexing := do
  let dropped ← state.dropKey?
  return { dropped with keyAllowed := true }.emitPast 1 .flowEntry

/-- A dash before an item. -/
def blockEntry? (state : Lexing) : Option Lexing := do
  if !state.inFlow ∧ !state.keyAllowed then failure
  let opened := state.openBlock state.cursor.column state.tokens.length .blockSequenceStart
  let dropped ← opened.dropKey?
  return { dropped with keyAllowed := true }.emitPast 1 .blockEntry

/-- A question mark before a key. -/
def markedKey? (state : Lexing) : Option Lexing := do
  if !state.inFlow ∧ !state.keyAllowed then failure
  let opened := state.openBlock state.cursor.column state.tokens.length .blockMappingStart
  let dropped ← opened.dropKey?
  return { dropped with keyAllowed := !state.inFlow }.emitPast 1 .key

/-- A colon before a value. If a key may have started before it on its line, that was one. -/
def value? (state : Lexing) : Option Lexing :=
  match state.keyStart with
  | some start =>
    let keyed := state.emitAt start.tokens .key
    let opened := keyed.openBlock start.cursor.column start.tokens .blockMappingStart
    some ({ opened with keyStart := none, keyAllowed := false }.emitPast 1 .value)
  | none =>
    if !state.inFlow ∧ !state.keyAllowed then none
    else
      let opened := state.openBlock state.cursor.column state.tokens.length .blockMappingStart
      some ({ opened with keyAllowed := !state.inFlow }.emitPast 1 .value)

/-- A token that may start a key and is followed by none on its line. -/
def single? (state : Lexing) (take : Lexing → Option (Token × Cursor)) : Option Lexing := do
  let saved ← state.saveKey?
  let (token, cursor) ← take saved
  return { saved.emit token with cursor, keyAllowed := false }

def anchor? (make : String → Token) (state : Lexing) : Option (Token × Cursor) := do
  let (name, cursor) ← takeAnchor? (state.cursor.skip 1)
  return (make name, cursor)

def quoted? (quote : Char) (state : Lexing) : Option (Token × Cursor) := do
  let scanned ← takeQuoted? quote (state.cursor.rest.length + 1) (state.cursor.skip 1)
  return (.scalar .quoted (String.ofList scanned.text), scanned.cursor)

/-- A block scalar, after which a key may start. -/
def block? (style : ScalarStyle) (state : Lexing) : Option Lexing := do
  let dropped ← state.dropKey?
  let scanned ← takeBlock? (style == .literal) state.indent (state.cursor.skip 1)
  return { dropped.emit (.scalar style (String.ofList scanned.text)) with
    cursor := scanned.cursor
    keyAllowed := true }

/-- A plain scalar. A key may start after it if a line ended. -/
def plain? (state : Lexing) : Option Lexing := do
  let saved ← state.saveKey?
  let scanned ←
    takePlain? state.inFlow (state.indent + 1) (state.cursor.rest.length + 1) {} state.cursor
  return { saved.emit (.scalar .plain (String.ofList scanned.text)) with
    cursor := scanned.cursor
    keyAllowed := scanned.broken }

/-- The characters that a plain scalar cannot start with. -/
def isIndicator (c : Char) : Bool :=
  ['-', '?', ':', ',', '[', ']', '\x7b', '\x7d', '#', '&', '*', '!', '|', '>', '\'', '"', '%', '@',
    Char.ofNat 96].contains c

/-- Whether a plain scalar starts with `c` before `rest`. -/
def startsPlain (flow : Bool) (c : Char) (rest : List Char) : Bool :=
  !(isBlank c || isBreak c || isIndicator c) || (c = '-' && !rest.head?.any isBlank) ||
    (!flow && (c = '?' || c = ':') && !atGap rest)

/-- The next token, at a place where one starts with `c` before `rest`. -/
def token? (state : Lexing) (c : Char) (rest : List Char) : Option Lexing :=
  if state.cursor.column = 0 ∧ c = '%' then do
    let (token, cursor) ← takeDirective? (state.cursor.skip 1)
    state.documentMark? token cursor
  else if state.cursor.atMarkerOf '-' then
    state.documentMark? .documentStart (state.cursor.skip 3)
  else if state.cursor.atMarkerOf '.' then state.documentMark? .documentEnd (state.cursor.skip 3)
  else if c = '[' then state.openFlow? .flowSequenceStart
  else if c = '\x7b' then state.openFlow? .flowMappingStart
  else if c = ']' then state.closeFlow? .flowSequenceEnd
  else if c = '\x7d' then state.closeFlow? .flowMappingEnd
  else if c = ',' then state.flowEntry?
  else if c = '-' ∧ atGap rest then state.blockEntry?
  else if c = '?' ∧ (state.inFlow ∨ atGap rest) then state.markedKey?
  else if c = ':' ∧ (state.inFlow ∨ atGap rest) then state.value?
  else if c = '*' then state.single? (anchor? .alias)
  else if c = '&' then state.single? (anchor? .anchor)
  else if c = '!' then state.single? fun saved => takeTag? saved.inFlow saved.cursor
  else if c = '|' ∧ !state.inFlow then state.block? .literal
  else if c = '>' ∧ !state.inFlow then state.block? .folded
  else if c = '\'' ∨ c = '"' then state.single? (quoted? c)
  else if startsPlain state.inFlow c rest then state.plain?
  else none

/-- The tokens up to the end of the text. `fuel` is more than the number of characters left. -/
def run? : (fuel : Nat) → Lexing → Option (List Token)
  | 0, _ => none
  | fuel + 1, state => do
    let placed ← (state.skipGap (state.cursor.rest.length + 1)).refreshKeys?
    let closed := placed.closeBlocks placed.cursor.column
    match closed.cursor.rest with
    | [] =>
      let last ← (closed.closeBlocks (-1)).dropKey?
      return last.tokens.reverse
    | c :: rest => run? fuel (← closed.token? c rest)

end Lexing

/-- The tokens of a text, if its characters are allowed and its tokens are well formed. A mark of the
encoding before the text does not belong to it. -/
def tokens? (text : String) : Option (List Token) :=
  let characters := text.toList
  let body := if characters.head?.any isEncodingMark then characters.drop 1 else characters
  if body.all isPrintable then Lexing.run? (body.length + 1) { cursor := { rest := body } } else none

end TypedSearch.Yaml
