import TypedSearch.Yaml.Quoted
import TypedSearch.Yaml.Token

/-!
Anchors, tags and directives (`yaml_parser_scan_tag`, `yaml_parser_scan_anchor`). A tag is a handle
with the rest of the name, the name alone between angles, or a single exclamation mark; its characters
may be written as escaped octets.
-/

namespace TypedSearch.Yaml

/-- The characters of tag names other than word characters and escapes. -/
def tagMarks : List Char :=
  [';', '/', '?', ':', '@', '&', '=', '+', '$', '.', '!', '~', '*', '\'', '(', ')']

/-- The characters that tag names may also have between angles and in directives. -/
def verbatimMarks : List Char := [',', '[', ']']

/-- Whether an anchor's name may end before a character. -/
def endsAnchor (c : Char) : Bool :=
  isBlank c || isBreak c || ['?', ':', ',', ']', '\x7d', '%', '@', Char.ofNat 96].contains c

/-- The name of an anchor or a reference, after its mark. -/
def takeAnchor? (cursor : Cursor) : Option (String × Cursor) :=
  let (name, after) := cursor.takeWhile isWordChar
  if name.isEmpty ∨ !after.rest.head?.all endsAnchor then none
  else some (String.ofList name, after)

/-- An octet that is written as a percent sign and two digits. -/
def takeOctet? : List Char → Option Nat
  | '%' :: high :: low :: _ => hexNumber? [high, low]
  | _ => none

/-- The number of octets of the character that an octet leads, with the bits of the character in
it. -/
def octetLead? (octet : Nat) : Option (Nat × Nat) :=
  if octet < 0x80 then some (0, octet)
  else if octet / 32 = 6 then some (1, octet % 32)
  else if octet / 16 = 14 then some (2, octet % 16)
  else if octet / 8 = 30 then some (3, octet % 8)
  else none

/-- The octets after the first one of a character, added to the bits read before. -/
def takeTrailing? : (count bits : Nat) → List Char → Option (Nat × List Char)
  | 0, bits, rest => some (bits, rest)
  | count + 1, bits, rest => do
    let octet ← takeOctet? rest
    if octet / 64 = 2 then takeTrailing? count (bits * 64 + octet % 64) (rest.drop 3) else failure

def takeOctets? (text : List Char) : Option (Char × List Char) := do
  let (count, bits) ← octetLead? (← takeOctet? text)
  let (code, rest) ← takeTrailing? count bits (text.drop 3)
  return (Char.ofNat code, rest)

/-- The characters of a tag name that come next. `fuel` is at least the number of characters left. -/
def takeTagName? (marks : List Char) :
    (fuel : Nat) → List Char → Option (List Char × List Char)
  | 0, rest => some ([], rest)
  | fuel + 1, rest =>
    match rest with
    | [] => some ([], [])
    | c :: after =>
      if c = '%' then do
        let (meant, following) ← takeOctets? rest
        let (more, last) ← takeTagName? marks fuel following
        return (meant :: more, last)
      else if isWordChar c ∨ marks.contains c then do
        let (more, last) ← takeTagName? marks fuel after
        return (c :: more, last)
      else some ([], rest)

/-- A tag name as text, with the place after it. -/
def takeTagText? (marks : List Char) (cursor : Cursor) : Option (String × Cursor) := do
  let (name, rest) ← takeTagName? marks cursor.rest.length cursor.rest
  return (String.ofList name, cursor.skip (cursor.rest.length - rest.length))

/-- An exclamation mark and word characters, with a closing exclamation mark if there is one. -/
def takeHandle (cursor : Cursor) : List Char × Cursor :=
  let (name, after) := (cursor.skip 1).takeWhile isWordChar
  if after.sees '!' then ('!' :: name ++ ['!'], after.skip 1) else ('!' :: name, after)

/-- Whether a handle is closed by a second exclamation mark. -/
def isClosedHandle (handle : List Char) : Bool := 1 < handle.length && handle.getLast? == some '!'

def takeTagParts? (cursor : Cursor) : Option (String × String × Cursor) :=
  if cursor.rest[1]? = some '<' then do
    let (name, after) ← takeTagText? (tagMarks ++ verbatimMarks) (cursor.skip 2)
    if name.isEmpty ∨ !after.sees '>' then failure else return ("", name, after.skip 1)
  else
    let (handle, after) := takeHandle cursor
    if isClosedHandle handle then do
      let (name, after) ← takeTagText? tagMarks after
      if name.isEmpty then failure else return (String.ofList handle, name, after)
    else do
      let (name, after) ← takeTagText? tagMarks after
      let whole := String.ofList handle.tail ++ name
      if whole.isEmpty then return ("", "!", after) else return ("!", whole, after)

/-- A tag; a gap must follow, or a comma inside brackets. -/
def takeTag? (flow : Bool) (cursor : Cursor) : Option (Token × Cursor) := do
  let (handle, name, after) ← takeTagParts? cursor
  if atGap after.rest ∨ (flow ∧ after.sees ',') then return (.tag handle name, after) else failure

/-- A number of a version, of at most nine digits. -/
def takeVersionNumber? (cursor : Cursor) : Option (Nat × Cursor) :=
  let (digits, after) := cursor.takeWhile Char.isDigit
  if digits.isEmpty ∨ 9 < digits.length then none
  else some (digits.foldl (fun total c => total * 10 + (c.toNat - '0'.toNat)) 0, after)

def takeVersion? (cursor : Cursor) : Option (Token × Cursor) := do
  let (major, after) ← takeVersionNumber? (cursor.skipWhile isBlank)
  if !after.sees '.' then failure
  let (minor, after) ← takeVersionNumber? (after.skip 1)
  return (.version major minor, after)

def takeTagHandle? (cursor : Cursor) : Option (Token × Cursor) := do
  let start := cursor.skipWhile isBlank
  if !start.sees '!' then failure
  let (handle, after) := takeHandle start
  if handle ≠ ['!'] ∧ !isClosedHandle handle then failure
  if !after.rest.head?.any isBlank then failure
  let (meaning, after) ← takeTagText? (tagMarks ++ verbatimMarks) (after.skipWhile isBlank)
  if meaning.isEmpty ∨ !atGap after.rest then failure
  return (.tagHandle (String.ofList handle) meaning, after)

/-- A directive after its percent sign, to the end of its line. -/
def takeDirective? (cursor : Cursor) : Option (Token × Cursor) := do
  let (name, after) := cursor.takeWhile isWordChar
  if !atGap after.rest then failure
  let (token, after) ←
    match String.ofList name with
    | "YAML" => takeVersion? after
    | "TAG" => takeTagHandle? after
    | _ => none
  return (token, ← after.endLine?)

end TypedSearch.Yaml
