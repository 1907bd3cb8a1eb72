/-!
Places in a YAML text, and the classes of characters that the rules of the format speak of. A cursor
holds the characters that are left together with the index, the line and the column of the next one;
all three count characters.

The modules on YAML follow the scanner, the parser and the loader of the YAML library. What is assumed
is that these do on every text what their rules say: the library is no part of the program.
-/

namespace TypedSearch.Yaml

def isBreak (c : Char) : Bool :=
  c = '\n' || c = '\r' || c.toNat = 0x85 || c.toNat = 0x2028 || c.toNat = 0x2029

def isBlank (c : Char) : Bool := c = ' ' || c = '\t'

/-- Whether a character may stand in names of anchors, tag handles and directives. -/
def isWordChar (c : Char) : Bool := c.isAlphanum || c = '_' || c = '-'

/-- The mark that may stand before a text and says how it is encoded. -/
def isEncodingMark (c : Char) : Bool := c.toNat = 0xFEFF

def isPrintable (c : Char) : Bool :=
  let code := c.toNat
  code = 0x09 || code = 0x0A || code = 0x0D || (0x20 ≤ code && code ≤ 0x7E) || code = 0x85 ||
    (0xA0 ≤ code && code ≤ 0xD7FF) || (0xE000 ≤ code && code ≤ 0xFFFD) || 0x10000 ≤ code

/-- Whether a line ends here, or the text. -/
def atLineEnd : List Char → Bool
  | [] => true
  | c :: _ => isBreak c

/-- Whether a blank or a line end comes next, or the end of the text. -/
def atGap : List Char → Bool
  | [] => true
  | c :: _ => isBlank c || isBreak c

structure Cursor where
  rest : List Char
  /-- The number of characters before. -/
  index : Nat := 0
  /-- The number of lines before. -/
  line : Nat := 0
  /-- The number of characters before on the same line. -/
  column : Nat := 0
  deriving Repr

namespace Cursor

def peek? (cursor : Cursor) : Option Char := cursor.rest.head?

def sees (cursor : Cursor) (c : Char) : Bool := cursor.peek? == some c

/-- The place a number of characters further on the same line. -/
def skip (cursor : Cursor) (count : Nat) : Cursor :=
  { cursor with
    rest := cursor.rest.drop count
    index := cursor.index + count
    column := cursor.column + count }

/-- The characters of a kind that come next, and the place after them on the same line. -/
def takeWhile (cursor : Cursor) (holds : Char → Bool) : List Char × Cursor :=
  let taken := cursor.rest.takeWhile holds
  (taken, cursor.skip taken.length)

/-- The place after the characters of a kind on the same line. -/
def skipWhile (cursor : Cursor) (holds : Char → Bool) : Cursor := (cursor.takeWhile holds).2

/-- The place at the start of the next line, a number of characters further. -/
def nextLine (cursor : Cursor) (count : Nat) : Cursor :=
  { rest := cursor.rest.drop count
    index := cursor.index + count
    line := cursor.line + 1
    column := 0 }

/-- The place after the line end that comes next, if one does, and how it reads in a scalar: as a
line feed, unless it is a line or a paragraph separator. -/
def takeBreak (cursor : Cursor) : List Char × Cursor :=
  match cursor.rest with
  | '\r' :: '\n' :: _ => (['\n'], cursor.nextLine 2)
  | c :: _ =>
    if !isBreak c then ([], cursor)
    else if c.toNat = 0x2028 ∨ c.toNat = 0x2029 then ([c], cursor.nextLine 1)
    else (['\n'], cursor.nextLine 1)
  | [] => ([], cursor)

/-- The place after a comment, if one comes next, before the end of its line. -/
def skipComment (cursor : Cursor) : Cursor :=
  if cursor.sees '#' then cursor.skipWhile fun c => !isBreak c else cursor

/-- Whether three of a character stand at the start of a line and a gap follows. -/
def atMarkerOf (cursor : Cursor) (c : Char) : Bool :=
  cursor.column = 0 && cursor.rest.take 3 == [c, c, c] && atGap (cursor.rest.drop 3)

/-- Whether a line that starts or ends a document comes next. -/
def atMarker (cursor : Cursor) : Bool := cursor.atMarkerOf '-' || cursor.atMarkerOf '.'

/-- The place after the blanks and the comment that may end a line, and after its end; nothing else
may come before that. -/
def endLine? (cursor : Cursor) : Option Cursor :=
  let after := (cursor.skipWhile isBlank).skipComment
  if atLineEnd after.rest then some after.takeBreak.2 else none

end Cursor

end TypedSearch.Yaml
