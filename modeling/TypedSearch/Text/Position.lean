/-!
Places in a text. A place is a count of UTF-8 bytes; its line is one more than the line feeds before
it and its column counts the bytes since the last of them.
-/

namespace TypedSearch.Text

structure Position where
  /-- The line, the first being one. -/
  line : Nat
  /-- The bytes of the line before the place. -/
  column : Nat
  deriving DecidableEq, Repr

/-- The number of UTF-8 bytes of a list of characters. -/
def byteCount : List Char → Nat
  | [] => 0
  | c :: rest => c.utf8Size + byteCount rest

/-- The place a number of bytes after a position. -/
def advance (position : Position) : (bytes : Nat) → List Char → Position
  | 0, _ | _, [] => position
  | bytes, c :: rest =>
    if c = '\n' then advance ⟨position.line + 1, 0⟩ (bytes - 1) rest
    else if bytes ≤ c.utf8Size then ⟨position.line, position.column + bytes⟩
    else advance ⟨position.line, position.column + c.utf8Size⟩ (bytes - c.utf8Size) rest

/-- The place a number of bytes after the start of a text. -/
def positionAt (bytes : Nat) (text : List Char) : Position := advance ⟨1, 0⟩ bytes text

end TypedSearch.Text
