/-!
Texts put together from parts (`join`): a separator between neighbours, and the hexadecimal digits that
escapes and digests are written with.
-/

namespace TypedSearch.Text

/-- The parts one after the other with a separator between neighbours. -/
def joined (separator : String) : List String → String
  | [] => ""
  | [part] => part
  | part :: next :: rest => part ++ separator ++ joined separator (next :: rest)

/-- The parts one after the other. -/
def concat (parts : List String) : String := joined "" parts

def hexDigit (value : Nat) : Char := Nat.digitChar (value % 16)

/-- The last `width` hexadecimal digits of a number, leading zeros included. -/
def hex : (width value : Nat) → List Char
  | 0, _ => []
  | width + 1, value => hex width (value / 16) ++ [hexDigit value]

end TypedSearch.Text
