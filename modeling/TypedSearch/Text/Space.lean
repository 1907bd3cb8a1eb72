/-!
White space as the Unicode property has it, the same in all recent versions, and the texts that are
left once it is cut off (`trim`, `split`).
-/

namespace TypedSearch.Text

/-- The ranges of the characters with the property White_Space. -/
def spaceRanges : List (Nat × Nat) :=
  [(9, 13), (32, 32), (133, 133), (160, 160), (5760, 5760), (8192, 8202), (8232, 8233),
    (8239, 8239), (8287, 8287), (12288, 12288)]

def within (ranges : List (Nat × Nat)) (code : Nat) : Bool :=
  ranges.any fun (first, last) => first ≤ code && code ≤ last

def isSpace (c : Char) : Bool := within spaceRanges c.toNat

/-- A text without the white space before it. -/
def trimStart (text : List Char) : List Char := text.dropWhile isSpace

/-- A text without the white space around it. -/
def trim (text : List Char) : List Char := (trimStart (trimStart text).reverse).reverse

/-- A text without the characters of one kind after it. -/
def trimEnd (last : Char) (text : String) : String :=
  String.ofList (text.toList.reverse.dropWhile (· = last)).reverse

/-- The maximal runs of characters that are no separators. -/
def runs (separates : Char → Bool) : List Char → List (List Char)
  | [] => []
  | c :: rest =>
    if separates c then runs separates rest
    else
      match rest with
      | [] => [[c]]
      | next :: _ =>
        if separates next then [c] :: runs separates rest
        else
          match runs separates rest with
          | [] => [[c]]
          | run :: others => (c :: run) :: others

/-- The pieces between separators, empty ones included. -/
def pieces (separator : Char) : List Char → List (List Char)
  | [] => [[]]
  | c :: rest =>
    if c = separator then [] :: pieces separator rest
    else
      match pieces separator rest with
      | [] => [[c]]
      | piece :: others => (c :: piece) :: others

end TypedSearch.Text
