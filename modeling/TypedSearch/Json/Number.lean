import TypedSearch.Number.Shortest

/-!
JSON numbers (`Number`). A number is an integer of the signed or unsigned 64-bit range or a finite
binary64 value, and its spelling is the shortest decimal that reads back.
-/

namespace TypedSearch.Json

inductive Number where
  /-- A whole number written without a point or an exponent. -/
  | integer (value : Int)
  | real (value : Binary64)
  deriving DecidableEq, Repr, Inhabited

/-- The least exponent of the leading digit that is still written positionally. -/
def positionalFrom : Int := -5

/-- The first exponent of the leading digit that is written with an exponent. -/
def exponentialFrom : Int := 16

/-- Digits with a point after the first `count` of them, which is at least one and less than all. -/
def pointed (digits : List Char) (count : Nat) : String :=
  String.ofList (digits.take count) ++ "." ++ String.ofList (digits.drop count)

/-- The text of a decimal whose leading digit stands at `leading`: positional from a hundred
thousandth up to ten to the sixteenth, with an exponent and its sign elsewhere on the large side. -/
def decimalText (digits : List Char) (leading : Int) : String :=
  if positionalFrom ≤ leading ∧ leading < exponentialFrom then
    if leading < 0 then
      "0." ++ String.ofList (List.replicate (leading.natAbs - 1) '0' ++ digits)
    else
      let whole := leading.toNat + 1
      if digits.length ≤ whole then
        String.ofList (digits ++ List.replicate (whole - digits.length) '0') ++ ".0"
      else pointed digits whole
  else
    let head := if digits.length ≤ 1 then String.ofList digits else pointed digits 1
    let sign := if leading < 0 then "-" else "+"
    head ++ "e" ++ sign ++ toString leading.natAbs

def realText (value : Binary64) : String :=
  let decimal := value.shortest
  let magnitude :=
    if decimal.digits = 0 then "0.0"
    else
      let trimmed := (Nat.toDigits 10 decimal.digits).reverse.dropWhile (· = '0') |>.reverse
      let width : Int := (Nat.toDigits 10 decimal.digits).length
      decimalText trimmed (decimal.exponent + width - 1)
  if value.negative then "-" ++ magnitude else magnitude

namespace Number

/-- The spelling of a number, the same in documents, messages and keyword forms. -/
def text : Number → String
  | integer value => toString value
  | real value => realText value

def toBinary64 : Number → Binary64
  | integer value => .ofInt value
  | real value => value

/-- Numbers agree if both are integers or both reals and their values are equal. -/
def agrees : Number → Number → Bool
  | integer left, integer right => left == right
  | real left, real right => left.order right == .eq
  | _, _ => false

end Number

end TypedSearch.Json
