import TypedSearch.Number.Shortest
import TypedSearch.Json.Decode

/-!
What scalars mean (`visit_untagged_scalar`). A plain scalar is a null, a truth value, a number or else
a string; any other scalar is a string. A tag of the format's own types asks for that type and is
refused if the text is not of it; all other tags leave the meaning to the text.
-/

namespace TypedSearch.Yaml

inductive Real where
  | finite (value : Binary64)
  | infinite (negative : Bool)
  /-- What is not a number. -/
  | undefined
  deriving DecidableEq, Repr

inductive Meaning where
  | null
  | bool (value : Bool)
  | integer (value : Int)
  | real (value : Real)
  | string (text : String)
  deriving DecidableEq, Repr

/-- The digits of a decimal without the zeros at their end, and the power of ten of the last one. -/
def significantDigits (decimal : Binary64.Decimal) : List Char × Int :=
  let digits := Nat.toDigits 10 decimal.digits
  let kept := (digits.reverse.dropWhile (· = '0')).reverse
  (kept, decimal.exponent + (digits.length - kept.length : Nat))

/-- A decimal with its point, however many zeros that takes. -/
def positional (decimal : Binary64.Decimal) : List Char :=
  let (digits, exponent) := significantDigits decimal
  if digits.isEmpty then ['0', '.', '0']
  else if 0 ≤ exponent then digits ++ List.replicate exponent.toNat '0' ++ ['.', '0']
  else
    let decimals := exponent.natAbs
    let padded := List.replicate (decimals + 1 - digits.length) '0' ++ digits
    padded.take (padded.length - decimals) ++ '.' :: padded.drop (padded.length - decimals)

def Real.spelling : Real → String
  | finite value =>
    (if value.negative then "-" else "") ++ String.ofList (positional value.shortest)
  | infinite negative => if negative then "-inf" else "inf"
  | undefined => "NaN"

/-- What a message calls a meaning. Whole numbers of more than 64 bits have a name of their own. -/
def Meaning.found : Meaning → Found
  | null => .unit
  | bool value => .bool value
  | integer value =>
    if -(powerOfTwo 63 : Int) ≤ value ∧ value < powerOfTwo 64 then .integer value else .wideInteger value
  | real value => .real value.spelling
  | string text => .string text

def isNullWord (text : String) : Bool := ["null", "Null", "NULL", "~"].contains text

def boolOf? (text : String) : Option Bool :=
  if ["true", "True", "TRUE"].contains text then some true
  else if ["false", "False", "FALSE"].contains text then some false
  else none

/-- A text without the sign before it, and whether that is a minus. -/
def unsigned : List Char → Bool × List Char
  | '-' :: rest => (true, rest)
  | '+' :: rest => (false, rest)
  | text => (false, text)

/-- The value of a digit in a base of at most sixteen. -/
def digitIn? (base : Nat) (c : Char) : Option Nat :=
  let value :=
    if c.isDigit then some (c.toNat - '0'.toNat)
    else if 'a' ≤ c ∧ c ≤ 'f' then some (c.toNat - 'a'.toNat + 10)
    else if 'A' ≤ c ∧ c ≤ 'F' then some (c.toNat - 'A'.toNat + 10)
    else none
  value.filter (· < base)

/-- The number that digits write in a base; there must be at least one. -/
def numberIn? (base : Nat) (digits : List Char) : Option Nat :=
  if digits.isEmpty then none
  else do
    return (← digits.mapM (digitIn? base)).foldl (fun total digit => total * base + digit) 0

/-- Whether a text is a row of several digits that starts with a zero, which makes it a string. -/
def isPadded (text : List Char) : Bool :=
  let digits := (unsigned text).2
  1 < digits.length && digits.head? == some '0' && digits.all Char.isDigit

/-- The whole number that digits write, in the base that their first two characters name. -/
def naturalOf? : List Char → Option Nat
  | '0' :: 'x' :: digits => numberIn? 16 digits
  | '0' :: 'o' :: digits => numberIn? 8 digits
  | '0' :: 'b' :: digits => numberIn? 2 digits
  | digits => numberIn? 10 digits

/-- The whole number of at most 128 bits that a text spells. -/
def integerOf? (text : List Char) : Option Int :=
  if isPadded text then none
  else
    let (negative, digits) := unsigned text
    match naturalOf? digits with
    | none => none
    | some value =>
      if negative then (if value ≤ powerOfTwo 127 then some (Int.negOfNat value) else none)
      else if value < powerOfTwo 128 then some value
      else none

/-- The exponent at the end of a decimal, none being zero. -/
def exponentOf? : List Char → Option Int
  | [] => some 0
  | c :: rest =>
    if c = 'e' ∨ c = 'E' then
      let (negative, digits) := unsigned rest
      (numberIn? 10 digits).map fun value => if negative then Int.negOfNat value else value
    else none

/-- The finite number that a decimal spells: digits with or without a point among them, and an
exponent. -/
def decimalOf? (negative : Bool) (text : List Char) : Option Binary64 := do
  let (whole, rest) := text.span Char.isDigit
  let (decimals, rest) :=
    match rest with
    | '.' :: after => after.span Char.isDigit
    | _ => ([], rest)
  let digits ← numberIn? 10 (whole ++ decimals)
  let exponent ← exponentOf? rest
  Binary64.ofDecimal? negative digits (exponent - decimals.length)

def realOf? (text : List Char) : Option Real :=
  let (negative, digits) := unsigned text
  match String.ofList digits with
  | ".inf" | ".Inf" | ".INF" => some (.infinite negative)
  | ".nan" | ".NaN" | ".NAN" => if digits = text then some .undefined else none
  | _ => (decimalOf? negative digits).map .finite

/-- What a plain scalar without a tag means. -/
def plainMeaning (text : String) : Meaning :=
  if text.isEmpty ∨ isNullWord text then .null
  else
    match boolOf? text with
    | some value => .bool value
    | none =>
      match integerOf? text.toList with
      | some value => .integer value
      | none =>
        match if isPadded text.toList then none else realOf? text.toList with
        | some value => .real value
        | none => .string text

structure CoreTag where
  null : String := "tag:yaml.org,2002:null"
  bool : String := "tag:yaml.org,2002:bool"
  integer : String := "tag:yaml.org,2002:int"
  real : String := "tag:yaml.org,2002:float"

def coreTag : CoreTag := {}

/-- The name of a local tag, one that starts with an exclamation mark. -/
def localTag? (tag : Option String) : Option String :=
  match tag.map String.toList with
  | some ('!' :: name) => some (String.ofList name)
  | _ => none

/-- What a scalar means, unless its tag asks for a type that its text is not of. -/
def meaning? (tag : Option String) (bare : Bool) (text : String) : Option Meaning :=
  match tag with
  | none => some (if bare then plainMeaning text else .string text)
  | some name =>
    if name = coreTag.bool then (boolOf? text).map .bool
    else if name = coreTag.integer then (integerOf? text.toList).map .integer
    else if name = coreTag.real then (realOf? text.toList).map .real
    else if name = coreTag.null then (if isNullWord text then some .null else none)
    else if bare ∧ (localTag? tag).isSome then some (plainMeaning text)
    else some (.string text)

end TypedSearch.Yaml
