import TypedSearch.Number.Power

/-!
Finite binary64 numbers (`f64`) as exact dyadic values. A number is a sign, a whole significand and a
power of two, so comparing two of them and rounding a ratio to the nearest one are integer arithmetic.
What is assumed of the hardware is that it rounds to nearest, ties to even.
-/

namespace TypedSearch

/-- A finite binary64 number: the signed significand times two to the exponent. The rounding
functions below give the significand 53 bits whenever the exponent is above its least value. -/
structure Binary64 where
  /-- The sign, kept also for a zero. -/
  negative : Bool
  significand : Nat
  exponent : Int
  deriving DecidableEq, Repr, Inhabited

namespace Binary64

def precision : Nat := 53

/-- The exponent of the subnormal numbers and of both zeros. -/
def leastExponent : Int := -1074

def greatestExponent : Int := 971

def zero (negative : Bool) : Binary64 := ⟨negative, 0, leastExponent⟩

def scale (exponent : Int) : Nat × Nat :=
  if exponent < 0 then (1, powerOfTwo exponent.natAbs) else (powerOfTwo exponent.natAbs, 1)

/-- The whole number nearest to a ratio, an exact half going to the even neighbour. -/
def nearestEven (numerator denominator : Nat) : Nat :=
  let below := numerator / denominator
  let twice := 2 * (numerator % denominator)
  if twice < denominator then below
  else if denominator < twice then below + 1
  else if below % 2 = 0 then below else below + 1

/-- The unit exponent that gives the ratio a significand of 53 bits, or the least exponent. -/
def unitExponent (numerator denominator : Nat) : Int :=
  let guess : Int := (numerator.log2 : Int) - (denominator.log2 : Int) - (precision - 1)
  let (up, down) := scale guess
  let fitted :=
    if numerator * down < powerOfTwo (precision - 1) * (denominator * up) then guess - 1 else guess
  max fitted leastExponent

/-- The binary64 number nearest to a positive ratio, with no bound on the exponent above. -/
def ofRatio (negative : Bool) (numerator denominator : Nat) : Binary64 :=
  if numerator = 0 then zero negative
  else
    let exponent := unitExponent numerator denominator
    let (up, down) := scale exponent
    let significand := nearestEven (numerator * down) (denominator * up)
    if significand = powerOfTwo precision then ⟨negative, powerOfTwo (precision - 1), exponent + 1⟩
    else ⟨negative, significand, exponent⟩

def ofInt (value : Int) : Binary64 := ofRatio (decide (value < 0)) value.natAbs 1

/-- The number nearest to `digits` times ten to `exponent`, or nothing when that lies beyond the
largest finite number. -/
def ofDecimal? (negative : Bool) (digits : Nat) (exponent : Int) : Option Binary64 :=
  if digits = 0 then some (zero negative)
  else
    let width : Int := (Nat.toDigits 10 digits).length
    if width + exponent > 310 then none
    else if width + exponent < -345 then some (zero negative)
    else
      let power := powerOfTen exponent.natAbs
      let value :=
        if exponent < 0 then ofRatio negative digits power else ofRatio negative (digits * power) 1
      if value.exponent > greatestExponent then none else some value

/-- A number's magnitude as a ratio of whole numbers. -/
def ratio (value : Binary64) : Nat × Nat :=
  let (up, down) := scale value.exponent
  (value.significand * up, down)

/-- The product of two numbers, or nothing when it lies beyond the largest finite number. -/
def times? (left right : Binary64) : Option Binary64 :=
  let product :=
    ofRatio (left.negative ^^ right.negative) (left.ratio.1 * right.ratio.1)
      (left.ratio.2 * right.ratio.2)
  if product.exponent > greatestExponent then none else some product

/-- A number divided by one that is not smaller than one in magnitude. -/
def dividedBy (left right : Binary64) : Binary64 :=
  ofRatio (left.negative ^^ right.negative) (left.ratio.1 * right.ratio.2)
    (left.ratio.2 * right.ratio.1)

def greatestTen : Nat := 308

def tenTo (power : Nat) : Binary64 := ofRatio false (powerOfTen power) 1

/-- A number divided so many times by the largest power of ten, until it is zero. -/
def lower : (steps : Nat) → Binary64 → Binary64
  | 0, value => value
  | steps + 1, value =>
    if value.significand = 0 then value else lower steps (value.dividedBy (tenTo greatestTen))

/-- A number times a power of ten, each step being rounded, or nothing when that lies beyond the
largest finite number. -/
def timesTen? (value : Binary64) (exponent : Int) : Option Binary64 :=
  if value.significand = 0 then some value
  else if exponent < 0 then
    let steps := (exponent.natAbs - 1) / greatestTen
    some ((lower steps value).dividedBy (tenTo (exponent.natAbs - steps * greatestTen)))
  else if (greatestTen : Int) < exponent then none
  else value.times? (tenTo exponent.toNat)

def signed (value : Binary64) : Int :=
  if value.negative then -(value.significand : Int) else value.significand

/-- The signed significand in units of a smaller exponent. -/
def unitsAt (value : Binary64) (exponent : Int) : Int :=
  value.signed * powerOfTwo (value.exponent - exponent).toNat

/-- Two numbers compare as the reals they stand for, so the two zeros are equal. -/
def order (left right : Binary64) : Ordering :=
  let common := min left.exponent right.exponent
  compare (left.unitsAt common) (right.unitsAt common)

end Binary64

end TypedSearch
