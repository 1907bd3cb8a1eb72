import TypedSearch.Number.Binary64

/-!
The shortest decimal that reads back as a binary64 number. For one digit, two digits and so on the
two neighbours of the number on that decimal grid are tested against the interval of reals that
round to the number; the first grid with a hit gives the answer, and the nearer of two hits wins.
That the JSON library prints these digits is assumed.
-/

namespace TypedSearch

namespace Binary64

/-- A decimal: a whole number of units of a power of ten. -/
structure Decimal where
  /-- The digits, read as one whole number. -/
  digits : Nat
  exponent : Int
  deriving DecidableEq, Repr

/-- The reals that round to a magnitude, as whole numbers of one common unit. Both ends belong to
the interval exactly when the significand is even. -/
structure Interval where
  /-- The lower end, in numerator units. -/
  low : Nat
  middle : Nat
  high : Nat
  denominator : Nat
  closed : Bool
  deriving Repr

/-- The rounding interval of a nonzero number: half a unit to either side, a quarter below when the
next smaller number has a smaller unit. -/
def interval (value : Binary64) : Interval :=
  let unit := scale (value.exponent - 2)
  let narrow := value.significand = powerOfTwo (precision - 1) ∧ leastExponent < value.exponent
  { low := (4 * value.significand - (if narrow then 1 else 2)) * unit.1
    middle := 4 * value.significand * unit.1
    high := (4 * value.significand + 2) * unit.1
    denominator := unit.2
    closed := value.significand % 2 == 0 }

/-- The power of ten of the leading digit of a positive ratio. -/
def leadingExponent (numerator denominator : Nat) : Int :=
  if denominator ≤ numerator then (Nat.toDigits 10 (numerator / denominator)).length - 1
  else
    let inverse := (denominator + numerator - 1) / numerator
    Int.negOfNat (Nat.toDigits 10 (inverse - 1)).length

/-- Whether a decimal unit count lies in the interval, `up / down` being the decimal unit. -/
def Interval.holds (range : Interval) (up down candidate : Nat) : Bool :=
  let point := candidate * up * range.denominator
  if range.closed then range.low * down ≤ point && point ≤ range.high * down
  else range.low * down < point && point < range.high * down

/-- The neighbour of the magnitude on the grid of `10 ^ exponent` that lies in the interval, the
nearer one if both do and the even one if they are equally near. -/
def Interval.onGrid? (range : Interval) (exponent : Int) : Option Nat :=
  let power := powerOfTen exponent.natAbs
  let (up, down) := if exponent < 0 then (1, power) else (power, 1)
  let unit := up * range.denominator
  let total := range.middle * down
  let below := total / unit
  let rest := total % unit
  match range.holds up down below, range.holds up down (below + 1) with
  | true, true =>
    if 2 * rest < unit then some below
    else if unit < 2 * rest then some (below + 1)
    else if below % 2 = 0 then some below else some (below + 1)
  | true, false => some below
  | false, true => some (below + 1)
  | false, false => none

/-- The first grid with a hit, from `count` digits on, trying as many grids as `remaining` says. -/
def Interval.firstGrid (range : Interval) (leading : Int) : (remaining count : Nat) → Decimal
  | 0, _ => ⟨0, 0⟩
  | remaining + 1, count =>
    let exponent := leading + 1 - (count : Int)
    match range.onGrid? exponent with
    | some digits => ⟨digits, exponent⟩
    | none => range.firstGrid leading remaining (count + 1)

/-- The shortest decimal that rounds to the magnitude. Seventeen digits always suffice. -/
def shortest (value : Binary64) : Decimal :=
  if value.significand = 0 then ⟨0, 0⟩
  else
    let range := value.interval
    range.firstGrid (leadingExponent range.middle range.denominator) 17 1

end Binary64

end TypedSearch
