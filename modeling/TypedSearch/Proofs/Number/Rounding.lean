import TypedSearch.Proofs.Number.Value
import Mathlib.Data.Int.Order.Lemmas
import Mathlib.Tactic.Ring

/-!
Whole numbers as binary64 numbers. A whole number becomes the nearest one that has 53 significant bits, a
half going to the even neighbour. Rounding keeps the order of numbers, though not always strictly, and it
changes nothing up to two to the 53rd.
-/

namespace TypedSearch.Binary64

variable {denominator : Nat}

theorem nearestEven_mul (count : Nat) (positive : 0 < denominator) :
    nearestEven (count * denominator) denominator = count := by
  have whole : count * denominator / denominator = count := Nat.mul_div_cancel count positive
  have rest : count * denominator % denominator = 0 := Nat.mul_mod_left count denominator
  simp [nearestEven, whole, rest, positive]

/-- A ratio lies between the whole numbers that it may be rounded to. -/
theorem nearestEven_bounds (numerator denominator : Nat) :
    numerator / denominator ≤ nearestEven numerator denominator ∧
      nearestEven numerator denominator ≤ numerator / denominator + 1 := by
  unfold nearestEven
  dsimp only
  split_ifs <;> omega

theorem nearestEven_mono {low high : Nat} (order : low ≤ high) :
    nearestEven low denominator ≤ nearestEven high denominator := by
  have quotients : low / denominator ≤ high / denominator := Nat.div_le_div_right order
  by_cases same : low / denominator = high / denominator
  · -- With the same whole part, the one with the greater rest is rounded up first.
    have lowParts := Nat.div_add_mod low denominator
    have highParts := Nat.div_add_mod high denominator
    rw [same] at lowParts
    have rests : low % denominator ≤ high % denominator := by omega
    unfold nearestEven
    rw [same]
    dsimp only
    split_ifs <;> omega
  · have above := (nearestEven_bounds low denominator).2
    have below := (nearestEven_bounds high denominator).1
    omega

/-- The unit of the last of 53 significant bits of a number; for smaller numbers it is one. -/
def wholeUnit (value : Nat) : Nat := 2 ^ (value.log2 - 52)

/-- A number rounded to 53 significant bits. -/
def roundedMagnitude (value : Nat) : Nat := nearestEven value (wholeUnit value) * wholeUnit value

/-- A whole number rounded to 53 significant bits, a half to the even neighbour. -/
def rounded (value : Int) : Int := value.sign * roundedMagnitude value.natAbs

theorem wholeUnit_pos (value : Nat) : 0 < wholeUnit value := Nat.two_pow_pos _

/-- A power of two with at least the length of a number consists of the unit of the number. -/
theorem pow_eq_units {value exponent : Nat} (long : value.log2 ≤ exponent) :
    2 ^ exponent = 2 ^ (exponent - (value.log2 - 52)) * wholeUnit value := by
  have split : exponent = exponent - (value.log2 - 52) + (value.log2 - 52) := by omega
  rw [wholeUnit, ← Nat.pow_add, ← split]

/-- Rounding keeps a number at the power of two that it starts with. -/
theorem le_roundedMagnitude {value : Nat} (nonzero : value ≠ 0) :
    2 ^ value.log2 ≤ roundedMagnitude value := by
  have units := pow_eq_units (le_refl value.log2)
  have below : 2 ^ value.log2 ≤ value := Nat.log2_self_le nonzero
  have order : nearestEven (2 ^ value.log2) (wholeUnit value) ≤ nearestEven value (wholeUnit value) :=
    nearestEven_mono below
  rw [units, nearestEven_mul _ (wholeUnit_pos value)] at order
  rw [units]
  exact Nat.mul_le_mul_right _ order

/-- Rounding takes a number at most to the next power of two. -/
theorem roundedMagnitude_le (value : Nat) : roundedMagnitude value ≤ 2 ^ (value.log2 + 1) := by
  have units := pow_eq_units (Nat.le_succ value.log2)
  have above : value ≤ 2 ^ (value.log2 + 1) := Nat.lt_log2_self.le
  have order : nearestEven value (wholeUnit value) ≤
      nearestEven (2 ^ (value.log2 + 1)) (wholeUnit value) := nearestEven_mono above
  rw [units, nearestEven_mul _ (wholeUnit_pos value)] at order
  rw [units]
  exact Nat.mul_le_mul_right _ order

theorem roundedMagnitude_of_le {value : Nat} (small : value ≤ 2 ^ 53) :
    roundedMagnitude value = value := by
  by_cases top : value = 2 ^ 53
  · subst top
    decide
  · have short : value.log2 - 52 = 0 := by
      by_cases zero : value = 0
      · simp [zero]
      · have bits : value.log2 < 53 := (Nat.log2_lt zero).mpr (by omega)
        omega
    have unit : wholeUnit value = 1 := by rw [wholeUnit, short, Nat.pow_zero]
    have exact := nearestEven_mul value Nat.one_pos
    rw [Nat.mul_one] at exact
    rw [roundedMagnitude, unit, exact, Nat.mul_one]

theorem roundedMagnitude_mono : Monotone roundedMagnitude := by
  intro low high order
  by_cases zero : low = 0
  · subst zero
    exact Nat.zero_le _
  · by_cases same : low.log2 = high.log2
    · have units : wholeUnit low = wholeUnit high := by rw [wholeUnit, wholeUnit, same]
      rw [roundedMagnitude, roundedMagnitude, units]
      exact Nat.mul_le_mul_right _ (nearestEven_mono order)
    · have nonzero : high ≠ 0 := by omega
      have longer : low.log2 + 1 ≤ high.log2 := by
        have shorter : low.log2 ≤ high.log2 :=
          (Nat.le_log2 nonzero).mpr ((Nat.log2_self_le zero).trans order)
        omega
      calc roundedMagnitude low
        _ ≤ 2 ^ (low.log2 + 1) := roundedMagnitude_le low
        _ ≤ 2 ^ high.log2 := Nat.pow_le_pow_right Nat.two_pos longer
        _ ≤ roundedMagnitude high := le_roundedMagnitude nonzero

theorem rounded_neg (value : Int) : rounded (-value) = -rounded value := by
  rw [rounded, rounded, Int.sign_neg, Int.natAbs_neg, Int.neg_mul]

theorem rounded_natCast (value : Nat) : rounded value = roundedMagnitude value := by
  cases value with
  | zero => rfl
  | succ value =>
    have sign : ((value + 1 : Nat) : Int).sign = 1 := Int.sign_eq_one_of_pos (by omega)
    rw [rounded, sign, Int.natAbs_natCast, Int.one_mul]

/-- Rounding never exchanges two numbers. -/
theorem rounded_mono {low high : Int} (order : low ≤ high) : rounded low ≤ rounded high := by
  obtain ⟨first, rfl | rfl⟩ := low.eq_nat_or_neg
  · obtain ⟨second, rfl⟩ := Int.eq_ofNat_of_zero_le ((Int.natCast_nonneg first).trans order)
    rw [rounded_natCast, rounded_natCast]
    exact Int.ofNat_le.mpr (roundedMagnitude_mono (Int.ofNat_le.mp order))
  · obtain ⟨second, rfl | rfl⟩ := high.eq_nat_or_neg
    · rw [rounded_neg, rounded_natCast, rounded_natCast]
      omega
    · have magnitudes : second ≤ first := by omega
      have ordered := roundedMagnitude_mono magnitudes
      rw [rounded_neg, rounded_neg, rounded_natCast, rounded_natCast]
      omega

/-- Up to two to the 53rd every whole number is a binary64 number. -/
theorem rounded_of_natAbs_le {value : Int} (small : value.natAbs ≤ 2 ^ 53) : rounded value = value := by
  rw [rounded, roundedMagnitude_of_le small, Int.sign_mul_natAbs]

/-- The last of 53 significant bits of a whole number may stand behind the point. -/
theorem unitExponent_whole {value : Nat} (nonzero : value ≠ 0) :
    unitExponent value 1 = value.log2 - 52 := by
  have below : 2 ^ value.log2 ≤ value := Nat.log2_self_le nonzero
  have guess : (value.log2 : Int) - (Nat.log2 1 : Int) - ((precision : Int) - 1) = value.log2 - 52 := by
    have one : Nat.log2 1 = 0 := rfl
    rw [one, precision]
    omega
  unfold unitExponent
  dsimp only
  rw [guess, scale, leastExponent]
  by_cases short : (value.log2 : Int) - 52 < 0
  · have fits : powerOfTwo (precision - 1) ≤ value * powerOfTwo ((value.log2 : Int) - 52).natAbs := by
      have places : value.log2 + ((value.log2 : Int) - 52).natAbs = 52 := by omega
      calc 2 ^ 52
        _ = 2 ^ value.log2 * 2 ^ ((value.log2 : Int) - 52).natAbs := by rw [← Nat.pow_add, places]
        _ ≤ value * 2 ^ ((value.log2 : Int) - 52).natAbs := Nat.mul_le_mul_right _ below
    simp only [if_pos short, Nat.mul_one, if_neg (Nat.not_lt.mpr fits)]
    omega
  · have fits : powerOfTwo (precision - 1) * powerOfTwo ((value.log2 : Int) - 52).natAbs ≤ value := by
      have places : 52 + ((value.log2 : Int) - 52).natAbs = value.log2 := by omega
      calc 2 ^ 52 * 2 ^ ((value.log2 : Int) - 52).natAbs
        _ = 2 ^ value.log2 := by rw [← Nat.pow_add, places]
        _ ≤ value := below
    simp only [if_neg short, Nat.mul_one, Nat.one_mul, if_neg (Nat.not_lt.mpr fits)]
    omega

/-- A number is its magnitude with its sign. -/
theorem toRat_eq (negative : Bool) (significand : Nat) (exponent : Int) :
    toRat ⟨negative, significand, exponent⟩ =
      (if negative then -1 else 1) * ((significand : ℚ) * 2 ^ exponent) := by
  cases negative <;> simp [toRat, signed]

/-- A significand that was rounded up to one more bit is written with the next exponent. -/
theorem toRat_carried (negative : Bool) (exponent : Int) :
    toRat ⟨negative, powerOfTwo (precision - 1), exponent + 1⟩ =
      toRat ⟨negative, powerOfTwo precision, exponent⟩ := by
  have half : powerOfTwo precision = powerOfTwo (precision - 1) * 2 := rfl
  have next : (2 : ℚ) ^ (exponent + 1) = 2 * 2 ^ exponent := by
    rw [zpow_add₀ two_ne_zero, zpow_one, mul_comm]
  rw [toRat_eq, toRat_eq, half, next, Nat.cast_mul, Nat.cast_ofNat, mul_assoc]

/-- A whole number is rounded in units of its last significant bit, wherever that stands. -/
theorem significand_whole (value : Nat) :
    (nearestEven (value * (scale (value.log2 - 52)).2) (1 * (scale (value.log2 - 52)).1) : ℚ) *
      2 ^ ((value.log2 : Int) - 52) = roundedMagnitude value := by
  by_cases short : (value.log2 : Int) - 52 < 0
  · obtain ⟨count, places⟩ := Int.eq_ofNat_of_zero_le (show 0 ≤ 52 - (value.log2 : Int) by omega)
    have exponent : (value.log2 : Int) - 52 = -count := by omega
    have scaled : scale ((value.log2 : Int) - 52) = (1, 2 ^ count) := by
      rw [scale, if_pos short, exponent, Int.natAbs_neg, Int.natAbs_natCast]
      rfl
    have whole := nearestEven_mul (value * 2 ^ count) Nat.one_pos
    have small : value ≤ 2 ^ 53 := by
      have above : value < 2 ^ (value.log2 + 1) := Nat.lt_log2_self
      have bits : 2 ^ (value.log2 + 1) ≤ 2 ^ 53 := Nat.pow_le_pow_right Nat.two_pos (by omega)
      omega
    have power : (2 : ℚ) ^ count ≠ 0 := pow_ne_zero count two_ne_zero
    rw [Nat.mul_one] at whole
    rw [scaled, exponent, Nat.one_mul, whole, roundedMagnitude_of_le small, zpow_neg, zpow_natCast]
    push_cast
    exact mul_inv_cancel_right₀ power (value : ℚ)
  · obtain ⟨count, places⟩ := Int.eq_ofNat_of_zero_le (show 0 ≤ (value.log2 : Int) - 52 by omega)
    have scaled : scale ((value.log2 : Int) - 52) = (2 ^ count, 1) := by
      rw [scale, if_neg short, places, Int.natAbs_natCast]
      rfl
    have unit : wholeUnit value = 2 ^ count := by
      have bits : value.log2 - 52 = count := by omega
      rw [wholeUnit, bits]
    rw [scaled, places, Nat.mul_one, Nat.one_mul, zpow_natCast, roundedMagnitude, unit]
    push_cast
    rfl

/-- Making a binary64 number of a whole number is rounding it. -/
theorem toRat_ofInt (value : Int) : (ofInt value).toRat = rounded value := by
  by_cases zero : value = 0
  · subst zero
    simp [ofInt, ofRatio, Binary64.zero, toRat, signed, rounded]
  · have nonzero : value.natAbs ≠ 0 := Int.natAbs_ne_zero.mpr zero
    have sign : (value.sign : ℚ) = if decide (value < 0) then -1 else 1 := by
      by_cases below : value < 0
      · simp [below, Int.sign_eq_neg_one_of_neg below]
      · have above : 0 < value := by omega
        simp [below, Int.sign_eq_one_of_pos above]
    have whole := significand_whole value.natAbs
    rw [ofInt, ofRatio, if_neg nonzero, unitExponent_whole nonzero, rounded, Int.cast_mul, sign,
      Int.cast_natCast, ← whole, ← toRat_eq]
    dsimp only
    split
    next carried => rw [toRat_carried, ← carried]
    next => rfl

end TypedSearch.Binary64
