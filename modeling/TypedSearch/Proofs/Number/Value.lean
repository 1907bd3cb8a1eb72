import Mathlib.Algebra.Order.Field.Power
import Mathlib.Algebra.Order.Field.Rat
import TypedSearch.Number.Binary64

/-!
The rational numbers that binary64 numbers stand for. Comparing two binary64 numbers in the smaller one
of their units is comparing these.
-/

namespace TypedSearch.Binary64

/-- The rational number that a binary64 number is. Both zeros are the same one. -/
def toRat (value : Binary64) : ℚ := value.signed * (2 : ℚ) ^ value.exponent

/-- A number is as many units of a smaller exponent as there are. -/
theorem unitsAt_mul {value : Binary64} {exponent : ℤ} (smaller : exponent ≤ value.exponent) :
    (value.unitsAt exponent : ℚ) * 2 ^ exponent = value.toRat := by
  obtain ⟨steps, whole⟩ := Int.eq_ofNat_of_zero_le (Int.sub_nonneg.mpr smaller)
  have split : value.exponent = steps + exponent := by omega
  have power : powerOfTwo steps = 2 ^ steps := rfl
  rw [unitsAt, whole, Int.toNat_natCast, toRat, split, power, zpow_add₀ two_ne_zero, zpow_natCast]
  push_cast
  exact mul_assoc _ _ _

/-- Two numbers compare as the rational numbers that they are. -/
theorem order_eq_compare (left right : Binary64) :
    left.order right = compare left.toRat right.toRat := by
  have unit : (0 : ℚ) < 2 ^ min left.exponent right.exponent := zpow_pos two_pos _
  have scaled : StrictMono fun units : ℤ => (units : ℚ) * 2 ^ min left.exponent right.exponent :=
    fun first second less => mul_lt_mul_of_pos_right (Int.cast_lt.mpr less) unit
  rw [order, ← unitsAt_mul (min_le_left left.exponent right.exponent),
    ← unitsAt_mul (min_le_right left.exponent right.exponent), ← cmp_eq_compare,
    ← cmp_eq_compare]
  exact (scaled.cmp_map_eq _ _).symm

end TypedSearch.Binary64
