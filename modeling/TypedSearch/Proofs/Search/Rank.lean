import Mathlib.Data.String.Basic
import TypedSearch.Proofs.Number.Value
import TypedSearch.Search.Field

/-!
What values are sorted by. A target ranks a value by its exact-value form or by the number, the text or
the truth value that it is, and two values are compared as their ranks are, if both have one and these
are of one kind.
-/

namespace TypedSearch

/-- What a value is sorted by. -/
inductive Rank where
  | number (value : ℚ)
  | text (value : String)
  | truth (value : Bool)

namespace Rank

/-- A rank is below another one of its kind. -/
inductive Below : Rank → Rank → Prop where
  | number {low high : ℚ} (less : low < high) : Below (.number low) (.number high)
  | text {low high : String} (less : low < high) : Below (.text low) (.text high)
  | truth : Below (.truth false) (.truth true)

theorem Below.trans {first second third : Rank} (low : Below first second)
    (high : Below second third) : Below first third := by
  cases low with
  | number less =>
    cases high with
    | number more => exact .number (less.trans more)
  | text less =>
    cases high with
    | text more => exact .text (less.trans more)
  | truth => cases high

/-- The order of two ranks of one kind. -/
def order? : Rank → Rank → Option Ordering
  | .number left, .number right => some (compare left right)
  | .text left, .text right => some (compare left right)
  | .truth left, .truth right => some (compare left right)
  | _, _ => none

theorem order?_swap (left right : Rank) :
    right.order? left = (left.order? right).map Ordering.swap := by
  cases left with
  | number low =>
    cases right with
    | number high => exact congrArg some Std.OrientedOrd.eq_swap
    | text | truth => rfl
  | text low =>
    cases right with
    | text high => exact congrArg some Std.OrientedOrd.eq_swap
    | number | truth => rfl
  | truth low =>
    cases right with
    | truth high => exact congrArg some Std.OrientedOrd.eq_swap
    | number | text => rfl

theorem order?_eq_lt_iff {left right : Rank} :
    left.order? right = some .lt ↔ Below left right := by
  constructor
  · intro less
    cases left with
    | number low =>
      cases right with
      | number high => exact .number (compare_lt_iff_lt.mp (Option.some.inj less))
      | text | truth => cases less
    | text low =>
      cases right with
      | text high => exact .text (compare_lt_iff_lt.mp (Option.some.inj less))
      | number | truth => cases less
    | truth low =>
      cases right with
      | truth high =>
        cases low <;> cases high
        case false.true => exact .truth
        all_goals cases less
      | number | text => cases less
  · intro below
    cases below with
    | number less => exact congrArg some (compare_lt_iff_lt.mpr less)
    | text less => exact congrArg some (compare_lt_iff_lt.mpr less)
    | truth => rfl

theorem order?_eq_eq_iff {left right : Rank} :
    left.order? right = some .eq ↔ left = right := by
  cases left <;> cases right <;> simp [order?]

theorem order?_eq_gt_iff {left right : Rank} :
    left.order? right = some .gt ↔ Below right left := by
  rw [order?_swap, Option.map_eq_some_iff, ← order?_eq_lt_iff]
  constructor
  · rintro ⟨order, reversed, same⟩
    rw [Ordering.swap_eq_gt] at same
    rw [reversed, same]
  · intro less
    exact ⟨.lt, less, rfl⟩

end Rank

namespace Target

/-- What a target sorts a value by: its exact-value form or the value itself. Lists and objects have
neither. -/
def rank? : Target → Json → Option Rank
  | keyword _, value => value.keywordForm?.map .text
  | _, .number value => some (.number value.toBinary64.toRat)
  | _, .string value => some (.text value)
  | _, .bool value => some (.truth value)
  | _, _ => none

/-- Two values are ordered by their ranks, if both have one. -/
theorem order?_eq_ranks (target : Target) (value other : Json) :
    target.order? value other =
      (target.rank? value).bind fun left => (target.rank? other).bind left.order? := by
  cases target with
  | keyword path =>
    rw [order?, rank?, rank?]
    cases value.keywordForm? with
    | none => rfl
    | some left => cases other.keywordForm? <;> rfl
  | text path | plain path =>
    cases value <;> cases other <;>
      simp [order?, Json.order?, rank?, Rank.order?, Binary64.order_eq_compare]

theorem order?_eq_some_iff {target : Target} {value other : Json} {order : Ordering} :
    target.order? value other = some order ↔
      ∃ left right, target.rank? value = some left ∧ target.rank? other = some right ∧
        left.order? right = some order := by
  simp only [order?_eq_ranks, Option.bind_eq_some_iff, exists_and_left]

theorem order?_swap (target : Target) (value other : Json) :
    target.order? other value = (target.order? value other).map Ordering.swap := by
  rw [order?_eq_ranks, order?_eq_ranks]
  cases target.rank? value with
  | none => cases target.rank? other <;> rfl
  | some left =>
    cases target.rank? other with
    | none => rfl
    | some right => exact Rank.order?_swap left right

end Target

end TypedSearch
