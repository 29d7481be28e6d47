import Mathlib.Algebra.BigOperators.Group.List.Basic
import Mathlib.Data.Rat.Floor
import Letterhead.Money.Amount

/-!
# Exact amounts

Rules of money run with floating-point numbers. With rational ones nothing is lost between their
steps, so what a rule does can be told from what rounding does to it.

* the instance of `Amount` for `ℚ`;
* `Amount.zero_eq_zero`, `Amount.magnitude_eq_abs`, `Amount.sum_eq_sum` — its operations are the
  usual ones.
-/

namespace Letterhead

namespace Amount

instance : Amount ℚ where
  ofNat n := n
  less x y := decide (x < y)
  atMost x y := decide (x ≤ y)
  round x := if x < 0 then -⌊-x + 1 / 2⌋ else ⌊x + 1 / 2⌋

theorem zero_eq_zero : (zero : ℚ) = 0 :=
  Nat.cast_zero

theorem less_iff {x y : ℚ} : less x y = true ↔ x < y :=
  decide_eq_true_iff

theorem magnitude_eq_abs (x : ℚ) : magnitude x = |x| := by
  unfold magnitude
  rw [zero_eq_zero]
  split
  · next hless => exact (abs_of_neg (less_iff.mp hless)).symm
  · next hless =>
    have hx : 0 ≤ x := not_lt.mp fun hx => hless (less_iff.mpr hx)
    exact (abs_of_nonneg hx).symm

/-- The zero that a sum starts from has no sign here. -/
theorem sum_eq_sum (amounts : List ℚ) : sum amounts = amounts.sum := by
  have hstart : (-zero : ℚ) = 0 := by
    rw [zero_eq_zero]
    exact neg_zero
  unfold sum
  rw [hstart]
  exact List.sum_eq_foldl.symm

end Amount

end Letterhead
