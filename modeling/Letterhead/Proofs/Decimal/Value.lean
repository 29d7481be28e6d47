import Mathlib.Algebra.Order.Field.Basic
import Mathlib.Algebra.Order.Ring.Rat
import Mathlib.Data.Nat.Cast.Field
import Mathlib.Tactic.FieldSimp
import Mathlib.Tactic.Linarith
import Mathlib.Tactic.Ring
import Letterhead.Decimal.Fixed

/-!
# Values and their rounding

A finite number of the 64-bit format is a rational number. Its hundredths are an integer nearest to
a hundred times its value, and of two as near the even one, whatever the exponent.

* `Binary.value`, `Binary.value_eq` — the value, and the same as a quotient of natural numbers;
* `IsNearest`, `IsNearest.unique` — the integer nearest to a rational number;
* `Binary.hundredths`, `Binary.isNearest_hundredths` — a value rounded to two decimals;
* `Binary.value_eq_integerPart`, `Binary.abs_value_lt` — a value is its integer part, or is small.
-/

namespace Letterhead.Decimal

/-! ### Values -/

namespace Binary

/-- The value of a finite number. -/
def value (b : Binary) : ℚ :=
  (if b.negative then -1 else 1) * (b.mantissa * 2 ^ b.exponent)

theorem denominator_pos (b : Binary) : 0 < b.denominator :=
  Nat.pow_pos (by decide)

/-- The value as a quotient. -/
theorem value_eq (b : Binary) :
    b.value = (if b.negative then -1 else 1) * (b.numerator / b.denominator) := by
  have hpow : (2 : ℚ) ^ b.exponent = 2 ^ b.exponent.toNat / 2 ^ (-b.exponent).toNat := by
    rcases le_total 0 b.exponent with h | h
    · rw [Int.toNat_of_nonpos (Int.neg_nonpos_of_nonneg h), pow_zero, div_one, ← zpow_natCast,
        Int.toNat_of_nonneg h]
    · rw [Int.toNat_of_nonpos h, pow_zero, one_div, ← zpow_natCast,
        Int.toNat_of_nonneg (Int.neg_nonneg_of_nonpos h), zpow_neg, inv_inv]
  have hnumerator : (b.numerator : ℚ) = b.mantissa * 2 ^ b.exponent.toNat := by
    unfold numerator
    rw [Nat.pow_eq, Nat.cast_mul, Nat.cast_pow, Nat.cast_ofNat]
  have hdenominator : (b.denominator : ℚ) = 2 ^ (-b.exponent).toNat := by
    unfold denominator
    rw [Nat.pow_eq, Nat.cast_pow, Nat.cast_ofNat]
  unfold value
  rw [hpow, hnumerator, hdenominator, mul_div_assoc]

end Binary

/-! ### Rounding -/

/-- Whether an integer is the one nearest to a number, of two as near the even one. -/
structure IsNearest (y : ℚ) (n : ℤ) : Prop where
  within : |y - n| ≤ 1 / 2
  even : |y - n| = 1 / 2 → Even n

/-- **There is but one nearest integer.** Two could only lie on either side of a half, and then one
of them is odd. -/
theorem IsNearest.unique {y : ℚ} {m n : ℤ} (hm : IsNearest y m) (hn : IsNearest y n) : m = n := by
  by_contra hne
  -- without loss of generality, as both are alike
  wlog hlt : m < n generalizing m n
  · exact this hn hm (Ne.symm hne) (lt_of_le_of_ne (not_lt.mp hlt) (Ne.symm hne))
  obtain ⟨hmlow, hmhigh⟩ := abs_le.mp hm.within
  obtain ⟨hnlow, hnhigh⟩ := abs_le.mp hn.within
  have hstep : (m : ℚ) + 1 ≤ n := by exact_mod_cast hlt
  have hsucc : n = m + 1 := by
    have hupper : (n : ℚ) ≤ m + 1 := by linarith
    exact le_antisymm (by exact_mod_cast hupper) (by exact_mod_cast hstep)
  have hmeven : Even m := by
    refine hm.even ?_
    have hdist : y - m = 1 / 2 := by linarith
    rw [hdist, abs_of_pos one_half_pos]
  have hneven : Even n := by
    refine hn.even ?_
    have hdist : y - n = -(1 / 2) := by linarith
    rw [hdist, abs_neg, abs_of_pos one_half_pos]
  rw [hsucc] at hneven
  exact (Int.not_even_iff_odd.mpr hmeven.add_one) hneven

theorem IsNearest.neg {y : ℚ} {n : ℤ} (h : IsNearest y n) : IsNearest (-y) (-n) := by
  have hdist : |-y - ((-n : ℤ) : ℚ)| = |y - n| := by
    rw [Int.cast_neg, ← abs_neg]
    congr 1
    ring
  exact ⟨hdist.le.trans h.within, fun heq => (h.even (hdist.symm.trans heq)).neg⟩

/-- An integer is nearest to itself. -/
theorem isNearest_intCast (n : ℤ) : IsNearest n n := by
  have hzero : |(n : ℚ) - n| = 0 := by rw [sub_self, abs_zero]
  refine ⟨?_, fun heq => ?_⟩
  · rw [hzero]
    exact one_half_pos.le
  · rw [hzero] at heq
    exact absurd heq.symm one_half_pos.ne'

/-- The distance of an integer to a quotient, in parts of twice the divisor. -/
theorem isNearest_div {n m : ℤ} {d : ℕ} (hd : 0 < d) (hwithin : |2 * (n - m * d)| ≤ d)
    (heven : |2 * (n - m * d)| = d → Even m) : IsNearest ((n : ℚ) / d) m := by
  have hpos : (0 : ℚ) < d := by exact_mod_cast hd
  have hdist : |(n : ℚ) / d - m| = ((|2 * (n - m * d)| : ℤ) : ℚ) / (2 * d) := by
    have hparts : (n : ℚ) / d - m = (2 * (n - m * d)) / (2 * d) := by
      field_simp
    rw [hparts, abs_div, abs_of_pos (mul_pos two_pos hpos)]
    push_cast
    rfl
  constructor
  · rw [hdist, div_le_div_iff₀ (mul_pos two_pos hpos) two_pos]
    have hcast : ((|2 * (n - m * d)| : ℤ) : ℚ) ≤ d := by exact_mod_cast hwithin
    linarith
  · intro heq
    rw [hdist, div_eq_div_iff (mul_pos two_pos hpos).ne' two_ne_zero] at heq
    have hcast : ((|2 * (n - m * d)| : ℤ) : ℚ) = d := by linarith
    exact heven (by exact_mod_cast hcast)

/-- **The rounded quotient is nearest to the quotient.** -/
theorem isNearest_roundQuotient (n : ℕ) {d : ℕ} (h : 0 < d) :
    IsNearest ((n : ℚ) / d) (roundQuotient n d : ℤ) := by
  have hlt : n % d < d := Nat.mod_lt n h
  -- the integer below is as far off as the remainder is great, the one above lacks the rest
  have hbelow : (n : ℤ) - (n / d : ℕ) * d = (n % d : ℕ) := by
    have hsplit : ((n / d : ℕ) : ℤ) * d + (n % d : ℕ) = n := by exact_mod_cast Nat.div_add_mod' n d
    linarith
  have habove : (n : ℤ) - (n / d + 1 : ℕ) * d = -((d : ℤ) - (n % d : ℕ)) := by
    push_cast at hbelow ⊢
    linarith
  have hdown : |2 * ((n : ℤ) - (n / d : ℕ) * d)| = 2 * (n % d : ℕ) := by
    rw [hbelow, abs_of_nonneg]
    omega
  have hup : |2 * ((n : ℤ) - (n / d + 1 : ℕ) * d)| = 2 * ((d : ℤ) - (n % d : ℕ)) := by
    rw [habove, mul_neg, abs_neg, abs_of_nonneg]
    omega
  have hcast : ((n : ℤ) : ℚ) = n := Int.cast_natCast n
  rw [← hcast]
  unfold roundQuotient
  dsimp only
  split
  case isTrue hless =>
    exact isNearest_div h (by omega) fun heq => by omega
  case isFalse hge =>
    split
    case isTrue hmore =>
      exact isNearest_div h (by omega) fun heq => by omega
    case isFalse hle =>
      split
      case isTrue hparity =>
        have heven : Even (n / d) := Nat.even_iff.mpr hparity
        exact isNearest_div h (by omega) fun _ => (Int.even_coe_nat _).mpr heven
      case isFalse hparity =>
        refine isNearest_div h (by omega) fun _ => (Int.even_coe_nat _).mpr ?_
        rw [Nat.even_iff]
        omega

namespace Binary

/-! ### Two decimals -/

/-- A value rounded to hundredths. -/
def hundredths (b : Binary) : ℤ :=
  if b.negative then -b.scaled 2 else b.scaled 2

theorem hundredths_nonneg {b : Binary} (h : b.negative = false) : 0 ≤ b.hundredths := by
  unfold hundredths
  rw [h, if_neg Bool.false_ne_true]
  exact Int.natCast_nonneg _

theorem hundredths_nonpos {b : Binary} (h : b.negative = true) : b.hundredths ≤ 0 := by
  unfold hundredths
  rw [h, if_pos rfl]
  exact Int.neg_nonpos_of_nonneg (Int.natCast_nonneg _)

/-- **Hundredths are rounded from the exact value.** -/
theorem isNearest_hundredths (b : Binary) : IsNearest (100 * b.value) b.hundredths := by
  have hscaled : IsNearest (100 * ((b.numerator : ℚ) / b.denominator)) (b.scaled 2 : ℤ) := by
    have hnearest := isNearest_roundQuotient (b.numerator * Nat.pow 10 2) b.denominator_pos
    have hquotient : ((b.numerator * Nat.pow 10 2 : ℕ) : ℚ) / b.denominator =
        100 * ((b.numerator : ℚ) / b.denominator) := by
      rw [Nat.pow_eq]
      push_cast
      ring
    rw [hquotient] at hnearest
    exact hnearest
  rw [value_eq]
  unfold hundredths
  cases b.negative with
  | false =>
    rw [if_neg Bool.false_ne_true, if_neg Bool.false_ne_true, one_mul]
    exact hscaled
  | true =>
    rw [if_pos rfl, if_pos rfl, neg_one_mul, mul_neg]
    exact hscaled.neg

/-- They are zero up to half of one. -/
theorem hundredths_eq_zero_iff (b : Binary) : b.hundredths = 0 ↔ |b.value| ≤ 1 / 200 := by
  have hscale : |100 * b.value - ((0 : ℤ) : ℚ)| = 100 * |b.value| := by
    rw [Int.cast_zero, sub_zero, abs_mul, abs_of_pos (by norm_num)]
  constructor
  · intro hzero
    have hwithin := b.isNearest_hundredths.within
    rw [hzero, hscale] at hwithin
    linarith
  · intro hsmall
    refine b.isNearest_hundredths.unique ⟨?_, fun _ => Even.zero⟩
    rw [hscale]
    linarith

/-! ### Integers -/

/-- An integer is its integer part. -/
theorem value_eq_integerPart {b : Binary} (h : b.isIntegral = true) : b.value = b.integerPart := by
  have hdvd : b.denominator ∣ b.numerator := Nat.dvd_of_mod_eq_zero (beq_iff_eq.mp h)
  have hquotient : (b.numerator : ℚ) / b.denominator = ((b.numerator / b.denominator : ℕ) : ℚ) := by
    rw [Nat.cast_div hdvd]
    exact_mod_cast b.denominator_pos.ne'
  rw [value_eq, hquotient]
  unfold integerPart
  cases b.negative with
  | false => simp only [Bool.false_eq_true, if_false, one_mul, Int.cast_natCast]
  | true => simp only [if_true, neg_one_mul, Int.cast_neg, Int.cast_natCast]

/-- Nothing of it is rounded. -/
theorem hundredths_of_isIntegral {b : Binary} (h : b.isIntegral = true) :
    b.hundredths = 100 * b.integerPart := by
  have hnearest := b.isNearest_hundredths
  rw [value_eq_integerPart h] at hnearest
  refine hnearest.unique ?_
  have hexact := isNearest_intCast (100 * b.integerPart)
  push_cast at hexact
  exact hexact

/-- The mantissa of a number of the 64-bit format has 53 bits. -/
theorem mantissa_lt {x : Float} {b : Binary} (h : ofFloat x = some b) : b.mantissa < 2 ^ 53 := by
  unfold ofFloat ofPattern at h
  have hfraction : x.toBits.toNat % Nat.pow 2 52 < 2 ^ 52 := Nat.mod_lt _ (by decide)
  have htwice : 2 ^ 52 + 2 ^ 52 = 2 ^ 53 := by decide
  dsimp only at h
  split at h
  · cases h
  · split at h <;> cases h
    · dsimp only
      omega
    · dsimp only
      rw [Nat.pow_eq] at *
      omega

/-- A number with a fraction is less than its mantissa. -/
theorem abs_value_lt {x : Float} {b : Binary} (h : ofFloat x = some b)
    (hfraction : b.isIntegral = false) : |b.value| < 2 ^ 53 := by
  have hexponent : b.exponent.toNat = 0 := by
    by_contra hpos
    have hdenominator : b.denominator = 1 := by
      unfold denominator
      rw [Int.toNat_of_nonpos (by omega)]
    unfold isIntegral at hfraction
    rw [hdenominator, Nat.mod_one] at hfraction
    cases hfraction
  have hnumerator : b.numerator = b.mantissa := by
    unfold numerator
    rw [hexponent]
    exact Nat.mul_one _
  have habs : |b.value| = (b.numerator : ℚ) / b.denominator := by
    rw [value_eq, abs_mul, abs_of_nonneg (a := (b.numerator : ℚ) / b.denominator)]
    · cases b.negative <;> simp
    · exact div_nonneg (Nat.cast_nonneg _) (Nat.cast_nonneg _)
  calc |b.value| = (b.numerator : ℚ) / b.denominator := habs
    _ ≤ b.numerator := div_le_self (Nat.cast_nonneg _) (by exact_mod_cast b.denominator_pos)
    _ = b.mantissa := by rw [hnumerator]
    _ < 2 ^ 53 := by exact_mod_cast mantissa_lt h

/-- What is not negative in sign is not negative. -/
theorem value_nonneg {b : Binary} (h : b.negative = false) : 0 ≤ b.value := by
  rw [value_eq, h, if_neg Bool.false_ne_true, one_mul]
  exact div_nonneg (Nat.cast_nonneg _) (Nat.cast_nonneg _)

/-- What is negative in sign and has a fraction is negative. -/
theorem value_neg {b : Binary} (h : b.negative = true) (hfraction : b.isIntegral = false) :
    b.value < 0 := by
  have hnumerator : b.numerator ≠ 0 := by
    intro hzero
    unfold isIntegral at hfraction
    rw [hzero, Nat.zero_mod] at hfraction
    cases hfraction
  have hpos : (0 : ℚ) < b.numerator / b.denominator :=
    div_pos (by exact_mod_cast Nat.pos_of_ne_zero hnumerator) (by exact_mod_cast b.denominator_pos)
  rw [value_eq, h, if_pos rfl, neg_one_mul]
  exact neg_neg_of_pos hpos

end Binary

end Letterhead.Decimal
