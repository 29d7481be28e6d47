import Mathlib.Algebra.Order.Field.Power
import Mathlib.Algebra.Order.Floor.Semifield
import Mathlib.Data.Rat.Floor
import Mathlib.Order.Compare
import Mathlib.Tactic.Positivity
import Letterhead.Decimal.Shortest
import Letterhead.Proofs.Decimal.Value

/-!
# The shortest decimal names one number

The reals that round to a number of the 32-bit format are an interval around it, which has its ends
if the mantissa is even. Intervals of different numbers have no real in common: they meet at most in
an end, and then one of the two mantissas is odd. A grid of powers of ten that is fine enough has a
point in each of them, and the grids that are tried come that far. So every number has a decimal that
reads back as it, and as nothing else.

* `compareScaled_eq` — decimals and binary numbers compared as rational numbers;
* `Binary.RoundsTo`, `Binary.readsBack_iff` — the interval, and that it is what is tested;
* `Binary.IsSingle`, `Binary.RoundsTo.unique` — the numbers of the format, and their intervals;
* `Binary.roundsTo_shortest` — the shortest decimal reads back;
* `Binary.eq_of_shortestValue_eq` — numbers with one shortest decimal are one number.
-/

namespace Letterhead.Decimal

/-! ### Exact comparison -/

/-- The number that a decimal is. -/
def Digits.value (d : Digits) : ℚ :=
  d.digits * 10 ^ d.exponent

/-- A power as a quotient of natural powers, of which one is trivial. -/
theorem zpow_eq_div {a : ℚ} (ha : a ≠ 0) (i : ℤ) : a ^ i = a ^ i.toNat / a ^ (-i).toNat := by
  have hsplit : i = (i.toNat : ℤ) - ((-i).toNat : ℤ) := by omega
  conv_lhs => rw [hsplit]
  rw [zpow_sub₀ ha, zpow_natCast, zpow_natCast]

/-- **Decimals and binary numbers are compared as rational numbers.** -/
theorem compareScaled_eq (a : ℕ) (i : ℤ) (n : ℕ) (j : ℤ) :
    compareScaled a i n j = compare ((a : ℚ) * 10 ^ i) (n * 2 ^ j) := by
  have hten : (0 : ℚ) < 10 ^ (-i).toNat := pow_pos (by norm_num) _
  have htwo : (0 : ℚ) < 2 ^ (-j).toNat := pow_pos (by norm_num) _
  -- both sides times the powers that make them integers
  have hscale : StrictMono fun q : ℚ => q * (10 ^ (-i).toNat * 2 ^ (-j).toNat) :=
    strictMono_mul_right_of_pos (mul_pos hten htwo)
  have hleft : (a : ℚ) * 10 ^ i * (10 ^ (-i).toNat * 2 ^ (-j).toNat) =
      ((a * Nat.pow 10 i.toNat * Nat.pow 2 (-j).toNat : ℕ) : ℚ) := by
    rw [zpow_eq_div (by norm_num) i]
    simp only [Nat.pow_eq]
    push_cast
    field_simp
  have hright : (n : ℚ) * 2 ^ j * (10 ^ (-i).toNat * 2 ^ (-j).toNat) =
      ((n * Nat.pow 2 j.toNat * Nat.pow 10 (-i).toNat : ℕ) : ℚ) := by
    rw [zpow_eq_div (by norm_num) j]
    simp only [Nat.pow_eq]
    push_cast
    field_simp
  have hcast : StrictMono (Nat.cast : ℕ → ℚ) := Nat.strictMono_cast
  unfold compareScaled
  rw [← cmp_eq_compare, ← cmp_eq_compare, ← hscale.cmp_map_eq, ← hcast.cmp_map_eq]
  rw [hleft, hright]

namespace Binary

/-! ### The reals that round to a number -/

/-- The lower end of the interval, in quarters of a unit of the last place: a half of the unit
below, which is itself only half as great below a power of two. -/
def lowQuarters (b : Binary) : ℕ :=
  if b.narrowBelow then 4 * b.mantissa - 1 else 4 * b.mantissa - 2

/-- Its lower end. -/
def low (b : Binary) : ℚ :=
  b.lowQuarters * 2 ^ (b.exponent - 2)

/-- Its upper end. -/
def high (b : Binary) : ℚ :=
  (4 * b.mantissa + 2 : ℕ) * 2 ^ (b.exponent - 2)

/-- Whether a number rounds to the magnitude of `b`. -/
structure RoundsTo (b : Binary) (q : ℚ) : Prop where
  low_le : b.low ≤ q
  le_high : q ≤ b.high
  closed : q = b.low ∨ q = b.high → b.mantissa % 2 = 0

/-- **What is tested is whether a decimal rounds to the number.** -/
theorem readsBack_iff {b : Binary} {d : Digits} : b.readsBack d = true ↔ b.RoundsTo d.value := by
  have hlow : compareScaled d.digits d.exponent b.lowQuarters (b.exponent - 2) =
      compare d.value b.low := compareScaled_eq _ _ _ _
  have hhigh : compareScaled d.digits d.exponent (4 * b.mantissa + 2) (b.exponent - 2) =
      compare d.value b.high := compareScaled_eq _ _ _ _
  have htest : b.readsBack d =
      ((compare d.value b.low == .gt || (b.mantissa % 2 == 0 && compare d.value b.low == .eq)) &&
        (compare d.value b.high == .lt ||
          (b.mantissa % 2 == 0 && compare d.value b.high == .eq))) := by
    rw [← hlow, ← hhigh]
    rfl
  -- a test for an end is one for "beyond it" or, if the interval is closed, "on it"
  rw [htest]
  simp only [Bool.and_eq_true, Bool.or_eq_true, beq_iff_eq, compare_gt_iff_gt, compare_eq_iff_eq,
    compare_lt_iff_lt]
  constructor
  · rintro ⟨hlow, hhigh⟩
    refine ⟨?_, ?_, ?_⟩
    · rcases hlow with hgt | ⟨-, heq⟩
      · exact hgt.le
      · exact heq.ge
    · rcases hhigh with hlt | ⟨-, heq⟩
      · exact hlt.le
      · exact heq.le
    · rintro (heq | heq)
      · exact (hlow.resolve_left fun hgt => (ne_of_gt hgt) heq).1
      · exact (hhigh.resolve_left fun hlt => (ne_of_lt hlt) heq).1
  · rintro ⟨hlow, hhigh, hclosed⟩
    constructor
    · rcases hlow.lt_or_eq with hlt | heq
      · exact Or.inl hlt
      · exact Or.inr ⟨hclosed (Or.inl heq.symm), heq.symm⟩
    · rcases hhigh.lt_or_eq with hlt | heq
      · exact Or.inl hlt
      · exact Or.inr ⟨hclosed (Or.inr heq), heq⟩

/-! ### The numbers of the 32-bit format -/

/-- A number of the 32-bit format: but for the least ones, its mantissa has 24 bits. -/
structure IsSingle (b : Binary) : Prop where
  mantissa_lt : b.mantissa < 2 ^ 24
  least_le : -149 ≤ b.exponent
  le_greatest : b.exponent ≤ 104
  normal : -149 < b.exponent → 2 ^ 23 ≤ b.mantissa
  narrow_iff : b.narrowBelow = true ↔ b.mantissa = 2 ^ 23 ∧ -149 < b.exponent

section Gaps

variable {b c : Binary}

/-- Two intervals at one exponent meet in an end at most, and then one mantissa is odd. -/
theorem high_le_low_of_mantissa_lt (hexponent : b.exponent = c.exponent)
    (hlt : b.mantissa < c.mantissa) :
    b.high ≤ c.low ∧ (b.high = c.low → b.mantissa % 2 = 1 ∨ c.mantissa % 2 = 1) := by
  have hunit : (0 : ℚ) < 2 ^ (b.exponent - 2) := zpow_pos two_pos _
  -- a greater mantissa is greater by four quarters, of which each interval takes two at most
  have hquarters : 4 * b.mantissa + 2 ≤ c.lowQuarters := by
    unfold lowQuarters
    split <;> omega
  unfold high low
  rw [← hexponent]
  refine ⟨mul_le_mul_of_nonneg_right (Nat.cast_le.mpr hquarters) hunit.le, fun heq => ?_⟩
  have hends : 4 * b.mantissa + 2 = c.lowQuarters :=
    Nat.cast_injective (mul_right_cancel₀ hunit.ne' heq)
  unfold lowQuarters at hends
  split at hends <;> omega

/-- So do two intervals at different exponents: a unit at the greater is two at the other or more,
and the mantissa there is at least half of the greatest one. -/
theorem high_le_low_of_exponent_lt (hb : b.IsSingle) (hc : c.IsSingle)
    (hlt : b.exponent < c.exponent) :
    b.high ≤ c.low ∧ (b.high = c.low → b.mantissa % 2 = 1 ∨ c.mantissa % 2 = 1) := by
  have hunit : (0 : ℚ) < 2 ^ (b.exponent - 2) := zpow_pos two_pos _
  have hunits : (2 : ℚ) * 2 ^ (b.exponent - 2) ≤ 2 ^ (c.exponent - 2) := by
    rw [← zpow_one_add₀ two_ne_zero]
    exact zpow_le_zpow_right₀ one_le_two (by omega)
  have hleast : -149 < c.exponent := lt_of_le_of_lt hb.least_le hlt
  have hnormal := hc.normal hleast
  have hlow : 2 ^ 25 - 1 ≤ c.lowQuarters := by
    unfold lowQuarters
    split
    · omega
    · next hwide =>
      -- a wide gap is below no power of two
      have hne : c.mantissa ≠ 2 ^ 23 := fun heq => hwide (hc.narrow_iff.mpr ⟨heq, hleast⟩)
      omega
  have hmantissa := hb.mantissa_lt
  have hhigh : 4 * b.mantissa + 2 ≤ 2 * (2 ^ 25 - 1) := by omega
  have hchain : (2 * (2 ^ 25 - 1) : ℕ) * (2 : ℚ) ^ (b.exponent - 2) ≤ c.low := by
    calc (2 * (2 ^ 25 - 1) : ℕ) * (2 : ℚ) ^ (b.exponent - 2)
        = (2 ^ 25 - 1 : ℕ) * (2 * 2 ^ (b.exponent - 2)) := by push_cast; ring
      _ ≤ (2 ^ 25 - 1 : ℕ) * 2 ^ (c.exponent - 2) :=
          mul_le_mul_of_nonneg_left hunits (Nat.cast_nonneg _)
      _ ≤ c.low := mul_le_mul_of_nonneg_right (Nat.cast_le.mpr hlow) (zpow_pos two_pos _).le
  have hcast : ((4 * b.mantissa + 2 : ℕ) : ℚ) ≤ (2 * (2 ^ 25 - 1) : ℕ) := Nat.cast_le.mpr hhigh
  refine ⟨(mul_le_mul_of_nonneg_right hcast hunit.le).trans hchain, fun heq => ?_⟩
  -- they meet only above the greatest mantissa
  have hgreatest : ((2 * (2 ^ 25 - 1) : ℕ) : ℚ) ≤ (4 * b.mantissa + 2 : ℕ) :=
    le_of_mul_le_mul_right (hchain.trans_eq heq.symm) hunit
  have hnat : 2 * (2 ^ 25 - 1) ≤ 4 * b.mantissa + 2 := Nat.cast_le.mp hgreatest
  left
  omega

/-- **No real rounds to two numbers of the format.** -/
theorem RoundsTo.unique {q : ℚ} (hb : b.IsSingle) (hc : c.IsSingle) (hbq : b.RoundsTo q)
    (hcq : c.RoundsTo q) : b.mantissa = c.mantissa ∧ b.exponent = c.exponent := by
  by_contra hne
  -- without loss of generality the first number is the lesser, as both are alike
  wlog hlt : b.exponent < c.exponent ∨ b.exponent = c.exponent ∧ b.mantissa < c.mantissa
      generalizing b c
  · refine this hc hb hcq hbq (fun h => hne ⟨h.1.symm, h.2.symm⟩) ?_
    omega
  have hgap : b.high ≤ c.low ∧ (b.high = c.low → b.mantissa % 2 = 1 ∨ c.mantissa % 2 = 1) := by
    rcases hlt with hlt | ⟨hexponent, hlt⟩
    · exact high_le_low_of_exponent_lt hb hc hlt
    · exact high_le_low_of_mantissa_lt hexponent hlt
  have hhigh : q = b.high := le_antisymm hbq.le_high (hgap.1.trans hcq.low_le)
  have hlow : q = c.low := le_antisymm (hbq.le_high.trans hgap.1) hcq.low_le
  have hbeven := hbq.closed (Or.inr hhigh)
  have hceven := hcq.closed (Or.inl hlow)
  have hodd := hgap.2 (hhigh.symm.trans hlow)
  omega

end Gaps

/-! ### Grids of powers of ten -/

/-- The magnitude of a number. -/
def magnitude (b : Binary) : ℚ :=
  b.mantissa * 2 ^ b.exponent

theorem magnitude_eq (b : Binary) : b.magnitude = b.numerator / b.denominator := by
  have hvalue := value_eq { b with negative := false }
  unfold value at hvalue
  rw [if_neg Bool.false_ne_true, one_mul, one_mul] at hvalue
  exact hvalue

/-- The point of a grid below the magnitude is the greatest one there. -/
theorem floorOn_eq (b : Binary) (t : ℤ) : b.floorOn t = ⌊b.magnitude / 10 ^ t⌋₊ := by
  have hten : (10 : ℚ) ≠ 0 := by norm_num
  have hquotient : b.magnitude / 10 ^ t =
      ((b.numerator * Nat.pow 10 (-t).toNat : ℕ) : ℚ) /
        (b.denominator * Nat.pow 10 t.toNat : ℕ) := by
    have hdenominator : (b.denominator : ℚ) ≠ 0 := by exact_mod_cast b.denominator_pos.ne'
    rw [magnitude_eq, zpow_eq_div hten]
    simp only [Nat.pow_eq]
    push_cast
    field_simp
  rw [hquotient, Nat.floor_div_eq_div]
  rfl

/-- What is chosen on a grid reads back. -/
theorem readsBack_of_nearestOn {b : Binary} {t : ℤ} {d : Digits} (h : b.nearestOn t = some d) :
    b.readsBack d = true := by
  unfold nearestOn at h
  dsimp only at h
  split at h
  · cases h
  · next hbelow _ =>
    cases h
    exact hbelow
  · next habove =>
    cases h
    exact habove
  · next hbelow habove =>
    -- of two that read back, one is chosen
    split at h
    · cases h
      exact hbelow
    · cases h
      exact habove
    · split at h
      · cases h
        exact hbelow
      · cases h
        exact habove

/-- Where the point below reads back, something is chosen. -/
theorem nearestOn_ne_none {b : Binary} {t : ℤ} (h : b.readsBack ⟨b.floorOn t, t⟩ = true) :
    b.nearestOn t ≠ none := by
  unfold nearestOn
  dsimp only
  rw [h]
  cases b.readsBack ⟨b.floorOn t + 1, t⟩ with
  | false => exact Option.some_ne_none _
  | true =>
    dsimp only
    split <;> exact Option.some_ne_none _

theorem magnitude_eq_quarters (b : Binary) :
    b.magnitude = (4 * b.mantissa : ℕ) * 2 ^ (b.exponent - 2) := by
  unfold magnitude
  rw [zpow_sub₀ two_ne_zero]
  push_cast
  ring

/-- The interval goes down from the magnitude by a quarter of a unit at least. -/
theorem low_add_le {b : Binary} (hmantissa : b.mantissa ≠ 0) :
    b.low + 2 ^ (b.exponent - 2) ≤ b.magnitude := by
  have hends : b.lowQuarters + 1 ≤ 4 * b.mantissa := by
    unfold lowQuarters
    split <;> omega
  have hcast : (b.lowQuarters : ℚ) + 1 ≤ (4 * b.mantissa : ℕ) := by exact_mod_cast hends
  calc b.low + 2 ^ (b.exponent - 2)
      = ((b.lowQuarters : ℚ) + 1) * 2 ^ (b.exponent - 2) := by unfold low; ring
    _ ≤ (4 * b.mantissa : ℕ) * 2 ^ (b.exponent - 2) :=
        mul_le_mul_of_nonneg_right hcast (zpow_pos two_pos _).le
    _ = b.magnitude := b.magnitude_eq_quarters.symm

theorem magnitude_lt_high (b : Binary) : b.magnitude < b.high := by
  have hends : ((4 * b.mantissa : ℕ) : ℚ) < (4 * b.mantissa + 2 : ℕ) := Nat.cast_lt.mpr (by omega)
  rw [magnitude_eq_quarters]
  exact mul_lt_mul_of_pos_right hends (zpow_pos two_pos _)

/-- **A grid that is as fine as a quarter of a unit has a point that reads back**, the one below the
magnitude. -/
theorem readsBack_floorOn {b : Binary} {t : ℤ} (hmantissa : b.mantissa ≠ 0)
    (hfine : (10 : ℚ) ^ t ≤ 2 ^ (b.exponent - 2)) : b.readsBack ⟨b.floorOn t, t⟩ = true := by
  have hgrid : (0 : ℚ) < 10 ^ t := zpow_pos (by norm_num) t
  have hnonneg : 0 ≤ b.magnitude := by
    rw [magnitude_eq]
    exact div_nonneg (Nat.cast_nonneg _) (Nat.cast_nonneg _)
  have hle : (b.floorOn t : ℚ) * 10 ^ t ≤ b.magnitude := by
    rw [floorOn_eq, ← le_div_iff₀ hgrid]
    exact Nat.floor_le (div_nonneg hnonneg hgrid.le)
  have hlt : b.magnitude < (b.floorOn t + 1) * 10 ^ t := by
    rw [floorOn_eq, ← div_lt_iff₀ hgrid]
    exact Nat.lt_floor_add_one _
  have hlow : b.low < b.floorOn t * 10 ^ t := by
    have hbelow := low_add_le hmantissa
    linarith
  have hhigh : (b.floorOn t : ℚ) * 10 ^ t < b.high := hle.trans_lt b.magnitude_lt_high
  -- the point is inside, so that the ends do not matter
  exact readsBack_iff.mpr ⟨hlow.le, hhigh.le, fun hend =>
    hend.elim (fun heq => absurd heq hlow.ne') (fun heq => absurd heq hhigh.ne)⟩

/-- Ten is less than sixteen. -/
theorem ten_zpow_le_of_nonneg {t e : ℤ} (ht : 0 ≤ t) (h : 4 * t ≤ e) :
    (10 : ℚ) ^ t ≤ 2 ^ e := by
  lift t to ℕ using ht
  calc (10 : ℚ) ^ (t : ℤ) ≤ 16 ^ (t : ℤ) := by
        rw [zpow_natCast, zpow_natCast]
        exact pow_le_pow_left₀ (by norm_num) (by norm_num) t
    _ = 2 ^ (4 * (t : ℤ)) := by
        rw [zpow_mul]
        norm_num
    _ ≤ 2 ^ e := zpow_le_zpow_right₀ one_le_two h

/-- Ten is more than eight. -/
theorem ten_zpow_le_of_nonpos {t e : ℤ} (ht : t ≤ 0) (h : 3 * t ≤ e) : (10 : ℚ) ^ t ≤ 2 ^ e := by
  calc (10 : ℚ) ^ t ≤ 8 ^ t := by
        rw [← neg_neg t, zpow_neg, zpow_neg 8]
        lift -t to ℕ using Int.neg_nonneg_of_nonpos ht with n
        rw [zpow_natCast, zpow_natCast]
        exact inv_anti₀ (pow_pos (by norm_num) n)
          (pow_le_pow_left₀ (by norm_num) (by norm_num) n)
    _ = 2 ^ (3 * t) := by
        rw [zpow_mul]
        norm_num
    _ ≤ 2 ^ e := zpow_le_zpow_right₀ one_le_two h

/-- The finest grid that is tried is fine enough for the numbers of the format. -/
theorem IsSingle.fine {b : Binary} (h : b.IsSingle) :
    (10 : ℚ) ^ (b.decimalBound - 23) ≤ 2 ^ (b.exponent - 2) := by
  have hleast := h.least_le
  have hgreatest := h.le_greatest
  have hlog : b.mantissa.log2 ≤ 23 := by
    rcases Nat.eq_zero_or_pos b.mantissa with hzero | hpos
    · rw [hzero]
      decide
    · exact Nat.le_of_lt_succ ((Nat.log2_lt hpos.ne').mpr h.mantissa_lt)
  unfold decimalBound
  rcases le_total 0 (((b.mantissa.log2 : ℤ) + 1 + b.exponent) * 30103 / 100000 + 2 - 23)
    with hnonneg | hnonpos
  · exact ten_zpow_le_of_nonneg hnonneg (by omega)
  · exact ten_zpow_le_of_nonpos hnonpos (by omega)

/-! ### The shortest decimal -/

/-- **The shortest decimal reads back.** -/
theorem IsSingle.roundsTo_shortest {b : Binary} (h : b.IsSingle) :
    b.RoundsTo b.shortest.value := by
  rw [← readsBack_iff]
  unfold shortest
  split
  case isTrue hzero =>
    rw [readsBack_iff]
    have hquarters : b.lowQuarters = 0 := by
      unfold lowQuarters
      rw [hzero]
      split <;> rfl
    have hlow : b.low = 0 := by
      unfold low
      rw [hquarters, Nat.cast_zero, zero_mul]
    have hvalue : (⟨0, 0⟩ : Digits).value = 0 := by
      unfold Digits.value
      rw [Nat.cast_zero, zero_mul]
    rw [hvalue]
    refine ⟨hlow.le, ?_, fun _ => by rw [hzero]⟩
    exact mul_nonneg (Nat.cast_nonneg _) (zpow_pos two_pos _).le
  case isFalse hmantissa =>
    dsimp only
    -- the finest grid has a hit, so that some grid is the first with one, and any hit reads back
    have hmem : b.decimalBound - 23 ∈
        (List.range 24).map fun (i : ℕ) => b.decimalBound - (i : ℤ) :=
      List.mem_map.mpr ⟨23, List.mem_range.mpr (by decide), rfl⟩
    have hhit := nearestOn_ne_none (readsBack_floorOn hmantissa h.fine)
    cases hfound : ((List.range 24).map fun (i : ℕ) =>
        b.decimalBound - (i : ℤ)).findSome? b.nearestOn with
    | none => exact absurd (List.findSome?_eq_none_iff.mp hfound _ hmem) hhit
    | some d =>
      obtain ⟨t, -, hd⟩ := List.exists_of_findSome?_eq_some hfound
      exact readsBack_of_nearestOn hd

/-- The shortest decimal with the sign of the number. -/
def shortestValue (b : Binary) : ℚ :=
  (if b.negative then -1 else 1) * b.shortest.value

/-- The shortest decimal of what is not zero is not zero. -/
theorem IsSingle.shortest_value_pos {b : Binary} (h : b.IsSingle) (hmantissa : b.mantissa ≠ 0) :
    0 < b.shortest.value := by
  have hpos : 0 < b.lowQuarters := by
    unfold lowQuarters
    split <;> omega
  have hlow : 0 < b.low := mul_pos (Nat.cast_pos.mpr hpos) (zpow_pos two_pos _)
  exact hlow.trans_le h.roundsTo_shortest.low_le

theorem abs_shortestValue (b : Binary) : |b.shortestValue| = b.shortest.value := by
  have hnonneg : 0 ≤ b.shortest.value :=
    mul_nonneg (Nat.cast_nonneg _) (zpow_pos (by norm_num) _).le
  unfold shortestValue
  rw [abs_mul, abs_of_nonneg hnonneg]
  cases b.negative with
  | false => rw [if_neg Bool.false_ne_true, abs_one, one_mul]
  | true => rw [if_pos rfl, abs_neg, abs_one, one_mul]

/-- **Numbers with one shortest decimal are one number**, but for the sign of zero. -/
theorem IsSingle.eq_of_shortestValue_eq {b c : Binary} (hb : b.IsSingle) (hc : c.IsSingle)
    (h : b.shortestValue = c.shortestValue) :
    b.mantissa = c.mantissa ∧ b.exponent = c.exponent ∧
      (b.negative = c.negative ∨ b.mantissa = 0) := by
  have hvalue : b.shortest.value = c.shortest.value := by
    rw [← abs_shortestValue, ← abs_shortestValue, h]
  obtain ⟨hmantissa, hexponent⟩ :=
    RoundsTo.unique hb hc hb.roundsTo_shortest (hvalue ▸ hc.roundsTo_shortest)
  refine ⟨hmantissa, hexponent, ?_⟩
  by_contra hne
  push Not at hne
  obtain ⟨hsign, hnonzero⟩ := hne
  have hpos := hb.shortest_value_pos hnonzero
  -- numbers of different signs have different decimals
  unfold shortestValue at h
  rw [← hvalue] at h
  cases hbsign : b.negative <;> cases hcsign : c.negative
  all_goals
    rw [hbsign, hcsign] at h hsign
    simp only [if_true, Bool.false_eq_true, if_false] at h
  · exact hsign rfl
  · linarith
  · linarith
  · exact hsign rfl

end Binary

end Letterhead.Decimal
