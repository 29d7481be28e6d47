import Mathlib.Algebra.Order.Floor.Semifield
import Mathlib.Data.Rat.Floor
import Letterhead.Proofs.Decimal.Value

/-!
# Numbers of the 64-bit format

What a program asks of a finite number is told by its exact value: it equals zero, or is at least
zero, if its value is, and it is cut to the integer part of its value where that is a natural number
of 64 bits.

* `unpacked`, `unpack_eq` — the number behind a bit pattern, from its exact value;
* `bne_zero_eq`, `zero_le_iff` — a number against zero;
* `roundToInt_eq`, `toNat_toUInt64` — a number that is cut.
-/

namespace Letterhead.Decimal.Binary

open Float.Model

/-! ### Bit patterns -/

/-- The sign of a value, as that of a number. -/
def sign (b : Binary) : UnpackedFloat.Sign :=
  if b.negative then .negative else .positive

/-- A value as a number: zero has no mantissa. -/
def unpacked (b : Binary) : UnpackedFloat :=
  if h : 0 < b.mantissa then .finite b.sign b.mantissa b.exponent h else .zero b.sign

section Pattern

variable (x : Float)

theorem toNat_unpackExponent :
    (@UnpackedFloat.unpackExponent .binary64 x.toBits.toBitVec).toNat =
      x.toBits.toNat / 2 ^ 52 % 2 ^ 11 := by
  unfold UnpackedFloat.unpackExponent
  rw [BitVec.toNat_cast, BitVec.extractLsb_toNat, Nat.shiftRight_eq_div_pow]
  rfl

theorem toNat_unpackMantissa :
    (@UnpackedFloat.unpackMantissa .binary64 x.toBits.toBitVec).toNat =
      x.toBits.toNat % 2 ^ 52 := by
  unfold UnpackedFloat.unpackMantissa
  rw [BitVec.toNat_cast, BitVec.extractLsb_toNat, Nat.shiftRight_zero]
  rfl

theorem ofBitVec_unpackSign :
    UnpackedFloat.Sign.ofBitVec (@UnpackedFloat.unpackSign .binary64 x.toBits.toBitVec) =
      if decide (x.toBits.toNat / 2 ^ 63 % 2 = 1) then .negative else .positive := by
  have hbit : (@UnpackedFloat.unpackSign .binary64 x.toBits.toBitVec).toNat =
      x.toBits.toNat / 2 ^ 63 % 2 := by
    unfold UnpackedFloat.unpackSign
    rw [BitVec.toNat_cast, BitVec.extractLsb_toNat, Nat.shiftRight_eq_div_pow]
    rfl
  have hzero : @UnpackedFloat.unpackSign .binary64 x.toBits.toBitVec = 0#1 ↔
      x.toBits.toNat / 2 ^ 63 % 2 = 0 := by
    rw [← BitVec.toNat_inj, hbit]
    rfl
  unfold UnpackedFloat.Sign.ofBitVec
  by_cases h : x.toBits.toNat / 2 ^ 63 % 2 = 0
  · rw [if_pos (hzero.mpr h), if_neg (decide_eq_true_iff.not.mpr (by omega))]
  · rw [if_neg (mt hzero.mp h), if_pos (decide_eq_true_iff.mpr (by omega))]

/-- A fraction behind the leading one of a normal number. -/
theorem toNat_one_append (v : BitVec 52) : (1#1 ++ v).toNat = 2 ^ 52 + v.toNat := by
  change 2 ^ 52 ||| v.toNat = _
  rw [Nat.or_comm, Nat.or_two_pow_eq_add_of_lt v.isLt, Nat.add_comm]

/-- A number is told by its sign, its mantissa and its exponent. -/
theorem finite_congr (s : UnpackedFloat.Sign) {m n : ℕ} {e f : ℤ} (hm : m = n) (he : e = f)
    (h : 0 < m) (h' : 0 < n) : UnpackedFloat.finite s m e h = .finite s n f h' := by
  subst hm he
  rfl

/-- **A finite number is its exact value.** -/
theorem unpack_eq {x : Float} {b : Binary} (h : ofFloat x = some b) :
    x.toModel.unpack = b.unpacked := by
  have hexponent := toNat_unpackExponent x
  have hmantissa := toNat_unpackMantissa x
  have hgreatest : @UnpackedFloat.unpackExponent .binary64 x.toBits.toBitVec = -1#11 ↔
      x.toBits.toNat / 2 ^ 52 % 2 ^ 11 = 2 ^ 11 - 1 := by
    rw [← BitVec.toNat_inj, hexponent]
    rfl
  have hleast : @UnpackedFloat.unpackExponent .binary64 x.toBits.toBitVec = 0#11 ↔
      x.toBits.toNat / 2 ^ 52 % 2 ^ 11 = 0 := by
    rw [← BitVec.toNat_inj, hexponent]
    rfl
  have hnone : @UnpackedFloat.unpackMantissa .binary64 x.toBits.toBitVec = 0#52 ↔
      x.toBits.toNat % 2 ^ 52 = 0 := by
    rw [← BitVec.toNat_inj, hmantissa]
    rfl
  have hsign := ofBitVec_unpackSign x
  unfold ofFloat ofPattern at h
  simp only [Nat.pow_eq] at h
  change UnpackedFloat.unpack .binary64 x.toBits.toBitVec = _
  unfold UnpackedFloat.unpack
  dsimp only
  rw [hsign]
  split at h
  case isTrue => cases h
  case isFalse hfinite =>
    rw [if_neg (mt hgreatest.mp hfinite)]
    split at h
    case isTrue hzero =>
      -- a small number has the least exponent, and zero is one of them
      obtain rfl := Option.some.inj h
      rw [if_pos (hleast.mpr hzero)]
      unfold unpacked sign
      dsimp only
      by_cases hfraction : x.toBits.toNat % 2 ^ 52 = 0
      · rw [dif_pos (hnone.mpr hfraction), dif_neg (Nat.not_lt.mpr hfraction.le)]
      · rw [dif_neg (mt hnone.mp hfraction), dif_pos (Nat.pos_of_ne_zero hfraction)]
        refine finite_congr _ hmantissa ?_ _ _
        rw [hexponent, hzero]
        rfl
    case isFalse hnormal =>
      obtain rfl := Option.some.inj h
      rw [if_neg (mt hleast.mp hnormal)]
      unfold unpacked sign
      dsimp only
      rw [dif_pos (Nat.add_pos_left (by decide) _)]
      refine finite_congr _ ?_ ?_ _ _
      · rw [toNat_one_append, hmantissa]
      · rw [hexponent]
        change ((x.toBits.toNat / 2 ^ 52 % 2 ^ 11 : ℕ) : ℤ) - (1023 + 52) = _
        omega

end Pattern

/-! ### Against zero -/

theorem unpack_zero : (0.0 : Float).toModel.unpack = .zero .positive := by
  have hzero : ofFloat 0.0 = some ⟨false, 0, -1074, false⟩ := by decide
  exact unpack_eq hzero

theorem value_eq_zero_iff (b : Binary) : b.value = 0 ↔ b.mantissa = 0 := by
  have hpow : (2 : ℚ) ^ b.exponent ≠ 0 := zpow_ne_zero _ two_ne_zero
  unfold value
  rw [mul_eq_zero, mul_eq_zero, Nat.cast_eq_zero]
  constructor
  · rintro (hsign | hzero | hzero)
    · split at hsign <;> norm_num at hsign
    · exact hzero
    · exact absurd hzero hpow
  · exact fun hzero => Or.inr (Or.inl hzero)

theorem value_nonpos {b : Binary} (h : b.negative = true) : b.value ≤ 0 := by
  rw [value_eq, h, if_pos rfl, neg_one_mul, neg_nonpos]
  exact div_nonneg (Nat.cast_nonneg _) (Nat.cast_nonneg _)

/-- What is negative in sign is at least zero only if it is zero. -/
theorem value_nonneg_iff (b : Binary) : 0 ≤ b.value ↔ b.negative = false ∨ b.mantissa = 0 := by
  rw [← value_eq_zero_iff]
  constructor
  · intro h
    cases hsign : b.negative with
    | false => exact Or.inl rfl
    | true => exact Or.inr (le_antisymm (value_nonpos hsign) h)
  · rintro (hsign | hzero)
    · exact value_nonneg hsign
    · exact hzero.ge

section Comparison

variable {x : Float} {b : Binary}

/-- A number differs from zero if its value does. -/
theorem bne_zero_eq (h : ofFloat x = some b) : (x != 0.0) = decide (b.value ≠ 0) := by
  have hbeq : (x == 0.0) = b.unpacked.beq (.zero .positive) := by
    rw [← unpack_eq h, ← unpack_zero]
    rfl
  rw [bne, hbeq]
  unfold unpacked
  by_cases hmantissa : 0 < b.mantissa
  · have hvalue : b.value ≠ 0 := mt (value_eq_zero_iff b).mp hmantissa.ne'
    rw [dif_pos hmantissa, decide_eq_true hvalue]
    cases b.sign <;> rfl
  · have hvalue : b.value = 0 := (value_eq_zero_iff b).mpr (by omega)
    rw [dif_neg hmantissa, decide_eq_false (not_not_intro hvalue)]
    rfl

/-- A number is at least zero if its value is. -/
theorem zero_le_iff (h : ofFloat x = some b) : x ≥ 0.0 ↔ 0 ≤ b.value := by
  have hle : x ≥ 0.0 ↔ (UnpackedFloat.zero .positive).le b.unpacked = true := by
    rw [← unpack_eq h, ← unpack_zero]
    exact decide_eq_true_iff
  rw [hle, value_nonneg_iff]
  unfold unpacked sign
  by_cases hmantissa : 0 < b.mantissa
  · rw [dif_pos hmantissa, or_iff_left hmantissa.ne']
    cases b.negative with
    | false => exact iff_of_true rfl rfl
    | true => exact iff_of_false Bool.false_ne_true (Ne.symm Bool.false_ne_true)
  · rw [dif_neg hmantissa]
    exact iff_of_true rfl (Or.inr (by omega))

end Comparison

/-! ### Cutting -/

/-- Bits that are shifted out are lost. -/
theorem mantissa_shiftRight (m : UnpackedFloat.ExtendedMantissa) (n : ℕ) :
    (m >>> n).mantissa = m.mantissa / 2 ^ n := by
  induction n with
  | zero => exact (Nat.div_one _).symm
  | succ n ih =>
    change (m >>> n).mantissa / 2 = _
    rw [ih, Nat.div_div_eq_div_mul, Nat.pow_succ]

/-- What is left of a number is the integer part of its magnitude, with its sign. -/
theorem roundToInt_eq (b : Binary) :
    UnpackedFloat.roundToInt b.sign b.mantissa b.exponent =
      b.sign.apply (b.numerator / b.denominator : ℕ) := by
  unfold UnpackedFloat.roundToInt UnpackedFloat.decreaseExponent UnpackedFloat.shiftToExponent
  dsimp only
  have hshift : (0 - (b.exponent - ((b.exponent - 0).toNat : ℤ))).toNat = (-b.exponent).toNat := by
    omega
  rw [mantissa_shiftRight, hshift, Int.sub_zero]
  unfold numerator denominator
  rw [Nat.shiftLeft_eq]
  rfl

/-- The integer part of a value that is not negative. -/
theorem floor_value {b : Binary} (h : 0 ≤ b.value) :
    ⌊b.value⌋₊ = b.numerator / b.denominator := by
  rcases (value_nonneg_iff b).mp h with hsign | hmantissa
  · rw [value_eq, hsign, if_neg Bool.false_ne_true, one_mul, Nat.floor_div_eq_div]
  · rw [(value_eq_zero_iff b).mpr hmantissa, Nat.floor_zero]
    unfold numerator
    rw [hmantissa, Nat.zero_mul, Nat.zero_div]

theorem toNat_ofNatClamp (n : ℕ) : (UInt64.ofNatClamp n).toNat = min n (2 ^ 64 - 1) := by
  have hsize : UInt64.size = 2 ^ 64 := rfl
  unfold UInt64.ofNatClamp
  split
  case isTrue hlt =>
    rw [UInt64.toNat_ofNatLT]
    omega
  case isFalse hge =>
    rw [UInt64.toNat_ofNatLT]
    omega

/-- **A number is cut to the integer part of its value**, or to the greatest that there is. -/
theorem toNat_toUInt64 {x : Float} {b : Binary} (h : ofFloat x = some b) (hnonneg : 0 ≤ b.value) :
    x.toUInt64.toNat = min ⌊b.value⌋₊ (2 ^ 64 - 1) := by
  have hcut : (UnpackedFloat.toInt 0 (UInt64.size - 1 : ℕ) b.unpacked).toNat = ⌊b.value⌋₊ := by
    rw [floor_value hnonneg]
    unfold unpacked
    by_cases hmantissa : 0 < b.mantissa
    · have hsign : b.sign = .positive := by
        unfold sign
        rw [((value_nonneg_iff b).mp hnonneg).resolve_right hmantissa.ne',
          if_neg Bool.false_ne_true]
      rw [dif_pos hmantissa]
      change (UnpackedFloat.roundToInt b.sign b.mantissa b.exponent).toNat = _
      rw [roundToInt_eq, hsign]
      rfl
    · rw [dif_neg hmantissa]
      unfold numerator
      rw [Nat.eq_zero_of_not_pos hmantissa, Nat.zero_mul, Nat.zero_div]
      rfl
  rw [← hcut, ← toNat_ofNatClamp, ← unpack_eq h]
  rfl

end Letterhead.Decimal.Binary
