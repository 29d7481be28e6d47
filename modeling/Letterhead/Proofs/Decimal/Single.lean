import Mathlib
import Letterhead.Proofs.Decimal.Shortest

/-!
# Numbers of the 32-bit format

A bit pattern has a sign, an exponent and a fraction, and determines the number. Every finite number
has a mantissa and an exponent that the format allows, and numbers of which these and the sign agree
are equal, as are zero and minus zero.

* `isFinite_iff` — the exponent tells the finite numbers;
* `HasParts`, `exists_hasParts` — the parts of a finite number's pattern;
* `HasParts.isSingle`, `HasParts.beq` — what the parts allow, and that they determine the number.
-/

namespace Letterhead.Decimal.Binary

open Float.Model

/-- The finite numbers are those whose exponent is not the greatest pattern. -/
theorem isFinite_iff (x : Float32) :
    x.isFinite = true ↔ x.toBits.toNat / 2 ^ 23 % 2 ^ 8 ≠ 255 := by
  have hexponent : (@UnpackedFloat.unpackExponent .binary32 x.toBits.toBitVec).toNat =
      x.toBits.toNat / 2 ^ 23 % 2 ^ 8 := by
    unfold UnpackedFloat.unpackExponent
    rw [BitVec.toNat_cast, BitVec.extractLsb_toNat, Nat.shiftRight_eq_div_pow]
    rfl
  have hgreatest : @UnpackedFloat.unpackExponent .binary32 x.toBits.toBitVec = -1#8 ↔
      x.toBits.toNat / 2 ^ 23 % 2 ^ 8 = 255 := by
    rw [← BitVec.toNat_inj, hexponent]
    rfl
  -- infinities and what is no number have the greatest exponent, and nothing else has it
  rw [ne_eq, ← hgreatest]
  change (UnpackedFloat.unpack .binary32 x.toBits.toBitVec).isFinite = true ↔ _
  unfold UnpackedFloat.unpack
  dsimp only
  split
  · next heq =>
    refine iff_of_false ?_ (not_not_intro heq)
    split <;> exact Bool.false_ne_true
  · next hne =>
    refine iff_of_true ?_ hne
    split
    · split <;> rfl
    · rfl

/-- The parts of a bit pattern that stands for a finite value. -/
structure HasParts (x : Float32) (sign exponent fraction : ℕ) : Prop where
  sign_lt : sign < 2
  exponent_lt : exponent < 255
  fraction_lt : fraction < 2 ^ 23
  toNat_eq : x.toBits.toNat = sign * 2 ^ 31 + exponent * 2 ^ 23 + fraction

/-- The value that parts stand for. -/
def ofParts (sign exponent fraction : ℕ) : Binary :=
  if exponent = 0 then ⟨decide (sign = 1), fraction, -149, false⟩
  else ⟨decide (sign = 1), 2 ^ 23 + fraction, -149 + exponent - 1, fraction == 0 && exponent > 1⟩

/-- **Every finite number has its parts**, and the value that they stand for. -/
theorem exists_hasParts {x : Float32} (h : x.isFinite = true) :
    ∃ sign exponent fraction, HasParts x sign exponent fraction ∧
      ofFloat32 x = some (ofParts sign exponent fraction) := by
  have hlt : x.toBits.toNat < 2 ^ 32 := x.toBits.toNat_lt
  have hexponent := (isFinite_iff x).mp h
  refine ⟨x.toBits.toNat / 2 ^ 31 % 2, x.toBits.toNat / 2 ^ 23 % 2 ^ 8, x.toBits.toNat % 2 ^ 23,
    ⟨?_, ?_, ?_, ?_⟩, ?_⟩
  · omega
  · omega
  · omega
  · omega
  · unfold ofFloat32 ofPattern ofParts
    simp only [Nat.pow_eq]
    rw [if_neg hexponent]
    split <;> rfl

section Parts

variable {x y : Float32} {s e f t : ℕ}

/-- The value is one of the format. -/
theorem HasParts.isSingle (h : HasParts x s e f) : (ofParts s e f).IsSingle := by
  obtain ⟨-, hexponent, hfraction, -⟩ := h
  unfold ofParts
  split
  case isTrue =>
    exact ⟨by dsimp only; omega, le_refl _, by dsimp only; omega,
      fun hlt => absurd hlt (lt_irrefl _), iff_of_false Bool.false_ne_true fun hnarrow => absurd hnarrow.2 (lt_irrefl _)⟩
  case isFalse hpos =>
    refine ⟨by dsimp only; omega, by dsimp only; omega, by dsimp only; omega,
      fun _ => Nat.le_add_right _ _, ?_⟩
    dsimp only
    rw [Bool.and_eq_true, beq_iff_eq, decide_eq_true_eq]
    omega

theorem negative_ofParts (s e f : ℕ) : (ofParts s e f).negative = decide (s = 1) := by
  unfold ofParts
  split <;> rfl

/-- The mantissa tells whether the exponent is the least, and the fraction. -/
theorem ofParts_inj {e' f' : ℕ} (hf : f < 2 ^ 23) (hf' : f' < 2 ^ 23)
    (hmantissa : (ofParts s e f).mantissa = (ofParts t e' f').mantissa)
    (hexponent : (ofParts s e f).exponent = (ofParts t e' f').exponent) : e = e' ∧ f = f' := by
  unfold ofParts at hmantissa hexponent
  by_cases he : e = 0 <;> by_cases he' : e' = 0
  all_goals
    simp only [he, he', if_true, if_false] at hmantissa hexponent
    omega

theorem of_mantissa_ofParts_eq_zero (h : (ofParts s e f).mantissa = 0) : e = 0 ∧ f = 0 := by
  unfold ofParts at h
  split at h
  · next he => exact ⟨he, h⟩
  · exact absurd (Nat.add_eq_zero_iff.mp h).1 (by decide)

/-- A finite number equals itself. -/
theorem beq_self (h : x.isFinite = true) : (x == x) = true := by
  refine Float32.beq_self_iff.mpr ?_
  rintro rfl
  exact absurd h (by decide)

/-- The zeros are the numbers without a bit but that of the sign. -/
theorem HasParts.eq_zero (h : HasParts x s 0 0) : s = 0 ∧ x = 0 ∨ s = 1 ∧ x = -0 := by
  have hsign := h.sign_lt
  have hbits : x.toBits.toNat = s * 2 ^ 31 := by
    rw [h.toNat_eq, Nat.zero_mul, Nat.add_zero]
  obtain rfl | rfl : s = 0 ∨ s = 1 := by omega
  · refine Or.inl ⟨rfl, ?_⟩
    rw [← Float32.toBits_inj, ← UInt32.toNat_inj, hbits]
    decide
  · refine Or.inr ⟨rfl, ?_⟩
    rw [← Float32.toBits_inj, ← UInt32.toNat_inj, hbits]
    decide

/-- **Numbers with one value are equal**, and so are zero and minus zero. -/
theorem HasParts.beq {e' f' : ℕ} (hx : HasParts x s e f) (hy : HasParts y t e' f')
    (hfinite : x.isFinite = true)
    (hmantissa : (ofParts s e f).mantissa = (ofParts t e' f').mantissa)
    (hexponent : (ofParts s e f).exponent = (ofParts t e' f').exponent)
    (hsign : (ofParts s e f).negative = (ofParts t e' f').negative ∨
      (ofParts s e f).mantissa = 0) : (x == y) = true := by
  obtain ⟨rfl, rfl⟩ := ofParts_inj hx.fraction_lt hy.fraction_lt hmantissa hexponent
  rcases hsign with hsign | hzero
  · have hs : s = t := by
      have hsx := hx.sign_lt
      have hsy := hy.sign_lt
      rw [negative_ofParts, negative_ofParts, decide_eq_decide] at hsign
      omega
    have heq : x = y := by
      rw [← Float32.toBits_inj, ← UInt32.toNat_inj, hx.toNat_eq, hy.toNat_eq, hs]
    rw [← heq]
    exact beq_self hfinite
  · obtain ⟨rfl, rfl⟩ := of_mantissa_ofParts_eq_zero hzero
    -- the zeros are equal, whatever their signs
    rcases hx.eq_zero with ⟨-, rfl⟩ | ⟨-, rfl⟩ <;> rcases hy.eq_zero with ⟨-, rfl⟩ | ⟨-, rfl⟩
    all_goals decide

end Parts

end Letterhead.Decimal.Binary
