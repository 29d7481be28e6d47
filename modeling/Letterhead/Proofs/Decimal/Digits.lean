import Mathlib.Algebra.Group.Nat.Defs
import Mathlib.Data.List.Basic
import Mathlib.Data.List.Induction
import Letterhead.Decimal.Fixed

/-!
# Decimal digits

What the library prints of a number is made of the digits of natural numbers. They are digits only,
no zero stands before others, and they read as the number they are of.

* `IsNumeral`, `readDigits` — digits in canonical form, and the number that digits read as;
* `isNumeral_toDigits`, `readDigits_toDigits` — the digits of a natural number;
* `length_padded`, `isDigit_of_mem_padded`, `readDigits_padded` — digits in a field of fixed width.
-/

namespace Letterhead.Decimal

/-- Digits, at least one, of which the first is no zero unless it is the only one. -/
structure IsNumeral (ds : List Char) : Prop where
  ne_nil : ds ≠ []
  isDigit : ∀ c ∈ ds, c.isDigit = true
  trimmed : ds.head? = some '0' → ds = ['0']

/-- The number that digits read as. -/
def readDigits (ds : List Char) : Nat :=
  Nat.ofDigitChars 10 ds 0

/-- Digits are read one after the other. -/
theorem foldl_eq_readDigits (ds : List Char) :
    ds.foldl (fun n d => n * 10 + (d.toNat - 48)) 0 = readDigits ds := by
  unfold readDigits Nat.ofDigitChars
  congr 1
  funext n d
  rw [Nat.mul_comm]
  rfl

/-- A digit is none of the characters that are no digits. -/
theorem ne_of_isDigit {c d : Char} (hc : c.isDigit = true) (hd : d.isDigit = false) : c ≠ d := by
  rintro rfl
  rw [hc] at hd
  cases hd

/-- Digits that follow others shift them. -/
theorem readDigits_append (ds es : List Char) :
    readDigits (ds ++ es) = 10 ^ es.length * readDigits ds + readDigits es := by
  unfold readDigits
  rw [Nat.ofDigitChars_append, Nat.ofDigitChars_eq_ofDigitChars_zero]

/-- A digit is that of a number below ten. -/
theorem exists_digitChar {c : Char} (h : c.isDigit = true) : ∃ d < 10, c = Nat.digitChar d := by
  have hrange : 48 ≤ c.toNat ∧ c.toNat ≤ 57 := Char.isDigit_iff_toNat.mp h
  have hdigit : c.toNat - 48 < 10 := by omega
  refine ⟨c.toNat - 48, hdigit, Char.toNat_inj.mp ?_⟩
  rw [Nat.toNat_digitChar_of_lt_ten hdigit]
  omega

/-- The last digit counts once. -/
theorem readDigits_concat (ds : List Char) {d : Nat} (h : d < 10) :
    readDigits (ds ++ [Nat.digitChar d]) = 10 * readDigits ds + d := by
  have hlast : readDigits [Nat.digitChar d] = d := by
    unfold readDigits
    rw [Nat.ofDigitChars_cons_digitChar_of_lt_ten h, Nat.ofDigitChars_nil, Nat.mul_zero,
      Nat.zero_add]
  rw [readDigits_append, hlast, List.length_singleton, Nat.pow_one]

/-- Digits read as a number that has no more of them. -/
theorem readDigits_lt {ds : List Char} (h : ∀ c ∈ ds, c.isDigit = true) :
    readDigits ds < 10 ^ ds.length := by
  induction ds using List.reverseRecOn with
  | nil => exact Nat.one_pos
  | append_singleton ds c ih =>
    obtain ⟨hds, hc⟩ := List.forall_mem_append.mp h
    obtain ⟨d, hd, rfl⟩ := exists_digitChar (hc c List.mem_cons_self)
    have hlt := ih hds
    rw [readDigits_concat ds hd, List.length_append, List.length_singleton, Nat.pow_succ]
    omega

/-! ### The digits of a natural number -/

theorem readDigits_toDigits (n : Nat) : readDigits (Nat.toDigits 10 n) = n :=
  Nat.ofDigitChars_ten_toDigits

theorem isDigit_of_mem_toDigits {n : Nat} {c : Char} (h : c ∈ Nat.toDigits 10 n) :
    c.isDigit = true :=
  Nat.isDigit_of_mem_toDigits (by decide) (by decide) h

/-- Only zero begins with a zero. -/
theorem head?_toDigits_ne_zero {n : Nat} (h : 0 < n) : (Nat.toDigits 10 n).head? ≠ some '0' := by
  -- the first digit is that of the number without its last one
  induction n using Nat.strongRecOn with
  | ind n ih =>
    rw [Nat.toDigits_eq_if (by decide)]
    split
    · rw [List.head?_cons, ne_eq, Option.some.injEq, Nat.digitChar_eq_zero]
      omega
    · rw [List.head?_append_of_ne_nil _ Nat.toDigits_ne_nil]
      exact ih (n / 10) (by omega) (by omega)

theorem isNumeral_toDigits (n : Nat) : IsNumeral (Nat.toDigits 10 n) where
  ne_nil := Nat.toDigits_ne_nil
  isDigit _ hc := isDigit_of_mem_toDigits hc
  trimmed hhead := by
    rcases Nat.eq_zero_or_pos n with rfl | hpos
    · exact Nat.toDigits_zero 10
    · exact absurd hhead (head?_toDigits_ne_zero hpos)

/-- The digits of a numeral before the last are a numeral. -/
theorem IsNumeral.of_concat {ds : List Char} {c : Char} (h : IsNumeral (ds ++ [c]))
    (hds : ds ≠ []) : IsNumeral ds ∧ ds.head? ≠ some '0' := by
  have hhead : ds.head? ≠ some '0' := by
    intro hzero
    rw [← List.head?_append_of_ne_nil _ hds] at hzero
    have hlength := congrArg List.length (h.trimmed hzero)
    rw [List.length_append, List.length_singleton, List.length_singleton] at hlength
    exact hds (List.length_eq_zero_iff.mp (by omega))
  exact ⟨⟨hds, fun c hc => h.isDigit c (List.mem_append_left _ hc), fun hzero =>
    absurd hzero hhead⟩, hhead⟩

/-- **A numeral is the digits of the number that it reads as.** -/
theorem IsNumeral.toDigits_readDigits {ds : List Char} (h : IsNumeral ds) :
    Nat.toDigits 10 (readDigits ds) = ds := by
  induction ds using List.reverseRecOn with
  | nil => exact absurd rfl h.ne_nil
  | append_singleton ds c ih =>
    have hc : c.isDigit = true := h.isDigit c (List.mem_append_right _ List.mem_cons_self)
    obtain ⟨d, hd, rfl⟩ := exists_digitChar hc
    rw [readDigits_concat ds hd]
    by_cases hds : ds = []
    · have hzero : readDigits [] = 0 := rfl
      rw [hds, hzero, Nat.mul_zero, Nat.zero_add, Nat.toDigits_of_lt_base hd, List.nil_append]
    · obtain ⟨hnumeral, hhead⟩ := h.of_concat hds
      have hdigits := ih hnumeral
      have hpos : 0 < readDigits ds := by
        refine Nat.pos_of_ne_zero fun hzero => hhead ?_
        rw [← hdigits, hzero, Nat.toDigits_zero]
        rfl
      rw [← Nat.toDigits_append_toDigits (by decide) hpos hd, hdigits, Nat.toDigits_of_lt_base hd]

theorem IsNumeral.eq_of_readDigits_eq {ds es : List Char} (hds : IsNumeral ds) (hes : IsNumeral es)
    (h : readDigits ds = readDigits es) : ds = es := by
  rw [← hds.toDigits_readDigits, h, hes.toDigits_readDigits]

/-- As many digits that read as one number are the same. -/
theorem eq_of_readDigits_eq {ds es : List Char} (hds : ∀ c ∈ ds, c.isDigit = true)
    (hes : ∀ c ∈ es, c.isDigit = true) (hlength : ds.length = es.length)
    (h : readDigits ds = readDigits es) : ds = es := by
  -- with a one before them they are numerals
  have hnumeral : ∀ {fs : List Char}, (∀ c ∈ fs, c.isDigit = true) → IsNumeral ('1' :: fs) := by
    intro fs hfs
    refine ⟨List.cons_ne_nil _ _, List.forall_mem_cons.mpr ⟨rfl, hfs⟩, fun hhead => ?_⟩
    exact absurd (Option.some.inj hhead) (by decide)
  have hvalue : readDigits (['1'] ++ ds) = readDigits (['1'] ++ es) := by
    rw [readDigits_append, readDigits_append, hlength, h]
  exact List.tail_eq_of_cons_eq ((hnumeral hds).eq_of_readDigits_eq (hnumeral hes) hvalue)

/-! ### Fields of fixed width -/

/-- A number that has no more digits than its field fills it. -/
theorem length_padded {width n : Nat} (hwidth : 0 < width) (h : n < 10 ^ width) :
    (padded width n).length = width := by
  have hlength : (Nat.toDigits 10 n).length ≤ width :=
    (Nat.length_toDigits_le_iff (by decide) hwidth).mpr h
  unfold padded
  rw [List.length_append, List.length_replicate]
  omega

theorem isDigit_of_mem_padded {width n : Nat} {c : Char} (h : c ∈ padded width n) :
    c.isDigit = true := by
  unfold padded at h
  rcases List.mem_append.mp h with hzero | hdigit
  · rw [List.eq_of_mem_replicate hzero]
    rfl
  · exact isDigit_of_mem_toDigits hdigit

theorem readDigits_replicate_zero (n : Nat) : readDigits (List.replicate n '0') = 0 := by
  unfold readDigits
  rw [Nat.ofDigitChars_replicate_zero, Nat.mul_zero]

/-- The zeros that fill a field do not count. -/
theorem readDigits_padded (width n : Nat) : readDigits (padded width n) = n := by
  unfold padded
  rw [readDigits_append, readDigits_toDigits, readDigits_replicate_zero, Nat.mul_zero,
    Nat.zero_add]

/-- Zeros after digits shift them. -/
theorem readDigits_append_zeros (ds : List Char) (n : Nat) :
    readDigits (ds ++ List.replicate n '0') = 10 ^ n * readDigits ds := by
  rw [readDigits_append, readDigits_replicate_zero, List.length_replicate, Nat.add_zero]

end Letterhead.Decimal
