import Letterhead.Money.Display
import Letterhead.Proofs.Text.Trimming

/-!
# Figures show something

The text of a number has a digit, whichever way it is written, and a digit is no blank. So a number
is left out only where it is none.

* `isBlank_of_mem_toDigits` — the digits of a natural number are no blanks;
* `toList_toString` — the text of an integer has the digits of its magnitude;
* `isBlankText_toString`, `isBlankText_numberText` — the text of a number is not blank;
* `isEmpty_numberText_iff` — the numbers that show nothing.
-/

namespace Letterhead

open Decimal

/-- The digits of a natural number are no blanks. -/
theorem isBlank_of_mem_toDigits {n : Nat} {c : Char} (h : c ∈ Nat.toDigits 10 n) :
    Text.isBlank c = false :=
  Text.isBlank_of_isDigit (Nat.isDigit_of_mem_toDigits (by decide) (by decide) h)

/-- A natural number has a digit. -/
theorem exists_mem_toDigits (n : Nat) : ∃ c ∈ Nat.toDigits 10 n, Text.isBlank c = false := by
  obtain ⟨c, hc⟩ := List.exists_mem_of_length_pos (Nat.length_toDigits_pos (b := 10) (n := n))
  exact ⟨c, hc, isBlank_of_mem_toDigits hc⟩

theorem isBlankText_of_mem {s : String} {c : Char} (h : c ∈ s.toList)
    (hc : Text.isBlank c = false) : Text.isBlankText s = false := by
  refine Bool.eq_false_iff.mpr fun hblank => ?_
  have hall := List.all_eq_true.mp hblank c h
  rw [hc] at hall
  cases hall

/-- An integer is written with the digits of its magnitude. -/
theorem toList_toString (n : Int) :
    (toString n).toList = (if n < 0 then ['-'] else []) ++ Nat.toDigits 10 n.natAbs := by
  cases n with
  | ofNat m =>
    have hsign : ¬ (m : Int) < 0 := by omega
    rw [Int.ofNat_eq_natCast, if_neg hsign, List.nil_append, Int.natAbs_natCast]
    show (Nat.repr m).toList = _
    rw [Nat.repr_eq_ofList_toDigits, String.toList_ofList]
  | negSucc m =>
    rw [if_pos (Int.negSucc_lt_zero m), Int.natAbs_negSucc]
    show ("-" ++ Nat.repr (m + 1)).toList = _
    rw [String.toList_append, Nat.repr_eq_ofList_toDigits, String.toList_ofList,
      String.toList_ofList]

/-- An integer is not blank: it has the digits of its magnitude. -/
theorem isBlankText_toString (n : Int) : Text.isBlankText (toString n) = false := by
  obtain ⟨c, hc, hblank⟩ := exists_mem_toDigits n.natAbs
  refine isBlankText_of_mem ?_ hblank
  rw [toList_toString]
  exact List.mem_append_right _ hc

/-- A count of hundredths begins with the digits of its integer part. -/
theorem prefix_hundredthsText (n : Nat) : Nat.toDigits 10 (n / 100) <+: hundredthsText n := by
  unfold hundredthsText
  split
  · exact List.prefix_rfl
  · split <;> exact List.prefix_append _ _

/-- The text of a number is not blank. -/
theorem isBlankText_numberText {x : Float} (h : (Binary.ofFloat x).isSome = true) :
    Text.isBlankText (numberText x) = false := by
  obtain ⟨b, hb⟩ := Option.isSome_iff_exists.mp h
  unfold numberText
  rw [hb]
  dsimp only
  split
  · exact isBlankText_toString _
  · obtain ⟨c, hc, hblank⟩ := exists_mem_toDigits (b.scaled 2 / 100)
    refine isBlankText_of_mem ?_ hblank
    rw [String.toList_ofList]
    exact List.mem_append_right _ ((prefix_hundredthsText _).subset hc)

/-- What shows nothing is no number. -/
theorem isEmpty_numberText_iff (x : Float) :
    (numberText x).isEmpty = true ↔ (Binary.ofFloat x).isSome = false := by
  constructor
  · intro hempty
    refine Bool.eq_false_iff.mpr fun hsome => ?_
    have hblank := isBlankText_numberText hsome
    rw [String.isEmpty_iff.mp hempty] at hblank
    cases hblank
  · intro hnone
    have hb : Binary.ofFloat x = none := Option.not_isSome_iff_eq_none.mp (ne_true_of_eq_false hnone)
    have hnumber : numberText x = "" := by
      unfold numberText
      rw [hb]
    rw [hnumber]
    rfl

end Letterhead
