import Letterhead.Json.Printer
import Letterhead.Json.Token
import Letterhead.Proofs.Decimal.Digits
import Letterhead.Proofs.Decimal.Single

/-!
# The numbers of JSON texts

A number in JSON is a rational number in decimal: digits, perhaps a fraction, perhaps a power of ten,
and a minus sign before them if it is negative. However its shortest decimal is written down, around a
point or with a power, the text of a finite number is one of these and reads as that decimal. So
finite numbers of the 32-bit format of which the texts read alike are equal.

* `numberValue?` — the number that a text is, cut as the tokens of JSON are;
* `NumberText`, `NumberText.WellFormed.unsignedValue?_text` — a number in its parts, and how it reads;
* `isTextOf_written` — the digits of a decimal, written down, are one of these;
* `numberValue?_written` — the text of a finite number of the 32-bit format reads as its shortest
  decimal;
* `beq_of_numberValue?_eq` — numbers whose texts read alike are equal.
-/

namespace Letterhead.Json

open Decimal Token

/-! ### Reading -/

/-- The number that a text is, if it is one without a sign. -/
def unsignedValue? (cs : List Char) : Option ℚ :=
  let (whole, rest) := digits cs
  if whole.isEmpty || (whole.head? == some '0' && whole.length != 1) then none
  else do
    let (part, rest) ← fraction? rest
    let (power, rest) ← power? rest
    if rest.isEmpty then
      some (readDigits (whole ++ part) * 10 ^ (power.getD 0 - part.length : ℤ))
    else none

/-- The number that a text is, if it is one. -/
def numberValue? : List Char → Option ℚ
  | '-' :: cs => (unsignedValue? cs).map fun q => -q
  | cs => unsignedValue? cs

/-- A number in its parts: the digits before the point and after it, and the power of ten. -/
structure NumberText where
  whole : List Char
  part : List Char
  power : Option ℤ

namespace NumberText

/-- The fraction, which is missing if it has no digit. -/
def fractionText (part : List Char) : List Char :=
  if part.isEmpty then [] else '.' :: part

/-- The power of ten, if there is one. -/
def powerText : Option ℤ → List Char
  | none => []
  | some e => 'e' :: (if 0 ≤ e then '+' else '-') :: Nat.toDigits 10 e.natAbs

/-- The whole. -/
def text (t : NumberText) : List Char :=
  t.whole ++ (fractionText t.part ++ powerText t.power)

/-- The number. -/
def value (t : NumberText) : ℚ :=
  readDigits (t.whole ++ t.part) * 10 ^ (t.power.getD 0 - t.part.length : ℤ)

/-- Digits only, one before the point or more, and no zero before others. -/
structure WellFormed (t : NumberText) : Prop where
  whole_ne_nil : t.whole ≠ []
  isDigit_whole : ∀ c ∈ t.whole, c.isDigit = true
  leading : t.whole.head? = some '0' → t.whole = ['0']
  isDigit_part : ∀ c ∈ t.part, c.isDigit = true

end NumberText

/-- Digits are read up to what is no digit. -/
theorem digits_append {ds rest : List Char} (hds : ∀ c ∈ ds, c.isDigit = true)
    (hrest : ∀ c, rest.head? = some c → c.isDigit = false) : digits (ds ++ rest) = (ds, rest) := by
  have hstop : rest.takeWhile Char.isDigit = [] ∧ rest.dropWhile Char.isDigit = rest := by
    cases rest with
    | nil => exact ⟨rfl, rfl⟩
    | cons c cs =>
      have hc : ¬ c.isDigit = true := by
        rw [hrest c rfl]
        exact Bool.false_ne_true
      exact ⟨List.takeWhile_cons_of_neg hc, List.dropWhile_cons_of_neg hc⟩
  unfold digits
  rw [List.takeWhile_append_of_pos hds, List.dropWhile_append_of_pos hds, hstop.1, hstop.2,
    List.append_nil]

/-- The value of digits is what they read as. -/
theorem natOf_eq {ds : List Char} : natOf ds = readDigits ds :=
  foldl_eq_readDigits ds

theorem power?_powerText (power : Option ℤ) :
    power? (NumberText.powerText power) = some (power, []) := by
  cases power with
  | none => rfl
  | some e =>
    have hdigits : digits (Nat.toDigits 10 e.natAbs) = (Nat.toDigits 10 e.natAbs, []) := by
      have happend : digits (Nat.toDigits 10 e.natAbs ++ []) = (Nat.toDigits 10 e.natAbs, []) :=
        digits_append (fun c hc => isDigit_of_mem_toDigits hc) (fun c hc => by cases hc)
      rwa [List.append_nil] at happend
    have hne : (Nat.toDigits 10 e.natAbs).isEmpty = false :=
      List.isEmpty_eq_false_iff.mpr Nat.toDigits_ne_nil
    have hvalue : natOf (Nat.toDigits 10 e.natAbs) = e.natAbs := by
      rw [natOf_eq, readDigits_toDigits]
    have hletter : (decide ('e' = 'e') || decide ('e' = 'E')) = true := rfl
    unfold NumberText.powerText power?
    dsimp only
    rw [if_pos hletter]
    -- the sign is read before the digits and says whether they count below zero
    by_cases he : 0 ≤ e
    · have habs : (e.natAbs : ℤ) = e := Int.natAbs_of_nonneg he
      simp only [he, if_true, sign, hdigits, hne, hvalue, habs, Bool.false_eq_true, if_false]
    · have habs : -(e.natAbs : ℤ) = e := by omega
      simp only [he, if_true, sign, hdigits, hne, hvalue, habs, Bool.false_eq_true, if_false]

theorem fraction?_fractionText {part rest : List Char} (hpart : ∀ c ∈ part, c.isDigit = true)
    (hrest : ∀ c, rest.head? = some c → c.isDigit = false ∧ c ≠ '.') :
    fraction? (NumberText.fractionText part ++ rest) = some (part, rest) := by
  cases part with
  | nil =>
    change fraction? rest = some ([], rest)
    cases rest with
    | nil => rfl
    | cons c cs =>
      unfold fraction?
      split
      · next heq => exact absurd (List.head_eq_of_cons_eq heq) (hrest c rfl).2
      · rfl
  | cons d ds =>
    have hdigits := digits_append hpart fun c hc => (hrest c hc).1
    unfold NumberText.fractionText
    rw [List.isEmpty_cons, if_neg Bool.false_ne_true, List.cons_append]
    unfold fraction?
    simp only [hdigits, List.isEmpty_cons, Bool.false_eq_true, if_false]

/-- What follows the digits of a number begins with a letter or a point. -/
theorem head?_powerText {power : Option ℤ} {c : Char}
    (h : (NumberText.powerText power).head? = some c) : c = 'e' := by
  cases power with
  | none => cases h
  | some e => exact (Option.some.inj h).symm

/-- **A text in parts reads as their number.** -/
theorem NumberText.WellFormed.unsignedValue?_text {t : NumberText} (h : t.WellFormed) :
    unsignedValue? t.text = some t.value := by
  have hfraction : fraction? (fractionText t.part ++ powerText t.power) =
      some (t.part, powerText t.power) := by
    refine fraction?_fractionText h.isDigit_part fun c hc => ?_
    rw [head?_powerText hc]
    exact ⟨rfl, by decide⟩
  -- the digits before the point end at the point, at the power or with the text
  have hwhole : digits t.text = (t.whole, fractionText t.part ++ powerText t.power) := by
    refine digits_append h.isDigit_whole fun c hc => ?_
    cases hpart : t.part with
    | nil =>
      rw [hpart] at hc
      rw [head?_powerText hc]
      rfl
    | cons d ds =>
      rw [hpart] at hc
      rw [← Option.some.inj hc]
      rfl
  have hleading : (t.whole.isEmpty || (t.whole.head? == some '0' && t.whole.length != 1)) =
      false := by
    rw [Bool.or_eq_false_iff, List.isEmpty_eq_false_iff, Bool.and_eq_false_iff]
    refine ⟨h.whole_ne_nil, ?_⟩
    by_cases hzero : t.whole.head? = some '0'
    · right
      rw [h.leading hzero]
      rfl
    · left
      exact beq_eq_false_iff_ne.mpr hzero
  unfold unsignedValue? value
  simp only [hwhole, hleading, Bool.false_eq_true, if_false, hfraction, power?_powerText,
    Option.bind_eq_bind, Option.bind_some, List.isEmpty_nil, if_true]

/-! ### Writing -/

section Writing

variable {d : Digits}

/-- A text in parts that is the number of a decimal. -/
def IsTextOf (d : Digits) (text : List Char) : Prop :=
  ∃ t : NumberText, t.WellFormed ∧ text = t.text ∧ t.value = d.value

/-- The value of digits without a power of ten. -/
theorem value_eq_of_length {whole part : List Char}
    (hdigits : readDigits (whole ++ part) = d.digits) (hlength : (part.length : ℤ) = -d.exponent) :
    NumberText.value ⟨whole, part, none⟩ = d.value := by
  have hexponent : (Option.none.getD 0 - part.length : ℤ) = d.exponent := by
    rw [Option.getD_none, hlength]
    omega
  unfold NumberText.value Digits.value
  rw [hdigits, hexponent]

/-- An integer: the zeros of its power stand before the point, and one after it. -/
theorem isTextOf_integer (hzero : d.digits = 0 → d.exponent = 0) (hexponent : 0 ≤ d.exponent) :
    IsTextOf d (Nat.toDigits 10 d.digits ++ List.replicate d.exponent.toNat '0' ++ ['.', '0']) := by
  have hnumeral := isNumeral_toDigits d.digits
  refine ⟨⟨Nat.toDigits 10 d.digits ++ List.replicate d.exponent.toNat '0', ['0'], none⟩,
    ⟨?_, ?_, ?_, ?_⟩, rfl, ?_⟩
  · exact List.append_ne_nil_of_left_ne_nil hnumeral.ne_nil _
  · intro c hc
    rcases List.mem_append.mp hc with hc | hc
    · exact hnumeral.isDigit c hc
    · rw [List.eq_of_mem_replicate hc]
      rfl
  · intro hhead
    -- only zero begins with a zero, and it has no power that would put more zeros after it
    dsimp only at hhead ⊢
    rw [List.head?_append_of_ne_nil _ hnumeral.ne_nil] at hhead
    have hds := hnumeral.trimmed hhead
    have hdigits : d.digits = 0 := by
      rw [← readDigits_toDigits d.digits, hds]
      rfl
    rw [hds, hzero hdigits]
    rfl
  · intro c hc
    rw [List.mem_singleton.mp hc]
    rfl
  · have hwhole := readDigits_append_zeros (Nat.toDigits 10 d.digits) d.exponent.toNat
    have hlast := readDigits_append_zeros
      (Nat.toDigits 10 d.digits ++ List.replicate d.exponent.toNat '0') 1
    rw [hwhole, readDigits_toDigits] at hlast
    have hpower : (10 : ℚ) ^ d.exponent = 10 ^ d.exponent.toNat := by
      rw [← zpow_natCast, Int.toNat_of_nonneg hexponent]
    have hplace : (10 : ℚ) ^ (Option.none.getD 0 - ['0'].length : ℤ) = 10⁻¹ := by
      rw [Option.getD_none, List.length_singleton, Nat.cast_one, zero_sub, zpow_neg_one]
    unfold NumberText.value Digits.value
    dsimp only
    rw [hplace, ← List.replicate_one, hlast, hpower]
    push_cast
    field_simp

/-- Digits on both sides of the point. -/
theorem isTextOf_around (hexponent : d.exponent < 0) (hleading : 0 ≤ d.leading)
    (hzero : d.digits = 0 → d.exponent = 0) :
    IsTextOf d ((Nat.toDigits 10 d.digits).take (d.leading.toNat + 1) ++ ['.'] ++
      (Nat.toDigits 10 d.digits).drop (d.leading.toNat + 1)) := by
  have hnumeral := isNumeral_toDigits d.digits
  have hpos : 0 < (Nat.toDigits 10 d.digits).length := Nat.length_toDigits_pos
  have hlength : ((Nat.toDigits 10 d.digits).drop (d.leading.toNat + 1)).length =
      (-d.exponent).toNat := by
    rw [List.length_drop]
    unfold Digits.leading at *
    omega
  refine ⟨⟨(Nat.toDigits 10 d.digits).take (d.leading.toNat + 1),
    (Nat.toDigits 10 d.digits).drop (d.leading.toNat + 1), none⟩, ⟨?_, ?_, ?_, ?_⟩, ?_, ?_⟩
  · exact List.ne_nil_of_length_pos (by rw [List.length_take]; omega)
  · intro c hc
    exact hnumeral.isDigit c (List.mem_of_mem_take hc)
  · intro hhead
    dsimp only at hhead
    rw [List.head?_take, if_neg (Nat.succ_ne_zero _)] at hhead
    -- only zero begins with a zero, and its exponent is not negative
    have hdigits : d.digits = 0 := by
      rw [← readDigits_toDigits d.digits, hnumeral.trimmed hhead]
      rfl
    exact absurd (hzero hdigits) hexponent.ne
  · intro c hc
    exact hnumeral.isDigit c (List.mem_of_mem_drop hc)
  · have hne : ((Nat.toDigits 10 d.digits).drop (d.leading.toNat + 1)).isEmpty = false :=
      List.isEmpty_eq_false_iff.mpr (List.ne_nil_of_length_pos (by omega))
    unfold NumberText.text NumberText.fractionText NumberText.powerText
    dsimp only
    rw [hne, if_neg Bool.false_ne_true, List.append_nil, List.append_assoc, List.singleton_append]
  · refine value_eq_of_length ?_ (by omega)
    rw [List.take_append_drop, readDigits_toDigits]

/-- Digits after the point, with zeros between. -/
theorem isTextOf_below (hleading : d.leading < 0) :
    IsTextOf d (['0', '.'] ++ List.replicate ((-d.leading).toNat - 1) '0' ++
      Nat.toDigits 10 d.digits) := by
  have hpos : 0 < (Nat.toDigits 10 d.digits).length := Nat.length_toDigits_pos
  refine ⟨⟨['0'], List.replicate ((-d.leading).toNat - 1) '0' ++ Nat.toDigits 10 d.digits, none⟩,
    ⟨List.cons_ne_nil _ _, ?_, fun _ => rfl, ?_⟩, ?_, ?_⟩
  · intro c hc
    rw [List.mem_singleton.mp hc]
    rfl
  · intro c hc
    rcases List.mem_append.mp hc with hc | hc
    · rw [List.eq_of_mem_replicate hc]
      rfl
    · exact isDigit_of_mem_toDigits hc
  · have hne : (List.replicate ((-d.leading).toNat - 1) '0' ++
        Nat.toDigits 10 d.digits).isEmpty = false :=
      List.isEmpty_eq_false_iff.mpr (List.append_ne_nil_of_right_ne_nil _ Nat.toDigits_ne_nil)
    unfold NumberText.text NumberText.fractionText NumberText.powerText
    dsimp only
    rw [hne, if_neg Bool.false_ne_true, List.append_nil, List.append_assoc]
    rfl
  · refine value_eq_of_length ?_ ?_
    · rw [← List.append_assoc, ← List.replicate_one, List.replicate_append_replicate,
        readDigits_append, readDigits_replicate_zero, Nat.mul_zero, Nat.zero_add,
        readDigits_toDigits]
    · rw [List.length_append, List.length_replicate]
      unfold Digits.leading at *
      omega

/-- One digit before the point, the others after it, and a power. -/
theorem isTextOf_power {c : Char} {rest : List Char} (hds : Nat.toDigits 10 d.digits = c :: rest) :
    IsTextOf d (c :: (NumberText.fractionText rest ++ NumberText.powerText (some d.leading))) := by
  have hisDigit : ∀ x ∈ c :: rest, x.isDigit = true := by
    intro x hx
    rw [← hds] at hx
    exact isDigit_of_mem_toDigits hx
  refine ⟨⟨[c], rest, some d.leading⟩, ⟨List.cons_ne_nil _ _, ?_, ?_, ?_⟩, rfl, ?_⟩
  · intro x hx
    rw [List.mem_singleton.mp hx]
    exact hisDigit c List.mem_cons_self
  · intro hhead
    rw [Option.some.inj hhead]
  · intro x hx
    exact hisDigit x (List.mem_cons_of_mem _ hx)
  · have hexponent : ((some d.leading).getD 0 - rest.length : ℤ) = d.exponent := by
      unfold Digits.leading
      rw [Option.getD_some, hds, List.length_cons]
      omega
    unfold NumberText.value Digits.value
    dsimp only
    rw [List.singleton_append, ← hds, readDigits_toDigits, hexponent]

/-- **The digits of a decimal, written down, are its number in parts.** -/
theorem isTextOf_written (range : Positional) (hzero : d.digits = 0 → d.exponent = 0) :
    IsTextOf d (d.written range) := by
  unfold Digits.written
  dsimp only
  split
  · split
    · next hexponent => exact isTextOf_integer hzero hexponent
    · next hexponent =>
      split
      · next hleading => exact isTextOf_around (not_le.mp hexponent) hleading hzero
      · next hleading => exact isTextOf_below (not_le.mp hleading)
  · split
    · next hds => exact absurd hds Nat.toDigits_ne_nil
    · next c hds => exact isTextOf_power hds
    · next c rest hne hds =>
      have htext := isTextOf_power hds
      have hrest : rest.isEmpty = false := List.isEmpty_eq_false_iff.mpr fun hnil => by
        exact hne hnil
      unfold NumberText.fractionText at htext
      rw [hrest, if_neg Bool.false_ne_true] at htext
      exact htext

end Writing

/-! ### Numbers of the 32-bit format -/

/-- The text of a number in parts begins with a digit. -/
theorem IsTextOf.head? {d : Digits} {text : List Char} (h : IsTextOf d text) :
    text.head? ≠ some '-' := by
  obtain ⟨t, hform, rfl, -⟩ := h
  unfold NumberText.text
  rw [List.head?_append_of_ne_nil _ hform.whole_ne_nil]
  intro hhead
  exact absurd (hform.isDigit_whole '-' (List.mem_of_head? hhead)) (by decide)

theorem IsTextOf.unsignedValue? {d : Digits} {text : List Char} (h : IsTextOf d text) :
    Json.unsignedValue? text = some d.value := by
  obtain ⟨t, hform, rfl, hvalue⟩ := h
  rw [hform.unsignedValue?_text, hvalue]

/-- Only zero has no digit but zero, and then no power. -/
theorem exponent_shortest {b : Binary} (h : b.IsSingle) (hdigits : b.shortest.digits = 0) :
    b.shortest.exponent = 0 := by
  by_cases hmantissa : b.mantissa = 0
  · unfold Binary.shortest
    rw [if_pos hmantissa]
  · have hpos := h.shortest_value_pos hmantissa
    unfold Digits.value at hpos
    rw [hdigits, Nat.cast_zero, zero_mul] at hpos
    exact absurd hpos (lt_irrefl 0)

/-- **The text of a number of the format reads as its shortest decimal.** -/
theorem numberValue?_written {b : Binary} (h : b.IsSingle) (range : Positional) :
    numberValue? (b.written range).toList = some b.shortestValue := by
  have htext := isTextOf_written range (exponent_shortest h)
  unfold Binary.written Binary.shortestValue
  rw [String.toList_ofList]
  cases b.negative with
  | true =>
    rw [if_pos rfl, if_pos rfl, List.singleton_append, neg_one_mul]
    change (unsignedValue? _).map _ = _
    rw [htext.unsignedValue?, Option.map_some]
  | false =>
    rw [if_neg Bool.false_ne_true, if_neg Bool.false_ne_true, List.nil_append, one_mul]
    unfold numberValue?
    split
    · next heq => exact absurd (heq ▸ rfl) htext.head?
    · exact htext.unsignedValue?

/-- So does the text of every finite number. -/
theorem exists_numberValue? {x : Float32} (h : x.isFinite = true) :
    ∃ s e f, Binary.HasParts x s e f ∧
      numberValue? (singleText x).toList = some (Binary.ofParts s e f).shortestValue := by
  obtain ⟨s, e, f, hparts, hvalue⟩ := Binary.exists_hasParts h
  refine ⟨s, e, f, hparts, ?_⟩
  unfold singleText
  rw [hvalue]
  exact numberValue?_written hparts.isSingle Number.singleRange

/-- **Finite numbers whose texts read alike are equal.** -/
theorem beq_of_numberValue?_eq {x y : Float32} (hx : x.isFinite = true) (hy : y.isFinite = true)
    (h : numberValue? (singleText x).toList = numberValue? (singleText y).toList) :
    (x == y) = true := by
  obtain ⟨s, e, f, hparts, hvalue⟩ := exists_numberValue? hx
  obtain ⟨t, e', f', hparts', hvalue'⟩ := exists_numberValue? hy
  rw [hvalue, hvalue'] at h
  obtain ⟨hmantissa, hexponent, hsign⟩ :=
    hparts.isSingle.eq_of_shortestValue_eq hparts'.isSingle (Option.some.inj h)
  exact hparts.beq hparts' hx hmantissa hexponent hsign

end Letterhead.Json
