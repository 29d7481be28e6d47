import Mathlib.Data.List.TakeWhile
import Mathlib.Tactic.LinearCombination
import Letterhead.Proofs.Decimal.Digits
import Letterhead.Proofs.Decimal.Value
import Letterhead.Proofs.Money.Display

/-!
# Numbers in writing

A number is shown rounded to two decimals, in the one way that such a number is written: no zero
before other digits, none at the end of the decimals, a comma only before decimals, and a minus sign
only for what is negative. Read back, it is the rounded number.

Two things are not written so: an integer that does not fit into a word with a sign is shown as the
end of the words, and what is negative and rounds to zero keeps its minus sign.

* `IsMagnitude`, `readNumber`, `IsCanonical` — how a number is written, and how it is read;
* `IsCanonical.unique` — a number is written one way;
* `signedText`, `isCanonical_signedText` — hundredths with their sign are written so;
* `numberText_of_isIntegral`, `numberText_of_fraction` — what is shown of a number;
* `numberText_canonical_iff` — where it is the number in writing, and what it is elsewhere.
-/

namespace Letterhead

open Decimal

/-! ### Reading and writing -/

/-- Decimals: one or two digits, of which the last is no zero. -/
structure ArePlaces (ds : List Char) : Prop where
  length : ds.length = 1 ∨ ds.length = 2
  isDigit : ∀ c ∈ ds, c.isDigit = true
  trimmed : ds.getLast? ≠ some '0'

/-- How a number without a sign is written. -/
inductive IsMagnitude : List Char → Prop
  | whole {ds : List Char} (h : IsNumeral ds) : IsMagnitude ds
  | places {ds es : List Char} (h : IsNumeral ds) (hplaces : ArePlaces es) :
      IsMagnitude (ds ++ ',' :: es)

/-- The number that a text without a sign reads as: digits up to a comma, and decimals after it. -/
def readMagnitude (text : List Char) : ℚ :=
  let whole := text.takeWhile (· != ',')
  let places := text.drop (whole.length + 1)
  readDigits (whole ++ places) / 10 ^ places.length

/-- The number that a text reads as. -/
def readNumber : List Char → ℚ
  | '-' :: text => -readMagnitude text
  | text => readMagnitude text

/-- Whether a text is the number `q` in writing. -/
structure IsCanonical (text : List Char) (q : ℚ) : Prop where
  form : ∃ magnitude, IsMagnitude magnitude ∧ (text = magnitude ∨ text = '-' :: magnitude)
  /-- There are decimals only for what is no integer. -/
  comma : ',' ∈ text ↔ ¬ ∃ n : ℤ, q = n
  point : '.' ∉ text
  /-- Zero has no sign. -/
  minus : '-' ∈ text ↔ q < 0
  reads : readNumber text = q

theorem IsMagnitude.isDigit_or_eq {text : List Char} (h : IsMagnitude text) {c : Char}
    (hc : c ∈ text) : c.isDigit = true ∨ c = ',' := by
  cases h with
  | whole h => exact Or.inl (h.isDigit c hc)
  | places h hplaces =>
    rcases List.mem_append.mp hc with hc | hc
    · exact Or.inl (h.isDigit c hc)
    · rcases List.mem_cons.mp hc with rfl | hc
      · exact Or.inr rfl
      · exact Or.inl (hplaces.isDigit c hc)

/-- A number without a sign has neither a minus sign nor a point. -/
theorem IsMagnitude.not_mem {text : List Char} (h : IsMagnitude text) {c : Char}
    (hdigit : c.isDigit = false) (hcomma : c ≠ ',') : c ∉ text := by
  intro hc
  rcases h.isDigit_or_eq hc with hc | hc
  · exact ne_of_isDigit hc hdigit rfl
  · exact hcomma hc

theorem takeWhile_of_isDigit {ds : List Char} (h : ∀ c ∈ ds, c.isDigit = true) :
    ds.takeWhile (· != ',') = ds :=
  List.takeWhile_eq_self_iff.mpr fun c hc => bne_iff_ne.mpr (ne_of_isDigit (h c hc) rfl)

theorem readMagnitude_whole {ds : List Char} (h : IsNumeral ds) :
    readMagnitude ds = readDigits ds := by
  unfold readMagnitude
  dsimp only
  rw [takeWhile_of_isDigit h.isDigit, List.drop_eq_nil_of_le (Nat.le_succ _), List.append_nil,
    List.length_nil, pow_zero, div_one]

theorem readMagnitude_places {ds : List Char} (h : IsNumeral ds) (es : List Char) :
    readMagnitude (ds ++ ',' :: es) = readDigits (ds ++ es) / 10 ^ es.length := by
  have hwhole : (ds ++ ',' :: es).takeWhile (· != ',') = ds := by
    rw [List.takeWhile_append_of_pos, List.takeWhile_cons_of_neg (by decide), List.append_nil]
    exact fun c hc => bne_iff_ne.mpr (ne_of_isDigit (h.isDigit c hc) rfl)
  have hplaces : (ds ++ ',' :: es).drop (ds.length + 1) = es := by
    rw [List.append_cons]
    exact List.drop_left' (by rw [List.length_append, List.length_singleton])
  unfold readMagnitude
  dsimp only
  rw [hwhole, hplaces]

/-- A text without a minus sign reads as a number without a sign. -/
theorem readNumber_of_not_mem {text : List Char} (h : '-' ∉ text) :
    readNumber text = readMagnitude text := by
  unfold readNumber
  split
  · exact absurd List.mem_cons_self h
  · rfl

/-! ### One way of writing -/

/-- A numeral has no comma. -/
theorem comma_not_mem {ds : List Char} (h : IsNumeral ds) : ',' ∉ ds := fun hmem =>
  ne_of_isDigit (h.isDigit _ hmem) rfl rfl

/-- Digits that end in decimals read as no multiple of ten. -/
theorem ArePlaces.readDigits_mod_ten {es : List Char} (h : ArePlaces es) (ds : List Char) :
    readDigits (ds ++ es) % 10 ≠ 0 := by
  have hne : es ≠ [] := by
    rintro rfl
    exact absurd h.length (by decide)
  obtain ⟨init, c, rfl⟩ := (List.eq_nil_or_concat' es).resolve_left hne
  have hc : c.isDigit = true := h.isDigit c (List.mem_append_right _ List.mem_cons_self)
  obtain ⟨d, hd, rfl⟩ := exists_digitChar hc
  have hlast : d ≠ 0 := by
    rintro rfl
    exact h.trimmed List.getLast?_concat
  rw [← List.append_assoc, readDigits_concat _ hd]
  omega

/-- Numbers with decimals that read alike are written alike. -/
theorem ArePlaces.unique {ds ds' es es' : List Char} (hds : IsNumeral ds) (hds' : IsNumeral ds')
    (h : ArePlaces es) (h' : ArePlaces es')
    (hvalue : readDigits (ds ++ es) * 10 ^ es'.length = readDigits (ds' ++ es') * 10 ^ es.length) :
    ds = ds' ∧ es = es' := by
  have hlast := h.readDigits_mod_ten ds
  have hlast' := h'.readDigits_mod_ten ds'
  have hlt := readDigits_lt h.isDigit
  have hlt' := readDigits_lt h'.isDigit
  -- one decimal and two would make a multiple of ten of the digits with two
  have hlength : es.length = es'.length := by
    rcases h.length with hone | htwo <;> rcases h'.length with hone' | htwo'
    · rw [hone, hone']
    · rw [hone, htwo'] at hvalue
      omega
    · rw [htwo, hone'] at hvalue
      omega
    · rw [htwo, htwo']
  rw [readDigits_append, readDigits_append, hlength] at hvalue
  rw [hlength] at hlt
  have hparts : readDigits ds = readDigits ds' ∧ readDigits es = readDigits es' := by
    rcases h'.length with hone | htwo
    · rw [hone] at hvalue hlt hlt'
      omega
    · rw [htwo] at hvalue hlt hlt'
      omega
  exact ⟨hds.eq_of_readDigits_eq hds' hparts.1,
    eq_of_readDigits_eq h.isDigit h'.isDigit hlength hparts.2⟩

/-- A number without a sign is written one way, with decimals or without. -/
theorem IsMagnitude.unique {text text' : List Char} (h : IsMagnitude text)
    (h' : IsMagnitude text') (hcomma : ',' ∈ text ↔ ',' ∈ text')
    (hvalue : readMagnitude text = readMagnitude text') : text = text' := by
  cases h with
  | whole hds =>
    cases h' with
    | whole hds' =>
      rw [readMagnitude_whole hds, readMagnitude_whole hds', Nat.cast_inj] at hvalue
      exact hds.eq_of_readDigits_eq hds' hvalue
    | places hds' hes' =>
      have hmem := hcomma.mpr (List.mem_append_right _ List.mem_cons_self)
      exact absurd hmem (comma_not_mem hds)
  | @places ds es hds hes =>
    cases h' with
    | whole hds' =>
      have hmem := hcomma.mp (List.mem_append_right _ List.mem_cons_self)
      exact absurd hmem (comma_not_mem hds')
    | @places ds' es' hds' hes' =>
      have hpow : ∀ k : ℕ, (10 : ℚ) ^ k ≠ 0 := fun k => pow_ne_zero k (by norm_num)
      rw [readMagnitude_places hds, readMagnitude_places hds',
        div_eq_div_iff (hpow _) (hpow _)] at hvalue
      obtain ⟨rfl, rfl⟩ := ArePlaces.unique hds hds' hes hes' (by exact_mod_cast hvalue)
      rfl

/-- What is written of a number without its sign. -/
theorem IsCanonical.exists_magnitude {text : List Char} {q : ℚ} (h : IsCanonical text q) :
    ∃ magnitude, IsMagnitude magnitude ∧ text = (if q < 0 then ['-'] else []) ++ magnitude ∧
      readMagnitude magnitude = |q| ∧ (',' ∈ magnitude ↔ ¬ ∃ n : ℤ, q = n) := by
  obtain ⟨magnitude, hmagnitude, heq⟩ := h.form
  have hminus : '-' ∉ magnitude := hmagnitude.not_mem rfl (by decide)
  refine ⟨magnitude, hmagnitude, ?_⟩
  rcases heq with rfl | rfl
  · have hnonneg : ¬ q < 0 := fun hneg => hminus (h.minus.mpr hneg)
    rw [if_neg hnonneg, abs_of_nonneg (not_lt.mp hnonneg), ← readNumber_of_not_mem hminus]
    exact ⟨rfl, h.reads, h.comma⟩
  · have hneg : q < 0 := h.minus.mp List.mem_cons_self
    have hreads : -readMagnitude magnitude = q := h.reads
    rw [if_pos hneg, abs_of_neg hneg, ← hreads, neg_neg]
    refine ⟨rfl, rfl, ?_⟩
    rw [hreads, ← h.comma, List.mem_cons]
    exact (or_iff_right (by decide)).symm

/-- **A number is written one way.** -/
theorem IsCanonical.unique {text text' : List Char} {q : ℚ} (h : IsCanonical text q)
    (h' : IsCanonical text' q) : text = text' := by
  obtain ⟨magnitude, hmagnitude, rfl, hvalue, hcomma⟩ := h.exists_magnitude
  obtain ⟨magnitude', hmagnitude', rfl, hvalue', hcomma'⟩ := h'.exists_magnitude
  rw [hmagnitude.unique hmagnitude' (hcomma.trans hcomma'.symm) (hvalue.trans hvalue'.symm)]

/-! ### Hundredths -/

theorem getLast?_toDigits (n : Nat) :
    (Nat.toDigits 10 n).getLast? = some (Nat.digitChar (n % 10)) := by
  rw [Nat.toDigits_eq_if (by decide)]
  split
  · next h => rw [List.getLast?_singleton, Nat.mod_eq_of_lt h]
  · rw [List.getLast?_concat]

/-- The decimals of hundredths: none, or as many as they have digits that count. -/
theorem hundredthsText_cases (n : Nat) :
    (n % 100 = 0 ∧ hundredthsText n = Nat.toDigits 10 (n / 100)) ∨
      (n % 100 ≠ 0 ∧ ∃ es, ArePlaces es ∧ readDigits es * 100 = n % 100 * 10 ^ es.length ∧
        hundredthsText n = Nat.toDigits 10 (n / 100) ++ ',' :: es) := by
  unfold hundredthsText
  dsimp only
  split
  case isTrue hwhole => exact Or.inl ⟨hwhole, rfl⟩
  case isFalse hplaces =>
    refine Or.inr ⟨hplaces, ?_⟩
    split
    case isTrue htenths =>
      have hlength : (Nat.toDigits 10 (n % 100 / 10)).length = 1 := by
        rw [Nat.toDigits_of_lt_base (by omega), List.length_singleton]
      refine ⟨_, ⟨Or.inl hlength, fun _ => isDigit_of_mem_toDigits, ?_⟩, ?_, rfl⟩
      · rw [getLast?_toDigits, ne_eq, Option.some.injEq, Nat.digitChar_eq_zero]
        omega
      · rw [readDigits_toDigits, hlength]
        omega
    case isFalse hhundredths =>
      have hlength : (padded 2 (n % 100)).length = 2 :=
        length_padded (by decide) (Nat.mod_lt n (by decide))
      refine ⟨_, ⟨Or.inr hlength, fun _ => isDigit_of_mem_padded, ?_⟩, ?_, rfl⟩
      · unfold padded
        rw [List.getLast?_append_of_ne_nil _ Nat.toDigits_ne_nil, getLast?_toDigits, ne_eq,
          Option.some.injEq, Nat.digitChar_eq_zero]
        omega
      · rw [readDigits_padded, hlength]
        rfl

theorem isMagnitude_hundredthsText (n : Nat) : IsMagnitude (hundredthsText n) := by
  rcases hundredthsText_cases n with ⟨-, htext⟩ | ⟨-, es, hes, -, htext⟩
  · rw [htext]
    exact .whole (isNumeral_toDigits _)
  · rw [htext]
    exact .places (isNumeral_toDigits _) hes

/-- Hundredths read as what they are. -/
theorem readMagnitude_hundredthsText (n : Nat) : readMagnitude (hundredthsText n) = n / 100 := by
  have hsplit : (n : ℚ) = 100 * (n / 100 : ℕ) + (n % 100 : ℕ) := by
    exact_mod_cast (Nat.div_add_mod n 100).symm
  rcases hundredthsText_cases n with ⟨hwhole, htext⟩ | ⟨-, es, -, hvalue, htext⟩
  · rw [htext, readMagnitude_whole (isNumeral_toDigits _), readDigits_toDigits, hsplit, hwhole]
    push_cast
    ring
  · have hvalue : (readDigits es : ℚ) * 100 = (n % 100 : ℕ) * 10 ^ es.length := by
      exact_mod_cast hvalue
    have hpow : (10 : ℚ) ^ es.length ≠ 0 := pow_ne_zero _ (by norm_num)
    rw [htext, readMagnitude_places (isNumeral_toDigits _), readDigits_append, readDigits_toDigits,
      div_eq_div_iff hpow (by norm_num)]
    push_cast
    linear_combination hvalue - 10 ^ es.length * hsplit

theorem comma_mem_hundredthsText_iff (n : Nat) : ',' ∈ hundredthsText n ↔ n % 100 ≠ 0 := by
  rcases hundredthsText_cases n with ⟨hwhole, htext⟩ | ⟨hplaces, es, -, -, htext⟩
  · rw [htext]
    exact iff_of_false (comma_not_mem (isNumeral_toDigits _)) fun hne => hne hwhole
  · rw [htext]
    exact iff_of_true (List.mem_append_right _ List.mem_cons_self) hplaces

/-- Hundredths are an integer if none are left. -/
theorem exists_eq_hundredths_iff (n : ℕ) : (∃ m : ℤ, (n : ℚ) / 100 = m) ↔ n % 100 = 0 := by
  constructor
  · rintro ⟨m, hm⟩
    rw [div_eq_iff (by norm_num)] at hm
    have hcast : (n : ℤ) = m * 100 := by exact_mod_cast hm
    omega
  · intro hwhole
    refine ⟨(n / 100 : ℕ), ?_⟩
    rw [div_eq_iff (by norm_num)]
    have hsplit : n = n / 100 * 100 := by omega
    exact_mod_cast hsplit

/-- Hundredths without a sign are written in the canonical way. -/
theorem isCanonical_hundredthsText (n : ℕ) : IsCanonical (hundredthsText n) (n / 100) := by
  have hform : IsMagnitude (hundredthsText n) := isMagnitude_hundredthsText n
  have hminus : '-' ∉ hundredthsText n := hform.not_mem rfl (by decide)
  have hnonneg : (0 : ℚ) ≤ n / 100 := div_nonneg (Nat.cast_nonneg n) (by norm_num)
  refine ⟨⟨_, hform, Or.inl rfl⟩, ?comma, hform.not_mem rfl (by decide),
    iff_of_false hminus (not_lt.mpr hnonneg), ?reads⟩
  case comma => rw [comma_mem_hundredthsText_iff, exists_eq_hundredths_iff]
  case reads => rw [readNumber_of_not_mem hminus, readMagnitude_hundredthsText]

/-- A minus sign makes the negative of what is positive. -/
theorem IsCanonical.neg {text : List Char} {q : ℚ} (h : IsCanonical text q) (hpos : 0 < q) :
    IsCanonical ('-' :: text) (-q) := by
  have hminus : '-' ∉ text := fun hmem => lt_asymm hpos (h.minus.mp hmem)
  have hinteger : (∃ n : ℤ, -q = n) ↔ ∃ n : ℤ, q = n := by
    constructor
    · rintro ⟨n, hn⟩
      exact ⟨-n, by rw [Int.cast_neg, ← hn, neg_neg]⟩
    · rintro ⟨n, rfl⟩
      exact ⟨-n, (Int.cast_neg n).symm⟩
  obtain ⟨magnitude, hmagnitude, rfl | rfl⟩ := h.form
  case inr => exact absurd List.mem_cons_self hminus
  refine ⟨⟨text, hmagnitude, Or.inr rfl⟩, ?comma, ?point,
    iff_of_true List.mem_cons_self (neg_neg_of_pos hpos), ?reads⟩
  case comma =>
    rw [hinteger, ← h.comma, List.mem_cons]
    exact or_iff_right (by decide)
  case point =>
    rw [List.mem_cons, not_or]
    exact ⟨by decide, h.point⟩
  case reads =>
    have hreads : readMagnitude text = q := by
      rw [← readNumber_of_not_mem hminus]
      exact h.reads
    rw [readNumber, hreads]

/-- Hundredths with their sign. -/
def signedText (h : ℤ) : List Char :=
  (if h < 0 then ['-'] else []) ++ hundredthsText h.natAbs

/-- **Hundredths are written in the canonical way.** -/
theorem isCanonical_signedText (h : ℤ) : IsCanonical (signedText h) (h / 100) := by
  have hmagnitude : IsCanonical (hundredthsText h.natAbs) (h.natAbs / 100) :=
    isCanonical_hundredthsText h.natAbs
  unfold signedText
  by_cases hneg : h < 0
  · have habs : (h : ℚ) / 100 = -(h.natAbs / 100) := by
      have hcast : h = -(h.natAbs : ℤ) := by omega
      rw [← neg_div]
      congr 1
      exact_mod_cast hcast
    have hpos : (0 : ℚ) < h.natAbs / 100 :=
      div_pos (by exact_mod_cast Int.natAbs_pos.mpr hneg.ne) (by norm_num)
    rw [if_pos hneg, habs]
    exact hmagnitude.neg hpos
  · have habs : (h : ℚ) = (h.natAbs : ℚ) := by
      have hcast : (h.natAbs : ℤ) = h := by omega
      rw [← Int.cast_natCast, hcast]
    rw [if_neg hneg, habs]
    exact hmagnitude

/-- And they are no other number in writing. -/
theorem isCanonical_signedText_iff (h : ℤ) {q : ℚ} :
    IsCanonical (signedText h) q ↔ q = h / 100 := by
  constructor
  · intro hq
    rw [← hq.reads, (isCanonical_signedText h).reads]
  · rintro rfl
    exact isCanonical_signedText h

/-! ### What is shown of a number -/

theorem hundredthsText_mul (n : ℕ) : hundredthsText (100 * n) = Nat.toDigits 10 n := by
  unfold hundredthsText
  dsimp only
  rw [Nat.mul_mod_right, Nat.mul_div_cancel_left n (by decide), if_pos rfl]

/-- An integer is written as its hundredths are. -/
theorem toList_toString_eq_signedText (n : ℤ) : (toString n).toList = signedText (100 * n) := by
  have hsign : 100 * n < 0 ↔ n < 0 := by omega
  have habs : (100 * n).natAbs = 100 * n.natAbs := Int.natAbs_mul 100 n
  unfold signedText
  rw [toList_toString, habs, hundredthsText_mul]
  simp only [hsign]

variable {x : Float} {b : Binary}

/-- An integer is shown as it is, or as the end of the words. -/
theorem numberText_of_isIntegral (h : Binary.ofFloat x = some b) (hinteger : b.isIntegral = true) :
    numberText x = toString (clampToWord b.integerPart) := by
  unfold numberText
  rw [h]
  dsimp only
  rw [if_pos hinteger]

/-- What has a fraction is shown as its hundredths, with the sign of the number. -/
theorem numberText_of_fraction (h : Binary.ofFloat x = some b) (hfraction : b.isIntegral = false) :
    numberText x = String.ofList
      ((if b.negative then ['-'] else []) ++ hundredthsText b.hundredths.natAbs) := by
  have hscaled : b.hundredths.natAbs = b.scaled 2 := by
    unfold Binary.hundredths
    split <;> omega
  unfold numberText
  rw [h]
  dsimp only
  rw [hfraction, if_neg Bool.false_ne_true, hscaled]

theorem clampToWord_eq (n : ℤ) :
    clampToWord n = max (-9223372036854775808) (min n 9223372036854775807) := rfl

/-- A word with a sign is kept. -/
theorem clampToWord_eq_self_iff (n : ℤ) : clampToWord n = n ↔ -2 ^ 63 ≤ n ∧ n < 2 ^ 63 := by
  rw [clampToWord_eq]
  omega

/-- An integer is written if it is a word with a sign. -/
theorem isCanonical_of_isIntegral_iff (h : Binary.ofFloat x = some b)
    (hinteger : b.isIntegral = true) :
    IsCanonical (numberText x).toList (b.hundredths / 100) ↔
      -2 ^ 63 ≤ b.value ∧ b.value < 2 ^ 63 := by
  have hbounds : -2 ^ 63 ≤ b.value ∧ b.value < 2 ^ 63 ↔
      -2 ^ 63 ≤ b.integerPart ∧ b.integerPart < 2 ^ 63 := by
    rw [Binary.value_eq_integerPart hinteger]
    exact_mod_cast Iff.rfl
  rw [hbounds, ← clampToWord_eq_self_iff, numberText_of_isIntegral h hinteger,
    toList_toString_eq_signedText, isCanonical_signedText_iff,
    Binary.hundredths_of_isIntegral hinteger, div_left_inj' (by norm_num), Int.cast_inj]
  omega

/-- Nothing between zero and the integer below is one. -/
theorem isIntegral_eq_false_of_small (hlow : -1 / 200 ≤ b.value) (hneg : b.value < 0) :
    b.isIntegral = false := by
  refine Bool.eq_false_iff.mpr fun hinteger => ?_
  rw [Binary.value_eq_integerPart hinteger] at hlow hneg
  have hpart : b.integerPart + 1 ≤ 0 := by exact_mod_cast hneg
  have hcast : (b.integerPart : ℚ) + 1 ≤ 0 := by exact_mod_cast hpart
  linarith

/-- A number that rounds to zero keeps its sign. -/
theorem numberText_of_small (h : Binary.ofFloat x = some b) (hlow : -1 / 200 ≤ b.value)
    (hneg : b.value < 0) : numberText x = "-0" := by
  have hnegative : b.negative = true := by
    by_contra hpos
    exact absurd (Binary.value_nonneg (Bool.eq_false_iff.mpr hpos)) (not_le.mpr hneg)
  have hfraction : b.isIntegral = false := isIntegral_eq_false_of_small hlow hneg
  have hzero : b.hundredths = 0 := by
    rw [Binary.hundredths_eq_zero_iff, abs_of_neg hneg]
    linarith
  rw [numberText_of_fraction h hfraction, hnegative, hzero]
  rfl

/-- That is no number in writing. -/
theorem not_isCanonical_minus_zero (q : ℚ) : ¬ IsCanonical "-0".toList q := by
  intro h
  have hneg : q < 0 := h.minus.mp (by decide)
  have hzero : readMagnitude ['0'] = readDigits ['0'] := readMagnitude_whole (isNumeral_toDigits 0)
  have hdigits : readDigits ['0'] = 0 := rfl
  have hreads : readNumber "-0".toList = 0 := by
    show -readMagnitude ['0'] = 0
    rw [hzero, hdigits, Nat.cast_zero, neg_zero]
  rw [← h.reads, hreads] at hneg
  exact lt_irrefl 0 hneg

/-- What has a fraction is written unless it rounds to zero from below. -/
theorem isCanonical_of_fraction_iff (h : Binary.ofFloat x = some b)
    (hfraction : b.isIntegral = false) :
    IsCanonical (numberText x).toList (b.hundredths / 100) ↔
      ¬ (-1 / 200 ≤ b.value ∧ b.value < 0) := by
  constructor
  · rintro hcanonical ⟨hlow, hneg⟩
    rw [numberText_of_small h hlow hneg] at hcanonical
    exact not_isCanonical_minus_zero _ hcanonical
  · intro hlarge
    -- the sign of the number is that of its hundredths
    have hsign : b.negative = true ↔ b.hundredths < 0 := by
      constructor
      · intro hnegative
        have hneg : b.value < 0 := Binary.value_neg hnegative hfraction
        have hsome : b.hundredths ≠ 0 := by
          rw [ne_eq, Binary.hundredths_eq_zero_iff, abs_of_neg hneg]
          intro hsmall
          exact hlarge ⟨by linarith, hneg⟩
        exact lt_of_le_of_ne (Binary.hundredths_nonpos hnegative) hsome
      · intro hneg
        by_contra hpos
        exact absurd (Binary.hundredths_nonneg (Bool.eq_false_iff.mpr hpos)) (not_le.mpr hneg)
    have htext : (numberText x).toList = signedText b.hundredths := by
      rw [numberText_of_fraction h hfraction, String.toList_ofList]
      unfold signedText
      simp only [hsign]
    rw [htext]
    exact isCanonical_signedText _

/-- A number as large as the ends of the words is an integer: it is more than a mantissa. -/
theorem isIntegral_of_large (h : Binary.ofFloat x = some b) (hlarge : 2 ^ 63 ≤ |b.value|) :
    b.isIntegral = true := by
  by_contra hfraction
  have hsmall : |b.value| < 2 ^ 53 := Binary.abs_value_lt h (Bool.eq_false_iff.mpr hfraction)
  have hpow : (2 : ℚ) ^ 53 ≤ 2 ^ 63 := by norm_num
  exact absurd (hsmall.trans_le hpow) (not_lt.mpr hlarge)

/-- Beyond the words on one side the greatest is shown. -/
theorem numberText_of_above (h : Binary.ofFloat x = some b) (hlarge : 2 ^ 63 ≤ b.value) :
    numberText x = "9223372036854775807" := by
  have habs : (2 : ℚ) ^ 63 ≤ |b.value| := hlarge.trans (le_abs_self _)
  have hinteger : b.isIntegral = true := isIntegral_of_large h habs
  rw [Binary.value_eq_integerPart hinteger] at hlarge
  have hpart : 2 ^ 63 ≤ b.integerPart := by exact_mod_cast hlarge
  have hclamp : clampToWord b.integerPart = 9223372036854775807 := by
    rw [clampToWord_eq]
    omega
  rw [numberText_of_isIntegral h hinteger, hclamp]
  rfl

/-- Beyond them on the other side the least is shown. -/
theorem numberText_of_below (h : Binary.ofFloat x = some b) (hlarge : b.value < -2 ^ 63) :
    numberText x = "-9223372036854775808" := by
  have habs : (2 : ℚ) ^ 63 ≤ |b.value| := by
    have hneg := neg_le_abs b.value
    linarith
  have hinteger : b.isIntegral = true := isIntegral_of_large h habs
  rw [Binary.value_eq_integerPart hinteger] at hlarge
  have hpart : b.integerPart < -2 ^ 63 := by exact_mod_cast hlarge
  have hclamp : clampToWord b.integerPart = -9223372036854775808 := by
    rw [clampToWord_eq]
    omega
  rw [numberText_of_isIntegral h hinteger, hclamp]
  rfl

/-- **Where a number is shown as it is written.** Its hundredths are nearest to its value, and there
is one way to write them. The text is these hundredths in writing exactly if the value lies within
the words with a sign and is not so little below zero that no hundredth is left. Beyond the words it
is the end of them, and of what is little below zero it is a zero with a minus sign. -/
theorem numberText_canonical_iff (h : Binary.ofFloat x = some b) :
    IsNearest (100 * b.value) b.hundredths ∧
    (∃! text, IsCanonical text (b.hundredths / 100)) ∧
    (IsCanonical (numberText x).toList (b.hundredths / 100) ↔
      (-2 ^ 63 ≤ b.value ∧ b.value < 2 ^ 63) ∧ ¬ (-1 / 200 ≤ b.value ∧ b.value < 0)) ∧
    (2 ^ 63 ≤ b.value → numberText x = "9223372036854775807") ∧
    (b.value < -2 ^ 63 → numberText x = "-9223372036854775808") ∧
    (-1 / 200 ≤ b.value → b.value < 0 → numberText x = "-0") := by
  have hwritten : IsCanonical (signedText b.hundredths) (b.hundredths / 100) :=
    isCanonical_signedText b.hundredths
  refine ⟨b.isNearest_hundredths, ⟨_, hwritten, fun text htext => htext.unique hwritten⟩, ?_,
    numberText_of_above h, numberText_of_below h, numberText_of_small h⟩
  cases hinteger : b.isIntegral with
  | true =>
    rw [isCanonical_of_isIntegral_iff h hinteger]
    have hsmall : ¬ (-1 / 200 ≤ b.value ∧ b.value < 0) := by
      rintro ⟨hlow, hneg⟩
      rw [isIntegral_eq_false_of_small hlow hneg] at hinteger
      cases hinteger
    exact (and_iff_left hsmall).symm
  | false =>
    rw [isCanonical_of_fraction_iff h hinteger]
    have hword : -2 ^ 63 ≤ b.value ∧ b.value < 2 ^ 63 := by
      obtain ⟨hlow, hhigh⟩ := abs_lt.mp (Binary.abs_value_lt h hinteger)
      have hpow : (2 : ℚ) ^ 53 ≤ 2 ^ 63 := by norm_num
      exact ⟨by linarith, by linarith⟩
    exact (and_iff_right hword).symm

/-- A number with two decimals is shown as it is written. -/
theorem numberText_canonical_iff_decimals :
    Binary.ofFloat 85.25 = some ⟨false, 341 * 2 ^ 44, -46, false⟩ ∧
      IsCanonical (numberText 85.25).toList (8525 / 100) := by
  have hfloat : Binary.ofFloat 85.25 = some ⟨false, 341 * 2 ^ 44, -46, false⟩ := by
    decide +kernel
  have hvalue : Binary.value ⟨false, 341 * 2 ^ 44, -46, false⟩ = 341 / 4 := by
    unfold Binary.value
    norm_num
  have hhundredths : Binary.hundredths ⟨false, 341 * 2 ^ 44, -46, false⟩ = 8525 := by
    decide +kernel
  refine ⟨hfloat, ?_⟩
  have hiff := (numberText_canonical_iff hfloat).2.2.1
  rw [hvalue, hhundredths] at hiff
  exact hiff.mpr ⟨⟨by norm_num, by norm_num⟩, fun h => absurd h.2 (by norm_num)⟩

/-- A thousandth below zero is shown as a negative zero, and ten quintillions as a number less than
them: neither is the number in writing. -/
theorem shown_as_another_number :
    (∃ b, Binary.ofFloat (-0.001) = some b ∧
      ¬ IsCanonical (numberText (-0.001)).toList (b.hundredths / 100)) ∧
    ∃ b, Binary.ofFloat 1e19 = some b ∧
      ¬ IsCanonical (numberText 1e19).toList (b.hundredths / 100) := by
  have hsmall : numberText (-0.001) = "-0" := by decide +kernel
  have hlarge : Binary.ofFloat 1e19 = some ⟨false, 4882812500000000, 11, false⟩ := by
    decide +kernel
  have hvalue : Binary.value ⟨false, 4882812500000000, 11, false⟩ = 10 ^ 19 := by
    unfold Binary.value
    norm_num
  refine ⟨⟨⟨true, 4611686018427388, -62, false⟩, by decide +kernel, ?_⟩, _, hlarge, fun h => ?_⟩
  · rw [hsmall]
    exact not_isCanonical_minus_zero _
  · obtain ⟨-, hword⟩ := (isCanonical_of_isIntegral_iff hlarge (by decide +kernel)).mp h
    rw [hvalue] at hword
    exact absurd hword (by norm_num)

end Letterhead
