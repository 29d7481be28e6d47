import Letterhead.Json.Printer
import Letterhead.Proofs.Decimal.Digits
import Letterhead.Proofs.Decimal.Double
import Letterhead.Proofs.Money.Display
import Letterhead.Proofs.Text.Trimming
import Letterhead.Template.Config

/-!
# Settings that are quoted

A form may hand over `30` as `"30"` and `true` as `"true"`, perhaps with blanks around it. A getter
reads such a text by rules of its own: a switch knows four words, `true` and `1`, `false` and `0`,
and a number is the digits of a natural number. That makes a truth value mean the same quoted or
not, and an integer the same number. Any other number is a switch for itself, but no word when it
is quoted, and a number with a fraction or a power of ten is cut for itself, but none when it is
quoted.

* `Number.isFigure_of_mem_text`, `Number.exists_mem_text` — what the texts of numbers are made of;
* `Number.numeral?_text_integer`, `Number.numeral?_text_of_ne` — the numerals among them;
* `IsQuoted` — a text that holds a value;
* `BlockConfig.flag_number`, `BlockConfig.number_number` — what the getters make of a number;
* `BlockConfig.flag_quoted`, `BlockConfig.number_quoted` — what they make of a quoted one;
* `BlockConfig.quoted_alike_iff` — where the two are the same.
-/

namespace Letterhead

open Decimal

/-! ### Natural numbers in text -/

section Numerals

variable {bits : ℕ}

/-- The value of digits is what they read as. -/
theorem Text.digitsValue?_eq {ds : List Char} (hne : ds ≠ []) (h : ∀ c ∈ ds, c.isDigit = true) :
    Text.digitsValue? ds = some (readDigits ds) := by
  have hdigits : (ds.isEmpty || !ds.all Char.isDigit) = false := by
    rw [List.isEmpty_eq_false_iff.mpr hne, List.all_eq_true.mpr h]
    rfl
  unfold Text.digitsValue?
  rw [hdigits, if_neg Bool.false_ne_true, foldl_eq_readDigits]

theorem Text.digitsValue?_eq_none {ds : List Char} {c : Char} (h : c ∈ ds)
    (hdigit : c.isDigit = false) : Text.digitsValue? ds = none := by
  have hall : ds.all Char.isDigit = false :=
    List.all_eq_false.mpr ⟨c, h, Bool.eq_false_iff.mp hdigit⟩
  unfold Text.digitsValue?
  rw [hall, Bool.not_false, Bool.or_true, if_pos rfl]

/-- The digits of a natural number are a numeral, if it is not too great. -/
theorem Text.numeral?_toDigits (n : ℕ) :
    Text.numeral? bits (Nat.toDigits 10 n) = if n < 2 ^ bits then some n else none := by
  have hvalue : Text.digitsValue? (Nat.toDigits 10 n) = some n := by
    rw [Text.digitsValue?_eq Nat.toDigits_ne_nil fun c hc => isDigit_of_mem_toDigits hc,
      readDigits_toDigits]
  unfold Text.numeral?
  split
  · next rest hplus =>
    -- digits do not begin with a sign
    have hmem : '+' ∈ Nat.toDigits 10 n := by
      rw [hplus]
      exact List.mem_cons_self
    exact absurd rfl (ne_of_isDigit (isDigit_of_mem_toDigits hmem) rfl)
  · dsimp only
    rw [hvalue, Option.filter_some]
    simp only [Nat.pow_eq, decide_eq_true_eq]

/-- What has another character in it than digits is no numeral, a plus sign aside. -/
theorem Text.numeral?_eq_none {cs : List Char} {c : Char} (h : c ∈ cs) (hplus : c ≠ '+')
    (hdigit : c.isDigit = false) : Text.numeral? bits cs = none := by
  unfold Text.numeral?
  split
  · next rest =>
    have hrest : c ∈ rest := (List.mem_cons.mp h).resolve_left hplus
    dsimp only
    rw [Text.digitsValue?_eq_none hrest hdigit, Option.filter_none]
  · dsimp only
    rw [Text.digitsValue?_eq_none h hdigit, Option.filter_none]

end Numerals

/-! ### The texts of numbers -/

/-- The characters that numbers are written with: digits, signs, a point and the letter before a
power of ten, and those of the word for what is not finite. -/
def IsFigure (c : Char) : Prop :=
  c.isDigit = true ∨ c ∈ ['+', '-', '.', 'e', 'n', 'u', 'l']

section Figures

variable {d : Digits} {range : Positional} {n : ℕ}

theorem isFigure_of_mem_toDigits {c : Char} (h : c ∈ Nat.toDigits 10 n) : IsFigure c :=
  Or.inl (isDigit_of_mem_toDigits h)

theorem isFigure_of_mem_zeros {c : Char} (h : c ∈ List.replicate n '0') : IsFigure c := by
  rw [List.eq_of_mem_replicate h]
  exact Or.inl rfl

theorem IsFigure.isBlank {c : Char} (h : IsFigure c) : Text.isBlank c = false := by
  rcases h with hdigit | hmem
  · exact Text.isBlank_of_isDigit hdigit
  · simp only [List.mem_cons, List.not_mem_nil, or_false] at hmem
    rcases hmem with rfl | rfl | rfl | rfl | rfl | rfl | rfl <;> rfl

/-- A decimal is written with figures. -/
theorem isFigure_of_mem_written : ∀ c ∈ d.written range, IsFigure c := by
  have hpower : ∀ c ∈ ['e', if 0 ≤ d.leading then '+' else '-'] ++
      Nat.toDigits 10 d.leading.natAbs, IsFigure c := by
    refine List.forall_mem_append.mpr ⟨?_, fun c => isFigure_of_mem_toDigits⟩
    refine List.forall_mem_cons.mpr ⟨Or.inr (by decide), List.forall_mem_singleton.mpr (Or.inr ?_)⟩
    split <;> decide
  have hzero : IsFigure '0' := Or.inl rfl
  have hpoint : IsFigure '.' := Or.inr (by decide)
  unfold Digits.written
  dsimp only
  split
  · split
    · refine List.forall_mem_append.mpr ⟨List.forall_mem_append.mpr ⟨?_, ?_⟩, ?_⟩
      · exact fun c => isFigure_of_mem_toDigits
      · exact fun c => isFigure_of_mem_zeros
      · exact List.forall_mem_cons.mpr ⟨hpoint, List.forall_mem_singleton.mpr hzero⟩
    · split
      · refine List.forall_mem_append.mpr ⟨List.forall_mem_append.mpr ⟨?_, ?_⟩, ?_⟩
        · exact fun c hc => isFigure_of_mem_toDigits (List.mem_of_mem_take hc)
        · exact List.forall_mem_singleton.mpr hpoint
        · exact fun c hc => isFigure_of_mem_toDigits (List.mem_of_mem_drop hc)
      · refine List.forall_mem_append.mpr ⟨List.forall_mem_append.mpr ⟨?_, ?_⟩, ?_⟩
        · exact List.forall_mem_cons.mpr ⟨hzero, List.forall_mem_singleton.mpr hpoint⟩
        · exact fun c => isFigure_of_mem_zeros
        · exact fun c => isFigure_of_mem_toDigits
  · have hdigits : ∀ c ∈ Nat.toDigits 10 d.digits, IsFigure c := fun c => isFigure_of_mem_toDigits
    split
    · exact hpower
    · next hds =>
      rw [hds] at hdigits
      exact List.forall_mem_cons.mpr ⟨hdigits _ List.mem_cons_self, hpower⟩
    · next hds =>
      rw [hds] at hdigits
      obtain ⟨hfirst, hrest⟩ := List.forall_mem_cons.mp hdigits
      exact List.forall_mem_append.mpr
        ⟨List.forall_mem_cons.mpr ⟨hfirst, List.forall_mem_cons.mpr ⟨hpoint, hrest⟩⟩, hpower⟩

/-- A decimal has a point or a power of ten. -/
theorem mem_written (d : Digits) (range : Positional) :
    '.' ∈ d.written range ∨ 'e' ∈ d.written range := by
  unfold Digits.written
  dsimp only
  split
  · left
    split
    · exact List.mem_append_right _ List.mem_cons_self
    · split
      · exact List.mem_append_left _ (List.mem_append_right _ List.mem_cons_self)
      · exact List.mem_append_left _ (List.mem_append_left _
          (List.mem_cons_of_mem _ List.mem_cons_self))
  · right
    split
    · exact List.mem_cons_self
    · exact List.mem_cons_of_mem _ List.mem_cons_self
    · exact List.mem_append_right _ List.mem_cons_self

end Figures

namespace Number

variable {n : Number}

/-- A number that is no integer is written as a decimal, if it is finite. -/
theorem text_of_ne (h : ∀ i, n ≠ .integer i) :
    n.text = "null" ∨ ∃ (b : Binary) (range : Positional), n.text = b.written range := by
  cases n with
  | integer i => exact absurd rfl (h i)
  | double x =>
    unfold text doubleText
    dsimp only
    split
    · exact Or.inr ⟨_, _, rfl⟩
    · exact Or.inl rfl
  | single x =>
    unfold text singleText
    dsimp only
    split
    · exact Or.inr ⟨_, _, rfl⟩
    · exact Or.inl rfl

theorem toList_written (b : Binary) (range : Positional) :
    (b.written range).toList = (if b.negative then ['-'] else []) ++ b.shortest.written range :=
  String.toList_ofList

/-- A number is written with figures. -/
theorem isFigure_of_mem_text : ∀ c ∈ n.text.toList, IsFigure c := by
  have hminus : ∀ c ∈ ['-'], IsFigure c := List.forall_mem_singleton.mpr (Or.inr (by decide))
  by_cases hinteger : ∃ i, n = .integer i
  · obtain ⟨i, rfl⟩ := hinteger
    unfold text
    rw [toList_toString]
    refine List.forall_mem_append.mpr ⟨?_, fun c => isFigure_of_mem_toDigits⟩
    split
    · exact hminus
    · exact List.forall_mem_nil _
  · rcases text_of_ne (not_exists.mp hinteger) with hnull | ⟨b, range, hwritten⟩
    · intro c hc
      rw [hnull] at hc
      have hmem : c ∈ ['n', 'u', 'l', 'l'] := hc
      simp only [List.mem_cons, List.not_mem_nil, or_false, or_self] at hmem
      rcases hmem with rfl | rfl | rfl <;> exact Or.inr (by decide)
    · rw [hwritten, toList_written]
      refine List.forall_mem_append.mpr ⟨?_, isFigure_of_mem_written⟩
      split
      · exact hminus
      · exact List.forall_mem_nil _

/-- A number that is no integer has more in its text than digits and signs. -/
theorem exists_mem_text (h : ∀ i, n ≠ .integer i) : ∃ c ∈ n.text.toList, c ∈ ['.', 'e', 'n'] := by
  rcases text_of_ne h with hnull | ⟨b, range, hwritten⟩
  · rw [hnull]
    exact ⟨'n', by decide, by decide⟩
  · rw [hwritten, toList_written]
    rcases mem_written b.shortest range with hpoint | hpower
    · exact ⟨'.', List.mem_append_right _ hpoint, by decide⟩
    · exact ⟨'e', List.mem_append_right _ hpower, by decide⟩

theorem toList_text_ne_nil : n.text.toList ≠ [] := by
  by_cases h : ∃ i, n = .integer i
  · obtain ⟨i, rfl⟩ := h
    unfold text
    rw [toList_toString]
    exact List.append_ne_nil_of_right_ne_nil _ Nat.toDigits_ne_nil
  · obtain ⟨c, hc, -⟩ := exists_mem_text (not_exists.mp h)
    exact List.ne_nil_of_mem hc

/-- Nothing is trimmed off the text of a number. -/
theorem isTight_text : Text.IsTight n.text.toList :=
  Text.isTight_of_forall toList_text_ne_nil fun c hc => (isFigure_of_mem_text c hc).isBlank

/-- No word is the text of a number. -/
theorem text_ne_of_mem {word : String} {c : Char} (hmem : c ∈ word.toList) (hc : ¬ IsFigure c) :
    n.text ≠ word := by
  rintro rfl
  exact hc (isFigure_of_mem_text c hmem)

/-- An integer reads as itself if it is natural and not too great. -/
theorem numeral?_text_integer (bits : ℕ) (i : ℤ) :
    Text.numeral? bits (text (.integer i)).toList =
      if 0 ≤ i ∧ i < 2 ^ bits then some i.toNat else none := by
  unfold text
  rw [toList_toString]
  by_cases hsign : i < 0
  · -- a minus sign is none of the characters of a numeral
    rw [if_pos hsign, if_neg (by omega)]
    exact Text.numeral?_eq_none List.mem_cons_self (by decide) rfl
  · have hbound : i.natAbs < 2 ^ bits ↔ 0 ≤ i ∧ i < 2 ^ bits := by
      zify
      rw [abs_of_nonneg (not_lt.mp hsign)]
      exact (and_iff_right (not_lt.mp hsign)).symm
    have hnat : i.natAbs = i.toNat := by omega
    rw [if_neg hsign, List.nil_append, Text.numeral?_toDigits, hnat]
    rw [hnat] at hbound
    simp only [hbound]

/-- Nothing else than an integer does. -/
theorem numeral?_text_of_ne (bits : ℕ) (h : ∀ i, n ≠ .integer i) :
    Text.numeral? bits n.text.toList = none := by
  obtain ⟨c, hc, hmem⟩ := exists_mem_text h
  simp only [List.mem_cons, List.not_mem_nil, or_false] at hmem
  rcases hmem with rfl | rfl | rfl <;> exact Text.numeral?_eq_none hc (by decide) rfl

/-- A number that is written as a natural number is that number. -/
theorem eq_integer_of_numeral? (bits : ℕ) {m : ℕ}
    (h : Text.numeral? bits n.text.toList = some m) :
    n = .integer m := by
  by_cases hinteger : ∃ i, n = .integer i
  · obtain ⟨i, rfl⟩ := hinteger
    rw [numeral?_text_integer] at h
    split at h
    · next hrange =>
      rw [← Option.some.inj h, Int.toNat_of_nonneg hrange.1]
    · cases h
  · rw [numeral?_text_of_ne bits (not_exists.mp hinteger)] at h
    cases h

end Number

/-! ### Quoted values -/

/-- Whether a text quotes a value: it holds the text of the value, with or without blanks around
it. -/
def IsQuoted (v : Json) (s : String) : Prop :=
  Text.AmidBlanks v.compact.toList s.toList

theorem isTight_compact_bool (b : Bool) : Text.IsTight (Json.bool b).compact.toList := by
  cases b with
  | false => exact ⟨⟨'f', rfl, rfl⟩, ⟨'e', rfl, rfl⟩⟩
  | true => exact ⟨⟨'t', rfl, rfl⟩, ⟨'e', rfl, rfl⟩⟩

/-- What is quoted is what is left without the blanks. -/
theorem IsQuoted.trim_eq {v : Json} {s : String} (h : IsQuoted v s)
    (htight : Text.IsTight v.compact.toList) : Text.trim s.toList = v.compact.toList :=
  htight.trim_eq_of_amidBlanks h

namespace BlockConfig

variable {config quoted : BlockConfig} {key s : String} {n : Number}

/-- The position of a switch that is given as a word. -/
theorem flag_of_string (h : config.get? key = some (.string s)) {word : String}
    (hword : Text.trim s.toList = word.toList) (default : Bool) :
    config.flag key default =
      if word = "true" ∨ word = "1" then true
      else if word = "false" ∨ word = "0" then false else default := by
  have htrimmed : Text.trimmed s = word := by
    rw [Text.trimmed, hword, String.ofList_toList]
  unfold flag
  rw [h]
  dsimp only
  rw [htrimmed]
  simp only [Bool.or_eq_true, decide_eq_true_eq]

/-- A quoted number is a switch if it is zero or one. -/
theorem flag_quoted (hquoted : quoted.get? key = some (.string s)) (h : IsQuoted (.number n) s)
    (default : Bool) :
    quoted.flag key default =
      if n.text = "1" then true else if n.text = "0" then false else default := by
  have hword : Text.trim s.toList = n.text.toList := IsQuoted.trim_eq h Number.isTight_text
  -- neither word is made of figures
  have htrue : n.text ≠ "true" :=
    Number.text_ne_of_mem (c := 't') (by decide) (by unfold IsFigure; decide)
  have hfalse : n.text ≠ "false" :=
    Number.text_ne_of_mem (c := 'f') (by decide) (by unfold IsFigure; decide)
  rw [flag_of_string hquoted hword]
  simp only [htrue, hfalse, false_or]

/-- A quoted number is the natural number that its text is. -/
theorem number_quoted (hquoted : quoted.get? key = some (.string s)) (h : IsQuoted (.number n) s) :
    quoted.number key = Text.numeral? 32 n.text.toList := by
  have hword : Text.trim s.toList = n.text.toList := IsQuoted.trim_eq h Number.isTight_text
  unfold number
  rw [hquoted]
  dsimp only
  rw [hword]

/-- A natural number of 32 bits keeps what is before the point of a number that is in its range. -/
theorem cutToNatural_eq {x : Float} {b : Binary} (h : Binary.ofFloat x = some b) :
    cutToNatural x = if 0 ≤ b.value ∧ b.value < 2 ^ 32 then some ⌊b.value⌋₊ else none := by
  unfold cutToNatural
  by_cases hnonneg : 0 ≤ b.value
  · have hrange : min ⌊b.value⌋₊ (2 ^ 64 - 1) < 2 ^ 32 ↔ b.value < 2 ^ 32 := by
      have hfloor : ⌊b.value⌋₊ < 2 ^ 32 ↔ b.value < 2 ^ 32 := by
        rw [Nat.floor_lt hnonneg]
        norm_num
      rw [← hfloor]
      omega
    -- cutting to 64 bits first changes only numbers that 32 bits do not hold
    rw [if_pos ((Binary.zero_le_iff h).mpr hnonneg), Binary.toNat_toUInt64 h hnonneg,
      Option.filter_some]
    simp only [Nat.pow_eq, decide_eq_true_eq, hrange, hnonneg, true_and]
    split
    · next hlt =>
      have hfloor : ⌊b.value⌋₊ < 2 ^ 32 := by
        rw [Nat.floor_lt hnonneg]
        exact_mod_cast hlt
      rw [Nat.min_eq_left (by omega)]
    · rfl
  · rw [if_neg (mt (Binary.zero_le_iff h).mp hnonneg), if_neg fun hrange => hnonneg hrange.1]

end BlockConfig

/-- The exact value of a number that a text of JSON gives: an integer, or a finite one of 64
bits. -/
def Number.value? : Number → Option ℚ
  | .integer i => some i
  | .double x => (Binary.ofFloat x).map Binary.value
  | .single _ => none

namespace BlockConfig

variable {config bare quoted : BlockConfig} {key s : String} {n : Number} {q : ℚ}

/-- A number is a switch that is off at zero. -/
theorem flag_number (h : config.get? key = some (.number n)) (hvalue : n.value? = some q)
    (default : Bool) : config.flag key default = decide (q ≠ 0) := by
  unfold flag
  rw [h]
  cases n with
  | integer i =>
    obtain rfl := Option.some.inj hvalue
    change (i != 0) = _
    rw [bne, beq_eq_decide, ← decide_not, decide_eq_decide, ne_eq, Int.cast_eq_zero]
  | double x =>
    obtain ⟨b, hb, rfl⟩ := Option.map_eq_some_iff.mp hvalue
    exact Binary.bne_zero_eq hb
  | single x => cases hvalue

/-- An integer is a number if it is natural and has no more than 32 bits. -/
theorem number_integer {i : ℤ} (h : config.get? key = some (.number (.integer i))) :
    config.number key = if 0 ≤ i ∧ i < 2 ^ 32 then some i.toNat else none := by
  unfold number
  rw [h]
  simp only [Bool.and_eq_true, decide_eq_true_eq, Nat.pow_eq, Nat.cast_pow, Nat.cast_ofNat]

/-- A number is cut to the natural number before its point. -/
theorem number_number (h : config.get? key = some (.number n)) (hvalue : n.value? = some q) :
    config.number key = if 0 ≤ q ∧ q < 2 ^ 32 then some ⌊q⌋₊ else none := by
  cases n with
  | integer i =>
    obtain rfl := Option.some.inj hvalue
    have hrange : 0 ≤ (i : ℚ) ∧ (i : ℚ) < 2 ^ 32 ↔ 0 ≤ i ∧ i < 2 ^ 32 := by
      exact_mod_cast Iff.rfl
    have hfloor : ⌊(i : ℚ)⌋₊ = i.toNat := by
      rw [← Int.floor_toNat, Int.floor_intCast]
    rw [number_integer h, hfloor]
    simp only [hrange]
  | double x =>
    obtain ⟨b, hb, rfl⟩ := Option.map_eq_some_iff.mp hvalue
    unfold number
    rw [h]
    exact cutToNatural_eq hb
  | single x => cases hvalue

/-! ### Quoted and not -/

/-- A number is the same switch quoted if its text is that of a position. -/
theorem flag_quoted_iff (hbare : bare.get? key = some (.number n))
    (hquoted : quoted.get? key = some (.string s)) (h : IsQuoted (.number n) s) (default : Bool) :
    quoted.flag key default = bare.flag key default ↔
      n = .integer 0 ∨ n = .integer 1 ∨ bare.flag key default = default := by
  rw [flag_quoted hquoted h]
  by_cases hzero : n = .integer 0
  · subst hzero
    have htext : (Number.integer 0).text = "0" := rfl
    refine iff_of_true ?_ (Or.inl rfl)
    rw [flag_number hbare rfl, htext, if_neg (by decide), if_pos rfl, Int.cast_zero]
    rfl
  · by_cases hone : n = .integer 1
    · subst hone
      have htext : (Number.integer 1).text = "1" := rfl
      refine iff_of_true ?_ (Or.inr (Or.inl rfl))
      rw [flag_number hbare rfl, htext, if_pos rfl, Int.cast_one]
      rfl
    · -- the text is that of no position, for else it would read as zero or one
      have hunset : n.text ≠ "1" ∧ n.text ≠ "0" := by
        constructor
        · intro htext
          refine hone (Number.eq_integer_of_numeral? 32 ?_)
          rw [htext]
          decide
        · intro htext
          refine hzero (Number.eq_integer_of_numeral? 32 ?_)
          rw [htext]
          decide
      rw [if_neg hunset.1, if_neg hunset.2, or_iff_right hzero, or_iff_right hone]
      exact eq_comm

/-- A number is the same quoted if it is an integer, or none at all. -/
theorem number_quoted_iff (hbare : bare.get? key = some (.number n))
    (hquoted : quoted.get? key = some (.string s)) (h : IsQuoted (.number n) s) :
    quoted.number key = bare.number key ↔
      (∃ i, n = .integer i) ∨ bare.number key = none := by
  rw [number_quoted hquoted h]
  by_cases hinteger : ∃ i, n = .integer i
  · refine iff_of_true ?_ (Or.inl hinteger)
    obtain ⟨i, rfl⟩ := hinteger
    rw [number_integer hbare, Number.numeral?_text_integer]
  · rw [Number.numeral?_text_of_ne 32 (not_exists.mp hinteger), or_iff_right hinteger]
    exact eq_comm

/-- **A truth value means the same quoted or not, and so does an integer where a number is meant.**
A number does where a switch is meant only if it is the integer zero or one, or has the switch where
it would be without it; and one that is no integer does where a number is meant only if it is
none. -/
theorem quoted_alike_iff {v : Json} (hbare : bare.get? key = some v)
    (hquoted : quoted.get? key = some (.string s)) (h : IsQuoted v s) :
    (∀ b, v = .bool b → ∀ default, quoted.flag key default = bare.flag key default) ∧
    ∀ n, v = .number n →
      (∀ default, quoted.flag key default = bare.flag key default ↔
        n = .integer 0 ∨ n = .integer 1 ∨ bare.flag key default = default) ∧
      (quoted.number key = bare.number key ↔
        (∃ i, n = .integer i) ∨ bare.number key = none) ∧
      ∀ q, n.value? = some q →
        (∀ default, bare.flag key default = decide (q ≠ 0)) ∧
        bare.number key = if 0 ≤ q ∧ q < 2 ^ 32 then some ⌊q⌋₊ else none := by
  refine ⟨?_, ?_⟩
  · rintro b rfl default
    -- the text of a truth value is the word for it
    have hword := h.trim_eq (isTight_compact_bool b)
    rw [flag_of_string hquoted hword]
    unfold flag
    rw [hbare]
    cases b with
    | false => rfl
    | true => rfl
  · rintro n rfl
    exact ⟨flag_quoted_iff hbare hquoted h, number_quoted_iff hbare hquoted h,
      fun q hvalue => ⟨flag_number hbare hvalue, number_number hbare hvalue⟩⟩

theorem quoted_alike_iff_thirty :
    let bare : BlockConfig := ⟨[("days", .number (.integer 30))]⟩
    let quoted : BlockConfig := ⟨[("days", .string " 30\n")]⟩
    IsQuoted (.number (.integer 30)) " 30\n" ∧ quoted.number "days" = bare.number "days" ∧
      bare.number "days" = some 30 ∧ quoted.flag "days" true = bare.flag "days" true := by
  have hquoted : IsQuoted (.number (.integer 30)) " 30\n" :=
    ⟨[' '], ['\n'], List.forall_mem_singleton.mpr rfl, List.forall_mem_singleton.mpr rfl, rfl⟩
  have hbare : (⟨[("days", .number (.integer 30))]⟩ : BlockConfig).get? "days" =
      some (.number (.integer 30)) := rfl
  have hkept : (⟨[("days", .string " 30\n")]⟩ : BlockConfig).get? "days" =
      some (.string " 30\n") := rfl
  obtain ⟨hflag, hnumber, hvalue⟩ := (quoted_alike_iff hbare hkept hquoted).2 _ rfl
  have hthirty := hvalue 30 rfl
  refine ⟨hquoted, hnumber.mpr (Or.inl ⟨30, rfl⟩), ?_, ?_⟩
  · rw [hthirty.2]
    norm_num
  · refine (hflag true).mpr (Or.inr (Or.inr ?_))
    rw [hthirty.1]
    norm_num

/-- A number that is on as it is, and not set where it is quoted; and one that is cut as it is, and
none where it is quoted. -/
theorem quoted_unlike :
    let bare : BlockConfig := ⟨[("a", .number (.integer 30)), ("b", .number (.double 7.5))]⟩
    let quoted : BlockConfig := ⟨[("a", .string "30"), ("b", .string "7.5")]⟩
    (IsQuoted (.number (.integer 30)) "30" ∧ bare.flag "a" false = true ∧
      quoted.flag "a" false = false) ∧
    IsQuoted (.number (.double 7.5)) "7.5" ∧ bare.number "b" = some 7 ∧
      quoted.number "b" = none := by
  have hthirty : IsQuoted (.number (.integer 30)) "30" := Text.amidBlanks_self _
  have htext : doubleText 7.5 = "7.5" := by decide +kernel
  have hfraction : IsQuoted (.number (.double 7.5)) "7.5" := by
    rw [← htext]
    exact Text.amidBlanks_self _
  refine ⟨⟨hthirty, rfl, by decide⟩, hfraction, ?_, by decide⟩
  decide +kernel

end BlockConfig

end Letterhead
