import Letterhead.Calendar.Format
import Letterhead.Proofs.Calendar.Counting
import Letterhead.Proofs.Decimal.Digits
import Letterhead.Proofs.Text.Trimming

/-!
# Spellings of dates

A date is spelled with its year first, between hyphens, perhaps with a time of day behind it, or
with its day first, between strokes. However it is spelled, and whatever blanks are around it, it is
read as that date: each number fills its place and ends at what divides it from the next, so what is
spelled one way is nothing in the other. The text of a date is one of its spellings.

* `Spelling`, `Names` — the spellings of a date, and the texts that hold one;
* `scanDigits_padded`, `scanPart_padded`, `scanYear_yearText` — the numbers at the front of a text;
* `ofIso?_isoText`, `ofStrokes?_text`, `ofIso?_text` — what is read of a date in either form;
* `cut_of_amidBlanks`, `cut_of_timed` — what does not count around it;
* `ofText?_of_names`, `ofText?_text` — a date is read from its spellings, its text among them;
* `isValid_of_ofText?` — and what is read is a date.
-/

namespace Letterhead.Date

open Decimal

/-! ### Spellings -/

/-- A date with the year first. -/
def isoText (d : Date) : List Char :=
  yearText d.year ++ '-' :: padded 2 d.month ++ '-' :: padded 2 d.day

/-- The spellings of a date: with the year first, with a time of day behind it, or as it is
written. -/
inductive Spelling (d : Date) : List Char → Prop
  | iso : Spelling d d.isoText
  | timed (time : List Char) : Spelling d (d.isoText ++ 'T' :: time)
  | strokes : Spelling d d.text.toList

/-- Whether a text is a spelling of a date, amid blanks or not. -/
def Names (d : Date) (s : String) : Prop :=
  ∃ cs, Spelling d cs ∧ Text.AmidBlanks cs s.toList

theorem toList_text (d : Date) :
    d.text.toList = padded 2 d.day ++ '/' :: padded 2 d.month ++ '/' :: yearText d.year :=
  String.toList_ofList

/-- A year of four digits is written with them. -/
theorem yearText_of_le {year : Int} (h : 0 ≤ year) (hlast : year ≤ 9999) :
    yearText year = padded 4 year.toNat := by
  unfold yearText
  rw [decide_eq_true h, decide_eq_true hlast, Bool.and_self, if_pos rfl]

/-! ### Reading numbers -/

section Scan

variable {ds rest : List Char}

/-- A rest that begins with no digit, at which a number ends. -/
def EndsNumber (rest : List Char) : Prop :=
  ∀ c, rest.head? = some c → c.isDigit = false

theorem endsNumber_nil : EndsNumber [] := by
  rintro c ⟨⟩

theorem endsNumber_cons {c : Char} (h : c.isDigit = false) (rest : List Char) :
    EndsNumber (c :: rest) := by
  rintro d ⟨⟩
  exact h

theorem padded_ne_nil (width n : Nat) : padded width n ≠ [] :=
  List.append_ne_nil_of_right_ne_nil _ Nat.toDigits_ne_nil

/-- Digits are read up to what is none. -/
theorem scanDigits_append {most : Nat} (hne : ds ≠ []) (hds : ∀ c ∈ ds, c.isDigit = true)
    (hlength : ds.length ≤ most) (hrest : EndsNumber rest) :
    scanDigits most (ds ++ rest) = some (readDigits ds, rest) := by
  have hread : ((ds ++ rest).take most).takeWhile Char.isDigit = ds := by
    rw [List.take_append, List.take_of_length_le hlength, List.takeWhile_append_of_pos hds]
    have hstop : (rest.take (most - ds.length)).takeWhile Char.isDigit = [] := by
      cases rest with
      | nil => rw [List.take_nil, List.takeWhile_nil]
      | cons c cs =>
        cases most - ds.length with
        | zero => rw [List.take_zero, List.takeWhile_nil]
        | succ n =>
          rw [List.take_succ_cons, List.takeWhile_cons_of_neg]
          exact Bool.eq_false_iff.mp (hrest c rfl)
    rw [hstop, List.append_nil]
  unfold scanDigits
  dsimp only
  rw [hread, List.isEmpty_eq_false_iff.mpr hne, if_neg Bool.false_ne_true, foldl_eq_readDigits,
    List.drop_left]

/-- A number is read from its field, whatever number it is. -/
theorem scanDigits_padded {most width n : Nat} (hlength : (padded width n).length ≤ most)
    (hrest : EndsNumber rest) : scanDigits most (padded width n ++ rest) = some (n, rest) := by
  have hscan := scanDigits_append (padded_ne_nil width n) (fun c => isDigit_of_mem_padded) hlength
    hrest
  rw [hscan, readDigits_padded]

theorem trimStart_padded (width n : Nat) (rest : List Char) :
    Text.trimStart (padded width n ++ rest) = padded width n ++ rest := by
  have htight : Text.IsTight (padded width n) :=
    Text.isTight_of_forall (padded_ne_nil width n) fun c hc =>
      Text.isBlank_of_isDigit (isDigit_of_mem_padded hc)
  exact Text.trimStart_append (List.forall_mem_nil _) htight.head rest

/-- A number of two digits is read as a month or a day. -/
theorem scanPart_padded {n : Nat} (h : n < 100) (hrest : EndsNumber rest) :
    scanPart (padded 2 n ++ rest) = some (n, rest) := by
  have hlength : (padded 2 n).length ≤ 2 := (length_padded (by decide) h).le
  unfold scanPart
  rw [trimStart_padded, scanDigits_padded hlength hrest]

/-- Without a sign, a number of up to four digits is read as a year. -/
theorem scanYear_padded {width n : Nat} (hlength : (padded width n).length ≤ 4)
    (hrest : EndsNumber rest) : scanYear (padded width n ++ rest) = some ((n : Int), rest) := by
  have hscan := scanDigits_padded hlength hrest
  have hsign : ∀ c cs, padded width n ++ rest = c :: cs → c.isDigit = true := by
    intro c cs h
    obtain ⟨d, ds, hds⟩ := List.exists_cons_of_ne_nil (padded_ne_nil width n)
    rw [hds] at h
    rw [← List.head_eq_of_cons_eq h]
    exact isDigit_of_mem_padded (hds ▸ List.mem_cons_self)
  unfold scanYear
  rw [trimStart_padded]
  -- a sign would be a digit here
  split
  · next h => exact absurd rfl (ne_of_isDigit (hsign _ _ h) (d := '-') rfl)
  · next h => exact absurd rfl (ne_of_isDigit (hsign _ _ h) (d := '+') rfl)
  · rw [hscan, Option.map_some]

/-- A year is read as it is written. -/
theorem scanYear_yearText (year : Int) (hrest : EndsNumber rest) :
    scanYear (yearText year ++ rest) = some (year, rest) := by
  by_cases hfour : 0 ≤ year ∧ year ≤ 9999
  · have hlength : (padded 4 year.toNat).length ≤ 4 :=
      (length_padded (by decide) (by omega : year.toNat < 10 ^ 4)).le
    rw [yearText_of_le hfour.1 hfour.2, scanYear_padded hlength hrest,
      Int.toNat_of_nonneg hfour.1]
  · -- any other year has a sign, and as many digits as it takes
    have hlength : (padded 4 year.natAbs).length ≤ (padded 4 year.natAbs ++ rest).length := by
      rw [List.length_append]
      exact Nat.le_add_right _ _
    have hscan := scanDigits_padded hlength hrest
    have hcond : (0 ≤ year && year ≤ 9999) = false := by
      rw [Bool.and_eq_false_iff, decide_eq_false_iff_not, decide_eq_false_iff_not]
      omega
    unfold yearText
    rw [hcond, if_neg Bool.false_ne_true, List.cons_append]
    by_cases hsign : year < 0
    · have hyear : -(year.natAbs : Int) = year := by omega
      rw [if_pos hsign]
      change (scanDigits _ _).map _ = _
      rw [hscan, Option.map_some]
      dsimp only
      rw [hyear]
    · have hyear : (year.natAbs : Int) = year := by omega
      rw [if_neg hsign]
      change (scanDigits _ _).map _ = _
      rw [hscan, Option.map_some]
      dsimp only
      rw [hyear]

end Scan

/-! ### Reading dates -/

section Read

variable {d : Date}

theorem skip_cons (c : Char) (rest : List Char) : skip c (c :: rest) = some rest :=
  if_pos rfl

theorem skip_of_ne {c e : Char} (h : c ≠ e) (rest : List Char) : skip c (e :: rest) = none :=
  if_neg h

theorem checked_nil (hvalid : d.isValid = true) (hrange : d.inRange = true) :
    checked d [] = some d := by
  unfold checked
  rw [hvalid, hrange]
  rfl

/-- The day and the month of a date have two digits. -/
theorem lt_hundred (hvalid : d.isValid = true) : d.month < 100 ∧ d.day < 100 := by
  obtain ⟨-, hmonth⟩ := month_of_isValid hvalid
  obtain ⟨-, hday⟩ := (isValid_iff d).mp hvalid
  have hlength := monthLength_le d.year d.month
  omega

/-- With the year first, a date is read as it is. -/
theorem ofIso?_isoText (hvalid : d.isValid = true) (hrange : d.inRange = true) :
    ofIso? d.isoText = some d := by
  obtain ⟨hmonth, hday⟩ := lt_hundred hvalid
  have hlast := scanPart_padded hday endsNumber_nil
  have hmiddle := scanPart_padded hmonth (endsNumber_cons (c := '-') rfl (padded 2 d.day))
  have hfirst := scanYear_yearText d.year
    (endsNumber_cons (c := '-') rfl (padded 2 d.month ++ '-' :: padded 2 d.day))
  rw [List.append_nil] at hlast
  unfold ofIso? isoText
  rw [List.append_assoc, List.cons_append, hfirst, Option.bind_eq_bind, Option.bind_some]
  dsimp only
  rw [skip_cons]
  simp only [Option.bind_eq_bind, Option.bind_some, skip_cons, hmiddle, hlast,
    checked_nil hvalid hrange]

/-- A date is read as it is written. -/
theorem ofStrokes?_text (hvalid : d.isValid = true) (hrange : d.inRange = true) :
    ofStrokes? d.text.toList = some d := by
  obtain ⟨hmonth, hday⟩ := lt_hundred hvalid
  have hlast := scanYear_yearText d.year endsNumber_nil
  have hmiddle := scanPart_padded hmonth (endsNumber_cons (c := '/') rfl (yearText d.year))
  have hfirst := scanPart_padded hday
    (endsNumber_cons (c := '/') rfl (padded 2 d.month ++ '/' :: yearText d.year))
  rw [List.append_nil] at hlast
  unfold ofStrokes?
  rw [toList_text, List.append_assoc, List.cons_append]
  simp only [Option.bind_eq_bind, Option.bind_some, skip_cons, hfirst, hmiddle, hlast,
    checked_nil hvalid hrange]

/-- What is written is not read as a year that comes first: a stroke ends its first number. -/
theorem ofIso?_text (hvalid : d.isValid = true) : ofIso? d.text.toList = none := by
  obtain ⟨-, hday⟩ := lt_hundred hvalid
  have hlength : (padded 2 d.day).length ≤ 4 := by
    rw [length_padded (by decide) hday]
    decide
  have hfirst := scanYear_padded hlength
    (endsNumber_cons (c := '/') rfl (padded 2 d.month ++ '/' :: yearText d.year))
  have hstroke : ∀ rest, skip '-' ('/' :: rest) = none := skip_of_ne (by decide)
  unfold ofIso?
  rw [toList_text, List.append_assoc, List.cons_append]
  simp only [Option.bind_eq_bind, Option.bind_some, Option.bind_none, hfirst, hstroke]

/-- What is read is a date of the calendar. -/
theorem isValid_of_checked {read : Date} {rest : List Char} (h : checked read rest = some d) :
    d.isValid = true ∧ d.inRange = true := by
  unfold checked at h
  split at h
  · next hchecked =>
    obtain rfl := Option.some.inj h
    rw [Bool.and_eq_true, Bool.and_eq_true] at hchecked
    exact ⟨hchecked.1.2, hchecked.2⟩
  · cases h

theorem isValid_of_ofText? {s : String} (h : ofText? s = some d) :
    d.isValid = true ∧ d.inRange = true := by
  unfold ofText? at h
  rcases Option.or_eq_some_iff.mp h with hiso | ⟨-, hstrokes⟩
  · unfold ofIso? at hiso
    simp only [Option.bind_eq_bind, Option.bind_eq_some_iff, Prod.exists] at hiso
    obtain ⟨_, _, -, _, -, _, _, -, _, -, _, _, -, hchecked⟩ := hiso
    exact isValid_of_checked hchecked
  · unfold ofStrokes? at hstrokes
    simp only [Option.bind_eq_bind, Option.bind_eq_some_iff, Prod.exists] at hstrokes
    obtain ⟨_, _, -, _, -, _, _, -, _, -, _, _, -, hchecked⟩ := hstrokes
    exact isValid_of_checked hchecked

/-! ### Spellings amid blanks -/

/-- The characters of which dates are made. -/
def IsPart (c : Char) : Prop :=
  c.isDigit = true ∨ c ∈ ['-', '+', '/']

/-- No blank is among them, nor the letter before the time of day. -/
theorem IsPart.ne {c : Char} (h : IsPart c) : Text.isBlank c = false ∧ c ≠ 'T' := by
  rcases h with hdigit | hmem
  · exact ⟨Text.isBlank_of_isDigit hdigit, ne_of_isDigit hdigit rfl⟩
  · simp only [List.mem_cons, List.not_mem_nil, or_false] at hmem
    rcases hmem with rfl | rfl | rfl <;> exact ⟨rfl, by decide⟩

theorem isPart_padded {width n : Nat} : ∀ c ∈ padded width n, IsPart c :=
  fun _ hc => Or.inl (isDigit_of_mem_padded hc)

theorem isPart_yearText (year : Int) : ∀ c ∈ yearText year, IsPart c := by
  unfold yearText
  split
  · exact isPart_padded
  · refine List.forall_mem_cons.mpr ⟨Or.inr ?_, isPart_padded⟩
    split <;> decide

theorem isPart_isoText (d : Date) : ∀ c ∈ d.isoText, IsPart c := by
  have hhyphen : IsPart '-' := Or.inr (by decide)
  refine List.forall_mem_append.mpr ⟨List.forall_mem_append.mpr ⟨isPart_yearText d.year, ?_⟩, ?_⟩
  · exact List.forall_mem_cons.mpr ⟨hhyphen, isPart_padded⟩
  · exact List.forall_mem_cons.mpr ⟨hhyphen, isPart_padded⟩

theorem isPart_text (d : Date) : ∀ c ∈ d.text.toList, IsPart c := by
  have hstroke : IsPart '/' := Or.inr (by decide)
  rw [toList_text]
  refine List.forall_mem_append.mpr ⟨List.forall_mem_append.mpr ⟨isPart_padded, ?_⟩, ?_⟩
  · exact List.forall_mem_cons.mpr ⟨hstroke, isPart_padded⟩
  · exact List.forall_mem_cons.mpr ⟨hstroke, isPart_yearText d.year⟩

section Cut

variable {cs text : List Char}

theorem takeWhile_of_isPart (h : ∀ c ∈ cs, IsPart c) (rest : List Char) :
    (cs ++ rest).takeWhile (· != 'T') = cs ++ rest.takeWhile (· != 'T') :=
  List.takeWhile_append_of_pos fun c hc => bne_iff_ne.mpr (h c hc).ne.2

/-- The blanks around a date do not count. -/
theorem cut_of_amidBlanks (hne : cs ≠ []) (h : ∀ c ∈ cs, IsPart c)
    (htext : Text.AmidBlanks cs text) : (Text.trim text).takeWhile (· != 'T') = cs := by
  have htight : Text.IsTight cs := Text.isTight_of_forall hne fun c hc => (h c hc).ne.1
  have hcut := takeWhile_of_isPart h []
  rw [List.append_nil, List.takeWhile_nil, List.append_nil] at hcut
  rw [htight.trim_eq_of_amidBlanks htext, hcut]

/-- Nor does what comes after it, from the letter before the time of day on. -/
theorem cut_of_timed (hne : cs ≠ []) (h : ∀ c ∈ cs, IsPart c) {time : List Char}
    (htext : Text.AmidBlanks (cs ++ 'T' :: time) text) :
    (Text.trim text).takeWhile (· != 'T') = cs := by
  obtain ⟨before, after, hbefore, -, rfl⟩ := htext
  have htight : Text.IsTight cs := Text.isTight_of_forall hne fun c hc => (h c hc).ne.1
  have hletter : ('T' :: Text.trimEnd (time ++ after)).takeWhile (· != 'T') = [] :=
    List.takeWhile_cons_of_neg (by decide)
  -- what is trimmed off at the end comes after the letter
  rw [List.append_assoc, Text.trim, Text.trimStart_append hbefore htight.head, List.cons_append,
    Text.trimEnd_append_cons rfl, takeWhile_of_isPart h, hletter, List.append_nil]

end Cut

/-- **A date is read from each of its spellings.** -/
theorem ofText?_of_names {s : String} (hvalid : d.isValid = true) (hrange : d.inRange = true)
    (h : d.Names s) : ofText? s = some d := by
  obtain ⟨cs, hspelling, htext⟩ := h
  have hiso : d.isoText ≠ [] :=
    List.append_ne_nil_of_right_ne_nil _ (List.cons_ne_nil _ _)
  have hstrokes : d.text.toList ≠ [] := by
    rw [toList_text]
    exact List.append_ne_nil_of_right_ne_nil _ (List.cons_ne_nil _ _)
  unfold ofText?
  dsimp only
  cases hspelling with
  | iso =>
    rw [cut_of_amidBlanks hiso (isPart_isoText d) htext, ofIso?_isoText hvalid hrange,
      Option.some_or]
  | timed time =>
    rw [cut_of_timed hiso (isPart_isoText d) htext, ofIso?_isoText hvalid hrange, Option.some_or]
  | strokes =>
    rw [cut_of_amidBlanks hstrokes (isPart_text d) htext, ofIso?_text hvalid, Option.none_or,
      ofStrokes?_text hvalid hrange]

/-- The text of a date is one of them. -/
theorem ofText?_text (hvalid : d.isValid = true) (hrange : d.inRange = true) :
    ofText? d.text = some d :=
  ofText?_of_names hvalid hrange ⟨_, .strokes, Text.amidBlanks_self _⟩

end Read

end Letterhead.Date
