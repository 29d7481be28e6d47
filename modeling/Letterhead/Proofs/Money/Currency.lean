import Letterhead.Money.Display
import Letterhead.Proofs.Decimal.Digits

/-!
# Amounts in writing

An amount is written with all its cents: in groups of digits, with two digits for what is left of a
euro, and with a minus sign unless nothing is left of it. So its text tells the cents and their
sign.

* `Groups` — digits in groups with a point between;
* `exists_groups` — the groups of a natural number;
* `WritesCents` — the texts that write a number of cents;
* `writesCents_centsText`, `WritesCents.signed_eq` — such a text is written, and for one signed
  number only;
* `currencyText_writes_cents` — what is shown of an amount.
-/

namespace Letterhead

open Decimal

/-! ### Groups of digits -/

/-- Digits in groups: one to three, then three in each. No zero stands before other digits. -/
structure Groups where
  first : List Char
  rest : List (List Char)
  first_length : 1 ≤ first.length ∧ first.length ≤ 3
  rest_length : ∀ ds ∈ rest, ds.length = 3
  isDigit : ∀ ds ∈ first :: rest, ∀ c ∈ ds, c.isDigit = true
  trimmed : first.head? = some '0' → first = ['0'] ∧ rest = []

namespace Groups

/-- The groups with points between them. -/
def text (g : Groups) : List Char :=
  g.first ++ g.rest.flatMap ('.' :: ·)

/-- The groups with nothing between them. -/
def digits (g : Groups) : List Char :=
  g.first ++ g.rest.flatten

/-- A numeral of at most three digits is one group. -/
def ofNumeral (ds : List Char) (h : IsNumeral ds) (hlength : ds.length ≤ 3) : Groups where
  first := ds
  rest := []
  first_length := ⟨List.length_pos_iff.mpr h.ne_nil, hlength⟩
  rest_length _ hmem := nomatch hmem
  isDigit := by
    rintro es hes c hc
    rw [List.mem_singleton.mp hes] at hc
    exact h.isDigit c hc
  trimmed hhead := ⟨h.trimmed hhead, rfl⟩

/-- One more group can follow, unless the groups are those of zero. -/
def snoc (g : Groups) (ds : List Char) (hlength : ds.length = 3)
    (hdigits : ∀ c ∈ ds, c.isDigit = true) (hpos : 0 < readDigits g.digits) : Groups where
  first := g.first
  rest := g.rest ++ [ds]
  first_length := g.first_length
  rest_length es hes := by
    rcases List.mem_append.mp hes with hes | hes
    · exact g.rest_length es hes
    · rw [List.mem_singleton.mp hes]
      exact hlength
  isDigit es hes := by
    rw [← List.cons_append] at hes
    rcases List.mem_append.mp hes with hes | hes
    · exact g.isDigit es hes
    · rw [List.mem_singleton.mp hes]
      exact hdigits
  trimmed hhead := by
    obtain ⟨hfirst, hrest⟩ := g.trimmed hhead
    rw [digits, hfirst, hrest] at hpos
    exact absurd hpos (by decide)

theorem text_snoc (g : Groups) {ds : List Char} (hlength hdigits hpos) :
    (g.snoc ds hlength hdigits hpos).text = g.text ++ '.' :: ds := by
  unfold text snoc
  rw [List.flatMap_append, List.flatMap_singleton, List.append_assoc]

theorem digits_snoc (g : Groups) {ds : List Char} (hlength hdigits hpos) :
    (g.snoc ds hlength hdigits hpos).digits = g.digits ++ ds := by
  unfold digits snoc
  rw [List.flatten_append, List.flatten_singleton, List.append_assoc]

end Groups

/-- **The groups of a natural number.** They hold its digits. -/
theorem exists_groups (n : Nat) :
    ∃ g : Groups, grouped n = g.text ∧ readDigits g.digits = n := by
  induction n using Nat.strongRecOn with
  | ind n ih =>
    rw [grouped]
    split
    case isTrue hsmall =>
      have hlength : (Nat.toDigits 10 n).length ≤ 3 :=
        (Nat.length_toDigits_le_iff (by decide) (by decide)).mpr hsmall
      refine ⟨.ofNumeral _ (isNumeral_toDigits n) hlength, ?_, ?_⟩
      · exact (List.append_nil _).symm
      · unfold Groups.digits Groups.ofNumeral
        rw [List.flatten_nil, List.append_nil, readDigits_toDigits]
    case isFalse hlarge =>
      obtain ⟨g, htext, hvalue⟩ := ih (n / 1000) (by omega)
      have hlength : (padded 3 (n % 1000)).length = 3 :=
        length_padded (by decide) (Nat.mod_lt n (by decide))
      have hpos : 0 < readDigits g.digits := by omega
      refine ⟨g.snoc (padded 3 (n % 1000)) hlength (fun _ => isDigit_of_mem_padded) hpos, ?_, ?_⟩
      · rw [Groups.text_snoc, htext]
      · rw [Groups.digits_snoc, readDigits_append, hvalue, readDigits_padded, hlength]
        omega

/-! ### Texts of amounts -/

/-- A text without its points and commas. -/
def withoutMarks (text : List Char) : List Char :=
  text.filter fun c => c != '.' && c != ','

/-- Digits have no marks. -/
theorem withoutMarks_of_isDigit {ds : List Char} (h : ∀ c ∈ ds, c.isDigit = true) :
    withoutMarks ds = ds := by
  refine List.filter_eq_self.mpr fun c hc => ?_
  have hpoint : c ≠ '.' := ne_of_isDigit (h c hc) rfl
  have hcomma : c ≠ ',' := ne_of_isDigit (h c hc) rfl
  rw [bne_iff_ne.mpr hpoint, bne_iff_ne.mpr hcomma]
  rfl

theorem withoutMarks_append (text more : List Char) :
    withoutMarks (text ++ more) = withoutMarks text ++ withoutMarks more :=
  List.filter_append text more

/-- Of groups after points only the points go. -/
theorem withoutMarks_flatMap {groups : List (List Char)}
    (h : ∀ ds ∈ groups, ∀ c ∈ ds, c.isDigit = true) :
    withoutMarks (groups.flatMap ('.' :: ·)) = groups.flatten := by
  induction groups with
  | nil => rfl
  | cons ds groups ih =>
    obtain ⟨hds, hgroups⟩ := List.forall_mem_cons.mp h
    have hpoint : withoutMarks ('.' :: ds) = ds := withoutMarks_of_isDigit hds
    rw [List.flatMap_cons, withoutMarks_append, hpoint, ih hgroups, List.flatten_cons]

/-- What is left of groups is their digits. -/
theorem Groups.withoutMarks_text (g : Groups) : withoutMarks g.text = g.digits := by
  obtain ⟨hfirst, hrest⟩ := List.forall_mem_cons.mp g.isDigit
  unfold text digits
  rw [withoutMarks_append, withoutMarks_of_isDigit hfirst, withoutMarks_flatMap hrest]

/-- The texts that write a number of cents with a sign: a minus sign if there are any and they are
negative, the sign of the currency, groups of digits, and after a comma two more. Without points and
comma the digits read as the number. -/
def WritesCents (text : List Char) (negative : Bool) (n : Nat) : Prop :=
  ∃ (whole : Groups) (ds : List Char), ds.length = 2 ∧ (∀ c ∈ ds, c.isDigit = true) ∧
    text = (if negative = true ∧ 0 < n then ['-'] else []) ++
      '€' :: ' ' :: (whole.text ++ ',' :: ds) ∧
    readDigits (withoutMarks (whole.text ++ ',' :: ds)) = n

/-- A number of cents is written. -/
theorem writesCents_centsText (negative : Bool) (n : Nat) :
    WritesCents (centsText negative n) negative n := by
  obtain ⟨whole, htext, hvalue⟩ := exists_groups (n / 100)
  have hdigits : ∀ c ∈ padded 2 (n % 100), c.isDigit = true := fun _ => isDigit_of_mem_padded
  have hlength : (padded 2 (n % 100)).length = 2 :=
    length_padded (by decide) (Nat.mod_lt n (by decide))
  refine ⟨whole, padded 2 (n % 100), hlength, hdigits, ?_, ?_⟩
  · unfold centsText
    rw [htext]
    simp only [Bool.and_eq_true, decide_eq_true_eq, List.append_assoc, List.cons_append,
      List.nil_append]
  · have hcomma : withoutMarks (',' :: padded 2 (n % 100)) = padded 2 (n % 100) :=
      withoutMarks_of_isDigit hdigits
    calc readDigits (withoutMarks (whole.text ++ ',' :: padded 2 (n % 100)))
        = readDigits (whole.digits ++ padded 2 (n % 100)) := by
          rw [withoutMarks_append, whole.withoutMarks_text, hcomma]
      _ = 10 ^ 2 * (n / 100) + n % 100 := by
          rw [readDigits_append, hvalue, hlength, readDigits_padded]
      _ = n := by omega

/-- A number of cents with its sign. -/
def signed (negative : Bool) (n : Nat) : Int :=
  if negative then -n else n

/-- The sign of nothing does not count. -/
theorem signed_eq_signed_iff {negative negative' : Bool} {n n' : Nat} :
    signed negative n = signed negative' n' ↔
      n = n' ∧ (negative = true ∧ 0 < n ↔ negative' = true ∧ 0 < n') := by
  cases negative <;> cases negative' <;> simp [signed] <;> omega

/-- **A text of cents reads one way.** -/
theorem WritesCents.signed_eq {text : List Char} {negative negative' : Bool} {n n' : Nat}
    (h : WritesCents text negative n) (h' : WritesCents text negative' n') :
    signed negative n = signed negative' n' := by
  obtain ⟨whole, ds, -, -, htext, hn⟩ := h
  obtain ⟨whole', ds', -, -, htext', hn'⟩ := h'
  rw [htext] at htext'
  rw [signed_eq_signed_iff]
  -- the sign of the currency is no minus sign, so both texts have one or neither has
  by_cases hminus : negative = true ∧ 0 < n <;> by_cases hminus' : negative' = true ∧ 0 < n'
  · rw [if_pos hminus, if_pos hminus'] at htext'
    have hwhole : whole.text ++ ',' :: ds = whole'.text ++ ',' :: ds' := by simpa using htext'
    rw [hwhole, hn'] at hn
    exact ⟨hn.symm, iff_of_true hminus hminus'⟩
  · rw [if_pos hminus, if_neg hminus'] at htext'
    exact absurd (List.cons.inj htext').1 (by decide)
  · rw [if_neg hminus, if_pos hminus'] at htext'
    exact absurd (List.cons.inj htext').1 (by decide)
  · rw [if_neg hminus, if_neg hminus'] at htext'
    have hwhole : whole.text ++ ',' :: ds = whole'.text ++ ',' :: ds' := by simpa using htext'
    rw [hwhole, hn'] at hn
    exact ⟨hn.symm, iff_of_false hminus hminus'⟩

/-- And the number decides the text. -/
theorem centsText_congr {negative negative' : Bool} {n n' : Nat}
    (h : signed negative n = signed negative' n') :
    centsText negative n = centsText negative' n' := by
  obtain ⟨rfl, hminus⟩ := signed_eq_signed_iff.mp h
  have hsign : (negative && decide (0 < n)) = (negative' && decide (0 < n)) := by
    rw [Bool.eq_iff_iff, Bool.and_eq_true, Bool.and_eq_true, decide_eq_true_eq]
    exact hminus
  unfold centsText
  rw [hsign]

/-- The cents of an amount with their sign. -/
def signedCents (amount : Float) : Int :=
  signed (amount < 0.0) (cents amount)

/-- The cents of an amount fit into a word. -/
theorem cents_le_greatestWord (amount : Float) : cents amount ≤ greatestWord := by
  unfold cents nearestNatural
  split
  · unfold Binary.nearestNatural
    split
    · exact Nat.zero_le _
    · exact Nat.min_le_right _ _
  · split
    · exact Nat.le_refl _
    · exact Nat.zero_le _

/-- **Amounts are written in full.** Every number of cents is written with either sign, an amount is
written as the cents that it is rounded to, and two amounts are shown alike exactly if these are the
same with their sign. -/
theorem currencyText_writes_cents :
    (∀ (negative : Bool) (n : Nat), WritesCents (centsText negative n) negative n) ∧
    (∀ amount : Float, cents amount ≤ greatestWord ∧
      WritesCents (currencyText amount).toList (amount < 0.0) (cents amount)) ∧
    ∀ a b : Float, currencyText a = currencyText b ↔ signedCents a = signedCents b := by
  have hwrites : ∀ amount : Float,
      WritesCents (currencyText amount).toList (amount < 0.0) (cents amount) := by
    intro amount
    unfold currencyText
    rw [String.toList_ofList]
    exact writesCents_centsText _ _
  refine ⟨writesCents_centsText, fun amount => ⟨cents_le_greatestWord amount, hwrites amount⟩,
    fun a b => ⟨fun htext => ?_, fun hcents => ?_⟩⟩
  · have ha : WritesCents (currencyText b).toList (a < 0.0) (cents a) := by
      rw [← htext]
      exact hwrites a
    exact ha.signed_eq (hwrites b)
  · unfold currencyText
    rw [centsText_congr hcents]

end Letterhead
