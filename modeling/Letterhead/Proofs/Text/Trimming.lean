import Letterhead.Proofs.Text.Casing
import Letterhead.Text.Blank

/-!
# Texts without outer blanks

A text is tight if it begins and ends with something. Trimming makes any text tight that is not
blank, and it leaves a tight text as it is. So it does not matter when texts that are put together
are trimmed: a text that is joined from tight parts begins as its first part does and ends as its
last one does, whatever stands between them.

* `IsTight` — a text that begins and ends with no blank;
* `AmidBlanks`, `IsTight.trim_eq_of_amidBlanks` — what is trimmed off a tight text with blanks
  around it;
* `isTight_trim`, `IsTight.trim_eq` — what is trimmed is tight, and what is tight is trimmed;
* `present_of_isTight`, `isTight_of_present` — the same for texts that may be blank;
* `bind_present_joinPresent` — what is joined needs no trimming.
-/

namespace Letterhead.Text

/-- A text that begins with no blank and ends with none. -/
structure IsTight (cs : List Char) : Prop where
  head : ∃ c, cs.head? = some c ∧ isBlank c = false
  last : ∃ c, cs.getLast? = some c ∧ isBlank c = false

variable {cs : List Char} {s t : String}

/-- A digit is no blank. -/
theorem isBlank_of_isDigit {c : Char} (h : c.isDigit = true) : isBlank c = false := by
  have hrange : 48 ≤ c.toNat ∧ c.toNat ≤ 57 := Char.isDigit_iff_toNat.mp h
  -- no blank is among the characters between 33 and 132
  simp only [isBlank, Bool.or_eq_false_iff, Bool.and_eq_false_iff, decide_eq_false_iff_not,
    beq_eq_false_iff_ne]
  omega

/-- A text without blanks is tight, if it is not empty. -/
theorem isTight_of_forall (hne : cs ≠ []) (h : ∀ c ∈ cs, isBlank c = false) : IsTight cs where
  head := ⟨cs.head hne, List.head?_eq_some_head hne, h _ (List.head_mem hne)⟩
  last := ⟨cs.getLast hne, List.getLast?_eq_some_getLast hne, h _ (List.getLast_mem hne)⟩

/-- Whether a text is another one with blanks before it and after it, or without. -/
def AmidBlanks (cs text : List Char) : Prop :=
  ∃ before after, (∀ c ∈ before, isBlank c = true) ∧ (∀ c ∈ after, isBlank c = true) ∧
    text = before ++ (cs ++ after)

/-- Without any. -/
theorem amidBlanks_self (cs : List Char) : AmidBlanks cs cs :=
  ⟨[], [], List.forall_mem_nil _, List.forall_mem_nil _, (List.append_nil cs).symm⟩

/-- Blanks before a text are trimmed off. -/
theorem trimStart_append {before : List Char} (hbefore : ∀ c ∈ before, isBlank c = true)
    (hfirst : ∃ c, cs.head? = some c ∧ isBlank c = false) (rest : List Char) :
    trimStart (before ++ (cs ++ rest)) = cs ++ rest := by
  obtain ⟨first, hfirst, hblank⟩ := hfirst
  obtain ⟨more, rfl⟩ := List.head?_eq_some_iff.mp hfirst
  unfold trimStart
  rw [List.dropWhile_append_of_pos hbefore]
  exact List.dropWhile_cons_of_neg (Bool.eq_false_iff.mp hblank)

/-- What stands before a character that is no blank is not trimmed off at the end. -/
theorem trimEnd_append_cons {c : Char} (h : isBlank c = false) (rest : List Char) :
    trimEnd (cs ++ c :: rest) = cs ++ c :: trimEnd rest := by
  have hstop : (c :: cs.reverse).dropWhile isBlank = c :: cs.reverse :=
    List.dropWhile_cons_of_neg (Bool.eq_false_iff.mp h)
  unfold trimEnd
  rw [List.reverse_append, List.reverse_cons, List.append_assoc, List.singleton_append,
    List.dropWhile_append, hstop]
  split
  · next hnil =>
    rw [List.isEmpty_iff.mp hnil, List.reverse_cons, List.reverse_reverse, List.reverse_nil]
  · rw [List.reverse_append, List.reverse_cons, List.reverse_reverse, List.append_assoc,
      List.singleton_append]

/-- The blanks around a tight text are trimmed off. -/
theorem IsTight.trim_eq_of_amidBlanks {text : List Char} (h : IsTight cs)
    (htext : AmidBlanks cs text) : trim text = cs := by
  obtain ⟨before, after, hbefore, hafter, rfl⟩ := htext
  obtain ⟨last, hlast, hlastBlank⟩ := h.last
  have hend : trimEnd (cs ++ after) = cs := by
    obtain ⟨init, rfl⟩ := List.getLast?_eq_some_iff.mp hlast
    have hnone : trimEnd after = [] := by
      have hreversed : ∀ c ∈ after.reverse, isBlank c = true := fun c hc =>
        hafter c (List.mem_reverse.mp hc)
      rw [trimEnd, List.dropWhile_eq_nil_iff.mpr hreversed, List.reverse_nil]
    rw [List.append_assoc, List.singleton_append, trimEnd_append_cons hlastBlank, hnone]
  rw [trim, trimStart_append hbefore h.head, hend]

/-- Nothing is trimmed off a tight text. -/
theorem IsTight.trim_eq (h : IsTight cs) : trim cs = cs :=
  h.trim_eq_of_amidBlanks (amidBlanks_self cs)

/-- A tight text is not blank. -/
theorem IsTight.not_blank (h : IsTight cs) : cs.all isBlank = false := by
  obtain ⟨first, hfirst, hblank⟩ := h.head
  refine Bool.eq_false_iff.mpr fun hall => ?_
  have hmem : first ∈ cs := List.mem_of_head? hfirst
  rw [List.all_eq_true.mp hall first hmem] at hblank
  cases hblank

/-- What is trimmed is tight, unless it was blank. -/
theorem isTight_trim (h : cs.all isBlank = false) : IsTight (trim cs) := by
  have hstart : trimStart cs ≠ [] := by
    intro hnil
    have hall : cs.all isBlank = true :=
      List.all_eq_true.mpr fun c hc => List.dropWhile_eq_nil_iff.mp hnil c hc
    rw [hall] at h
    cases h
  -- the first character that is left is no blank, so it stays when the end is trimmed
  have hfirst : isBlank ((trimStart cs).head hstart) = false := List.head_dropWhile_not isBlank hstart
  have hend : trim cs ≠ [] := by
    intro hnil
    have hall := List.rdropWhile_eq_nil_iff.mp (hnil : (trimStart cs).rdropWhile isBlank = [])
    rw [hall _ (List.head_mem hstart)] at hfirst
    cases hfirst
  have hprefix : trim cs <+: trimStart cs := trimEnd_prefix _
  have hhead : (trim cs).head hend = (trimStart cs).head hstart := hprefix.head hend
  constructor
  · exact ⟨_, List.head?_eq_some_head hend, by rw [hhead, hfirst]⟩
  · refine ⟨_, List.getLast?_eq_some_getLast hend, ?_⟩
    exact Bool.eq_false_iff.mpr (List.rdropWhile_last_not isBlank (trimStart cs) hend)

/-! ### Texts that may be blank -/

/-- A tight text is shown as it is. -/
theorem present_of_isTight (h : IsTight s.toList) : present s = some s := by
  have hblank : isBlankText s = false := h.not_blank
  rw [present, hblank, if_neg Bool.false_ne_true, trimmed, h.trim_eq, String.ofList_toList]

/-- What is shown of a text is tight. -/
theorem isTight_of_present (h : present s = some t) : IsTight t.toList := by
  unfold present at h
  split at h
  · cases h
  · next hblank =>
    cases h
    rw [trimmed, String.toList_ofList]
    exact isTight_trim (Bool.eq_false_iff.mpr hblank)

/-- Tight parts make up a tight text, with anything between them. -/
theorem isTight_intercalate {sep : List Char} {parts : List (List Char)} (hne : parts ≠ [])
    (h : ∀ part ∈ parts, IsTight part) : IsTight (sep.intercalate parts) := by
  induction parts with
  | nil => exact absurd rfl hne
  | cons part parts ih =>
    rw [List.forall_mem_cons] at h
    obtain ⟨hpart, hparts⟩ := h
    cases parts with
    | nil =>
      rw [List.intercalate_singleton]
      exact hpart
    | cons next parts =>
      obtain ⟨first, hfirst, hfirstBlank⟩ := hpart.head
      obtain ⟨last, hlast, hlastBlank⟩ := (ih (List.cons_ne_nil _ _) hparts).last
      -- the text begins as the first part does, and ends as what follows it
      rw [List.intercalate_cons_cons]
      constructor
      · refine ⟨first, ?_, hfirstBlank⟩
        rw [List.append_assoc, List.head?_append, hfirst]
        rfl
      · refine ⟨last, ?_, hlastBlank⟩
        rw [List.getLast?_append, hlast]
        rfl

/-- What is joined is tight. -/
theorem isTight_of_joinPresent {sep : String} {parts : List (Option String)}
    (h : joinPresent sep parts = some s) : IsTight s.toList := by
  unfold joinPresent at h
  split at h
  · cases h
  · next shown hshown =>
    cases h
    rw [String.toList_intercalate]
    refine isTight_intercalate (fun hnil => hshown (List.map_eq_nil_iff.mp hnil)) ?_
    intro part hpart
    obtain ⟨s, hs, rfl⟩ := List.mem_map.mp hpart
    obtain ⟨text, -, htext⟩ := List.mem_filterMap.mp hs
    obtain ⟨t, -, ht⟩ := Option.bind_eq_some_iff.mp htext
    exact isTight_of_present ht

/-- What is joined needs no trimming. -/
theorem bind_present_joinPresent (sep : String) (parts : List (Option String)) :
    (joinPresent sep parts).bind present = joinPresent sep parts := by
  cases hjoined : joinPresent sep parts with
  | none => rfl
  | some s => exact present_of_isTight (isTight_of_joinPresent hjoined)

end Letterhead.Text
