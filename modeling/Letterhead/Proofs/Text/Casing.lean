import Mathlib.Data.List.DropRight
import Letterhead.Text.Blank
import Letterhead.Text.Casing

/-!
# Names up to case and outer blanks

Names are compared without their outer blanks and in lower case. Trimming leaves nothing to trim. On
ASCII lower case is core's, and beyond ASCII there is one character only that a lower-case ASCII
text can come from: the Kelvin sign, whose lower-case form is `k`.

* `trimmed_trimmed` — what is trimmed has no outer blanks;
* `lower_of_ascii` — the lower-case form of an ASCII text;
* `ascii_of_lower` — the texts whose lower-case form is ASCII.
-/

namespace Letterhead.Text

/-! ### Trimming -/

theorem trimEnd_eq_rdropWhile (cs : List Char) : trimEnd cs = cs.rdropWhile isBlank := rfl

/-- A text that begins with no blank does so without the blanks at its end, too. -/
theorem trimStart_trimEnd_trimStart (cs : List Char) :
    trimStart (trimEnd (trimStart cs)) = trimEnd (trimStart cs) := by
  unfold trimStart
  rw [List.dropWhile_eq_self_iff]
  intro hpos
  have hpre := trimEnd_prefix (cs.dropWhile isBlank)
  have hstart : 0 < (cs.dropWhile isBlank).length := Nat.lt_of_lt_of_le hpos hpre.length_le
  rw [hpre.getElem hpos]
  exact List.dropWhile_eq_self_iff.mp (List.dropWhile_idempotent _ cs) hstart

theorem trim_trim (cs : List Char) : trim (trim cs) = trim cs := by
  unfold trim
  rw [trimStart_trimEnd_trimStart, trimEnd_eq_rdropWhile, trimEnd_eq_rdropWhile,
    List.rdropWhile_idempotent]

@[simp] theorem trimmed_trimmed (s : String) : trimmed (trimmed s) = trimmed s := by
  unfold trimmed
  rw [String.toList_ofList, trim_trim]

/-! ### Lower case and ASCII -/

theorem lowerAfter_of_ascii {before cs : List Char} (h : ∀ c ∈ cs, c.toNat < 0x80) :
    lowerAfter before cs = cs.map Char.toLower := by
  induction cs generalizing before with
  | nil => rfl
  | cons c rest ih =>
    rw [List.forall_mem_cons] at h
    have hsigma : c ≠ 'Σ' := by
      rintro rfl
      exact absurd h.1 (by decide)
    rw [lowerAfter, if_neg hsigma, lowerChar_of_ascii h.1, ih h.2, List.map_cons,
      List.singleton_append]

/-- On ASCII, lower case is core's. -/
theorem lower_of_ascii {cs : List Char} (h : ∀ c ∈ cs, c.toNat < 0x80) :
    lower cs = cs.map Char.toLower :=
  lowerAfter_of_ascii h

/-- A run of the table maps characters to characters beyond ASCII, unless it is the Kelvin sign. -/
theorem lowerRuns_image : ∀ r ∈ lowerRuns,
    (r.first = 0x212A ∧ r.last = 0x212A ∧ r.shift = -8383) ∨
      0x80 ≤ (r.first : Int) + r.shift ∧
        ((r.last : Int) + r.shift < 0xD800 ∨
          0xDFFF < (r.first : Int) + r.shift ∧ (r.last : Int) + r.shift < 0x110000) := by
  decide +kernel

/-- A character whose lower-case form is ASCII is ASCII itself or the Kelvin sign. -/
theorem ascii_or_of_lowerChar {c : Char} (h : ∀ d ∈ lowerChar c, d.toNat < 0x80) :
    c.toNat < 0x80 ∨ lowerChar c = ['k'] := by
  by_cases hc : c.toNat < 0x80
  · exact Or.inl hc
  right
  have hmap : lowerChar c = mapCase lowerRuns lowerSpecial c := if_neg hc
  rw [hmap, mapCase] at h
  rw [hmap, mapCase]
  split at h
  · next r hr =>
    have hcovers := List.find?_some hr
    simp only [CaseRun.covers, Bool.and_eq_true, decide_eq_true_eq] at hcovers
    obtain ⟨⟨hfirst, hlast⟩, -⟩ := hcovers
    rcases lowerRuns_image r (List.mem_of_find?_eq_some hr) with ⟨hf, hl, hs⟩ | ⟨hlow, hvalid⟩
    · have hn : c.toNat = 0x212A := by omega
      simp only [hn, hs]
      decide
    · -- the image is a character of its own, and not ASCII
      have hascii := h _ (List.mem_singleton_self _)
      have hchar : ((c.toNat : Int) + r.shift).toNat.isValidChar := by
        unfold Nat.isValidChar
        omega
      have himage : (Char.ofNat ((c.toNat : Int) + r.shift).toNat).toNat =
          ((c.toNat : Int) + r.shift).toNat := by
        rw [Char.ofNat, dif_pos hchar]
        rfl
      omega
  · split at h
    · next codes hcodes =>
      have hspecial : ∀ p ∈ lowerSpecial,
          p.2.any (fun n => decide (0x80 ≤ (Char.ofNat n).toNat)) = true := by decide +kernel
      obtain ⟨l₁, l₂, hl, -⟩ := List.lookup_eq_some_iff.mp hcodes
      have hcode := hspecial (c.toNat, codes) (by rw [hl]; simp)
      obtain ⟨n, hn, hbeyond⟩ := List.any_eq_true.mp hcode
      exact absurd (h _ (List.mem_map_of_mem hn)) (Nat.not_lt.mpr (of_decide_eq_true hbeyond))
    · exact absurd (h c (List.mem_singleton_self c)) hc

/-- Without a `k` in it, a lower-case form that is ASCII comes from an ASCII text. -/
theorem ascii_of_lowerAfter {before cs : List Char}
    (h : ∀ d ∈ lowerAfter before cs, d.toNat < 0x80 ∧ d ≠ 'k') : ∀ c ∈ cs, c.toNat < 0x80 := by
  induction cs generalizing before with
  | nil => exact List.forall_mem_nil _
  | cons c rest ih =>
    rw [lowerAfter, List.forall_mem_append] at h
    refine List.forall_mem_cons.mpr ⟨?_, ih h.2⟩
    by_cases hsigma : c = 'Σ'
    · rw [if_pos hsigma] at h
      have hlow := (h.1 _ (List.mem_singleton_self _)).1
      unfold lowerSigma at hlow
      split at hlow <;> exact absurd hlow (by decide)
    · rw [if_neg hsigma] at h
      rcases ascii_or_of_lowerChar fun d hd => (h.1 d hd).1 with hascii | hk
      · exact hascii
      · rw [hk] at h
        exact absurd rfl (h.1 'k' (List.mem_singleton_self _)).2

theorem ascii_of_lower {cs : List Char} (h : ∀ d ∈ lower cs, d.toNat < 0x80 ∧ d ≠ 'k') :
    ∀ c ∈ cs, c.toNat < 0x80 :=
  ascii_of_lowerAfter h

end Letterhead.Text
