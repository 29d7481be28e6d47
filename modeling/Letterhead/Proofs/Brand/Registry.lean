import Letterhead.Brand.Fonts
import Letterhead.Proofs.Text.Casing

/-!
# Registered fonts keep their spelling

A registry that was built by registering fonts has every spelling trimmed, and under its lower-case
form. So the spelling that it gives for a family is one that it gives for itself: a registered
spelling can be hidden by a built-in one only if it is never given at all.

* `FontRegistry.Built` — the registries that registration can build;
* `FontRegistry.Built.entry` — what holds for each of their entries;
* `FontRegistry.Built.canonical?_self`, `FontRegistry.Built.resolve_resolve` — the spellings they
  give;
* `FontRegistry.Built.contains_resolve` — which are those of families that they know.
-/

namespace Letterhead

namespace FontRegistry

/-- The registries that come from the empty one by registering fonts, what a font is being decided
by `isFont`. -/
inductive Built (isFont : Array UInt8 → Bool) : FontRegistry → Prop where
  | empty : Built isFont {}
  | register {fonts fonts' : FontRegistry} {family : String} {bytes : Array UInt8}
      (h : Built isFont fonts) (hok : fonts.registerWith isFont family bytes = .ok fonts') :
      Built isFont fonts'

variable {isFont : Array UInt8 → Bool} {fonts : FontRegistry}

/-- A registration that succeeds inserts the trimmed name, and does nothing else. -/
theorem eq_insert_of_registerWith {fonts' : FontRegistry} {family : String}
    {bytes : Array UInt8} (h : fonts.registerWith isFont family bytes = .ok fonts') :
    fonts' = fonts.insert (Text.trimmed family) := by
  unfold registerWith at h
  dsimp only at h
  split at h
  · cases h
  · split at h
    · exact (Except.ok.inj h).symm
    · cases h

/-- Every entry is a trimmed spelling under its lower-case form. -/
theorem Built.entry (h : Built isFont fonts) :
    ∀ e ∈ fonts.entries, e.1 = Text.lowered e.2 ∧ Text.trimmed e.2 = e.2 := by
  induction h with
  | empty => exact List.forall_mem_nil _
  | @register fonts _ family _ _ hok ih =>
    rw [eq_insert_of_registerWith hok]
    refine List.forall_mem_cons.mpr ⟨⟨rfl, Text.trimmed_trimmed family⟩, fun e he => ?_⟩
    exact ih e (List.mem_filter.mp he).1

/-! ### Built-in spellings -/

/-- The built-in spellings are ASCII, and their lower-case forms have no `k`. -/
theorem ascii_of_mem_builtin : ∀ b ∈ builtinFamilies,
    (∀ c ∈ b.toList, c.toNat < 0x80) ∧
      ∀ d ∈ b.toList.map Char.toLower, d.toNat < 0x80 ∧ d ≠ 'k' := by
  have hall : ∀ b ∈ builtinFamilies,
      (b.toList.all fun c => decide (c.toNat < 0x80)) = true ∧
        ((b.toList.map Char.toLower).all fun d => decide (d.toNat < 0x80 ∧ d ≠ 'k')) = true := by
    decide +kernel
  intro b hb
  obtain ⟨hascii, hlower⟩ := hall b hb
  rw [List.all_eq_true] at hascii hlower
  exact ⟨fun c hc => of_decide_eq_true (hascii c hc),
    fun d hd => of_decide_eq_true (hlower d hd)⟩

/-- A built-in family is found by exactly the names that have its lower-case form, although only
ASCII letters are compared whatever their case. -/
theorem sameAsciiName_iff {b : String} (hb : b ∈ builtinFamilies) (s : String) :
    sameAsciiName b s = true ↔ Text.lowered b = Text.lowered s := by
  obtain ⟨hascii, hlower⟩ := ascii_of_mem_builtin b hb
  have hb_lower := Text.lower_of_ascii hascii
  unfold sameAsciiName Text.lowered
  rw [beq_iff_eq]
  constructor
  · intro h
    -- a character beyond ASCII stays so in ASCII lower case
    have hs : ∀ c ∈ s.toList, c.toNat < 0x80 := by
      intro c hc
      have hmem : c.toLower ∈ b.toList.map Char.toLower := h ▸ List.mem_map_of_mem hc
      have hlow := (hlower _ hmem).1
      by_contra hbeyond
      have hself : c.toLower = c := by
        unfold Char.toLower
        rw [dif_neg]
        rintro ⟨-, hle⟩
        have hnat : c.toNat ≤ 90 := hle
        omega
      rw [hself] at hlow
      exact hbeyond hlow
    rw [hb_lower, Text.lower_of_ascii hs, h]
  · intro h
    have hlists : Text.lower b.toList = Text.lower s.toList := String.ofList_inj.mp h
    rw [hb_lower] at hlists
    have hs : ∀ c ∈ s.toList, c.toNat < 0x80 := by
      apply Text.ascii_of_lower
      rwa [← hlists]
    rw [hlists, Text.lower_of_ascii hs]

theorem find?_builtin_eq_none_iff {s : String} :
    builtinFamilies.find? (sameAsciiName · s) = none ↔
      ∀ b ∈ builtinFamilies, Text.lowered b ≠ Text.lowered s := by
  rw [List.find?_eq_none]
  exact forall₂_congr fun b hb => not_congr (sameAsciiName_iff hb s)

/-- Every registry gives a built-in spelling for itself. -/
theorem canonical?_builtin (fonts : FontRegistry) {b : String} (hb : b ∈ builtinFamilies) :
    fonts.canonical? b = some b := by
  have hfind : ∀ b ∈ builtinFamilies,
      builtinFamilies.find? (sameAsciiName · (Text.trimmed b)) = some b := by decide +kernel
  unfold canonical?
  simp only [hfind b hb]

/-! ### Spellings that are given -/

/-- The spelling that a registry gives is one that it gives for itself. -/
theorem Built.canonical?_self (h : Built isFont fonts) {family spelling : String}
    (hf : fonts.canonical? family = some spelling) : fonts.canonical? spelling = some spelling := by
  unfold canonical? at hf
  dsimp only at hf
  split at hf
  · next b hb =>
    rw [← Option.some.inj hf]
    exact fonts.canonical?_builtin (List.mem_of_find?_eq_some hb)
  · next hnone =>
    obtain ⟨l₁, l₂, hl, -⟩ := List.lookup_eq_some_iff.mp hf
    obtain ⟨hkey, htrim⟩ := h.entry (Text.lowered (Text.trimmed family), spelling)
      (by rw [hl]; exact List.mem_append_right _ List.mem_cons_self)
    -- the spelling has the lower-case form of the family, so that no built-in one hides it either
    have hnone' : builtinFamilies.find? (sameAsciiName · spelling) = none := by
      rw [find?_builtin_eq_none_iff] at hnone ⊢
      intro b hb
      rw [← hkey]
      exact hnone b hb
    unfold canonical?
    simp only [htrim, hnone']
    rw [← hkey]
    exact hf

theorem Built.canonical?_resolve (h : Built isFont fonts) (family : String) :
    fonts.canonical? (fonts.resolve family) = some (fonts.resolve family) := by
  unfold resolve
  cases hf : fonts.canonical? family with
  | none => exact fonts.canonical?_builtin List.mem_cons_self
  | some spelling => exact h.canonical?_self hf

/-- The family that is used is known. -/
theorem Built.contains_resolve (h : Built isFont fonts) (family : String) :
    fonts.contains (fonts.resolve family) = true := by
  unfold contains
  rw [h.canonical?_resolve, Option.isSome_some]

/-- Resolving twice is resolving once. -/
theorem Built.resolve_resolve (h : Built isFont fonts) (family : String) :
    fonts.resolve (fonts.resolve family) = fonts.resolve family := by
  rw [resolve, h.canonical?_resolve, Option.getD_some]

end FontRegistry

end Letterhead
