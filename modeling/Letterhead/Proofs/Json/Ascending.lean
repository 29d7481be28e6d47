import Mathlib.Data.List.Induction
import Mathlib.Data.List.Pairwise
import Mathlib.Data.String.Basic
import Letterhead.Json.Draft

/-!
# Values keep their keys in ascending order

A text may give the fields of an object in any order, and one of them more than once. The value that
is read from it has them by ascending key, each once, and so has every object in it. Where fields
are visited one after the other, that is the order in which they come.

* `Json.Ascending` — the values whose objects are ordered so, at any depth;
* `pairwise_sortFields` — what is read of an object is ordered so, whatever the text gives;
* `Draft.ascending_of_value?` — and so is everything in a value that is read.
-/

namespace Letterhead

/-- Fields by strictly ascending key. -/
abbrev Fields.AreAscending (fields : Fields) : Prop :=
  fields.Pairwise fun f g => f.1 < g.1

/-- A value in which every object has its fields by ascending key. -/
inductive Json.Ascending : Json → Prop
  | null : Ascending .null
  | bool (b : Bool) : Ascending (.bool b)
  | number (n : Number) : Ascending (.number n)
  | string (s : String) : Ascending (.string s)
  | array {items : List Json} (h : ∀ v ∈ items, Ascending v) : Ascending (.array items)
  | object {fields : Fields} (hkeys : fields.AreAscending)
      (h : ∀ f ∈ fields, Ascending f.2) : Ascending (.object fields)

/-! ### Fields that are put in order -/

section Insertion

variable {key : String} {value : Json} {fields : Fields} {f : String × Json}

/-- A field that is put among others brings nothing else along. -/
theorem eq_or_mem_of_mem_insertField (h : f ∈ insertField key value fields) :
    f = (key, value) ∨ f ∈ fields := by
  induction fields with
  | nil => exact Or.inl (List.mem_singleton.mp h)
  | cons g rest ih =>
    obtain ⟨k, v⟩ := g
    unfold insertField at h
    split at h
    · exact List.mem_cons.mp h
    · split at h
      · -- the field takes the place of the one under its key
        exact (List.mem_cons.mp h).imp id (List.mem_cons_of_mem _)
      · rcases List.mem_cons.mp h with rfl | h
        · exact Or.inr List.mem_cons_self
        · exact (ih h).imp id (List.mem_cons_of_mem _)

/-- It is put where its key belongs. -/
theorem pairwise_insertField (h : fields.AreAscending) :
    (insertField key value fields).AreAscending := by
  induction fields with
  | nil => exact List.pairwise_singleton _ _
  | cons g rest ih =>
    obtain ⟨k, v⟩ := g
    obtain ⟨hfirst, hrest⟩ := List.pairwise_cons.mp h
    unfold insertField
    split
    · next hlt =>
      refine List.pairwise_cons.mpr ⟨fun f hf => ?_, h⟩
      rcases List.mem_cons.mp hf with rfl | hf
      · exact hlt
      · exact lt_trans hlt (hfirst f hf)
    · next hge =>
      split
      · next heq =>
        subst heq
        exact List.pairwise_cons.mpr ⟨hfirst, hrest⟩
      · next hne =>
        -- a greater key goes further back, so the first field stays the first
        have hlt : k < key := lt_of_le_of_ne (not_lt.mp hge) (Ne.symm hne)
        refine List.pairwise_cons.mpr ⟨fun f hf => ?_, ih hrest⟩
        rcases eq_or_mem_of_mem_insertField hf with rfl | hf
        · exact hlt
        · exact hfirst f hf

end Insertion

theorem sortFields_append (fields : Fields) (f : String × Json) :
    sortFields (fields ++ [f]) = insertField f.1 f.2 (sortFields fields) := by
  unfold sortFields
  rw [List.foldl_append, List.foldl_cons, List.foldl_nil]

/-- **Order.** The fields of an object are by ascending key, whatever the order they were given
in. -/
theorem pairwise_sortFields (fields : Fields) : (sortFields fields).AreAscending := by
  induction fields using List.reverseRecOn with
  | nil => exact List.Pairwise.nil
  | append_singleton fields f ih =>
    rw [sortFields_append]
    exact pairwise_insertField ih

/-- They are among those that were given. -/
theorem mem_of_mem_sortFields {fields : Fields} {f : String × Json} (h : f ∈ sortFields fields) :
    f ∈ fields := by
  induction fields using List.reverseRecOn with
  | nil => exact h
  | append_singleton fields g ih =>
    rw [sortFields_append] at h
    rcases eq_or_mem_of_mem_insertField h with rfl | h
    · exact List.mem_append_right _ (List.mem_singleton_self _)
    · exact List.mem_append_left _ (ih h)

/-! ### Values that are read -/

namespace Json.Draft

mutual

/-- The value of a draft has its keys in ascending order, at any depth. -/
theorem ascending_of_value? {depth : Nat} : (d : Draft) → {v : Json} → d.value? depth = some v →
    v.Ascending
  | .broken, _, h => by
    rw [value?] at h
    cases h
  | .null, _, h => by
    rw [value?, Option.some.injEq] at h
    exact h ▸ .null
  | .bool b, _, h => by
    rw [value?, Option.some.injEq] at h
    exact h ▸ .bool b
  | .number n, _, h => by
    rw [value?] at h
    obtain ⟨x, -, rfl⟩ := Option.map_eq_some_iff.mp h
    exact .number x
  | .string s, _, h => by
    rw [value?] at h
    obtain ⟨text, -, rfl⟩ := Option.map_eq_some_iff.mp h
    exact .string text
  | .array items whole, _, h => by
    rw [value?] at h
    split at h
    · cases h
    · obtain ⟨values, hvalues, rfl⟩ := Option.map_eq_some_iff.mp h
      exact .array (ascending_of_values? items hvalues)
  | .object fields whole, _, h => by
    rw [value?] at h
    split at h
    · cases h
    · obtain ⟨given, hgiven, rfl⟩ := Option.map_eq_some_iff.mp h
      -- sorting keeps what every field holds
      refine .object (pairwise_sortFields given) fun f hf => ?_
      exact ascending_of_fieldValues? fields hgiven f (mem_of_mem_sortFields hf)

/-- The same for items. -/
theorem ascending_of_values? {depth : Nat} : (ds : List Draft) → {vs : List Json} →
    values? depth ds = some vs → ∀ v ∈ vs, v.Ascending
  | [], vs, h => by
    rw [values?, Option.some.injEq] at h
    rw [← h]
    exact List.forall_mem_nil _
  | d :: rest, vs, h => by
    rw [values?] at h
    obtain ⟨v, hv, h⟩ := Option.bind_eq_some_iff.mp h
    obtain ⟨later, hlater, h⟩ := Option.bind_eq_some_iff.mp h
    cases h
    exact List.forall_mem_cons.mpr ⟨ascending_of_value? d hv, ascending_of_values? rest hlater⟩

/-- The same for what fields hold. -/
theorem ascending_of_fieldValues? {depth : Nat} : (ds : List (Option String × Draft)) →
    {fields : Fields} → fieldValues? depth ds = some fields → ∀ f ∈ fields, f.2.Ascending
  | [], fields, h => by
    rw [fieldValues?, Option.some.injEq] at h
    rw [← h]
    exact List.forall_mem_nil _
  | (key, d) :: rest, fields, h => by
    rw [fieldValues?] at h
    obtain ⟨k, -, h⟩ := Option.bind_eq_some_iff.mp h
    obtain ⟨v, hv, h⟩ := Option.bind_eq_some_iff.mp h
    obtain ⟨later, hlater, h⟩ := Option.bind_eq_some_iff.mp h
    cases h
    exact List.forall_mem_cons.mpr
      ⟨ascending_of_value? d hv, ascending_of_fieldValues? rest hlater⟩

end

end Json.Draft

end Letterhead
