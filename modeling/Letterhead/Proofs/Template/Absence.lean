import Letterhead.Proofs.Json.Absence
import Letterhead.Proofs.Template.Spelling

/-!
# Null in a template

An editor writes `null` for what is not set. In a template this says nothing at all: any field of
any node but its type, and any attribute, can be `null` instead of being left out, be it at the top
or below other nodes, of known types or not. Below a wrapper this matters twice over, as what cannot
be read there is no error, but loses the children.

* `Cleared` — a node as it is, with `null` in one place, and without it;
* `Cleared.alike` — the last two are the same node;
* `Cleared.readable` — and are one if the first is;
* `Template.null_fields_are_absent` — so they are the same template.
-/

namespace Letterhead

open Json

/-! ### Attributes -/

/-- Attributes that are stored in different places can be read in either order. -/
theorem apart_of_stores {α β γ : Type} {name name' : String} {read : Json → Except Mismatch β}
    {read' : Json → Except Mismatch γ} {store : α → β → α} {store' : α → γ → α}
    (h : ∀ a b c, store' (store a b) c = store (store' a c) b) :
    Field.Apart ⟨name, fun v a => do return store a (← read v)⟩
      ⟨name', fun v a => do return store' a (← read' v)⟩ := by
  simp only [bind_pure_eq_map]
  exact storedField_apart fun b c a => h a b c

section Attributes

variable {tag : Tag} {name : String} {readers : List Attributes.Reader}
  (h : tag.attributes? = some (name, readers))

include h

open Attributes in
/-- The attributes of a type are stored in different places. -/
theorem Tag.apart_attributes : readers.Pairwise Field.Apart := by
  have hheading : levelField.Apart alignField := apart_of_stores fun _ _ _ => rfl
  have hvariable : idField.Apart labelField := apart_of_stores fun _ _ _ => rfl
  have hblock : blockTypeField.Apart configField := apart_of_stores fun _ _ _ => rfl
  cases tag <;> cases h
  · exact List.pairwise_singleton _ _
  · exact List.pairwise_pair.mpr hheading
  · exact List.pairwise_singleton _ _
  · exact List.pairwise_pair.mpr hvariable
  · exact List.pairwise_pair.mpr hblock

/-- An attribute that is `null` is not set. -/
theorem Tag.attribute_null : ∀ f ∈ readers, f.read .null {} = .ok {} := by
  cases tag <;> cases h
  · exact List.forall_mem_singleton.mpr rfl
  · exact List.forall_mem_cons.mpr ⟨rfl, List.forall_mem_singleton.mpr rfl⟩
  · exact List.forall_mem_singleton.mpr rfl
  · exact List.forall_mem_cons.mpr ⟨rfl, List.forall_mem_singleton.mpr rfl⟩
  · exact List.forall_mem_cons.mpr ⟨rfl, List.forall_mem_singleton.mpr rfl⟩

end Attributes

/-- An attribute that is `null` is no attribute. -/
theorem Tag.readValue_attributes_null (tag : Tag) {key : String} {before after : Fields}
    (hkey : key ∉ (before ++ after).map Prod.fst) :
    tag.readValue .attributes (.object (before ++ (key, .null) :: after)) =
      tag.readValue .attributes (.object (before ++ after)) := by
  unfold readValue readAttributes readOptional
  cases hreaders : tag.attributes? with
  | none => rfl
  | some entry =>
    obtain ⟨name, readers⟩ := entry
    have hrecord : readRecord id name readers {} (.object (before ++ (key, .null) :: after)) =
        readRecord id name readers {} (.object (before ++ after)) := by
      refine readRecord_null (Tag.apart_attributes hreaders) fun f hf => ⟨?_, hkey⟩
      exact Tag.attribute_null hreaders f (List.mem_of_find?_eq_some hf)
    dsimp only [Source.view, view]
    rw [hrecord]

/-! ### Nodes -/

/-- The type is what it was if another field is changed. -/
theorem field?_replace {name key : String} (hne : key ≠ name) (before after : Fields) (v w : Json) :
    field? name (before ++ (key, v) :: after) = field? name (before ++ (key, w) :: after) := by
  simp only [field?_append, field?_cons, if_neg hne.symm]

theorem field?_remove {name key : String} (hne : key ≠ name) (before after : Fields) (v : Json) :
    field? name (before ++ (key, v) :: after) = field? name (before ++ after) := by
  simp only [field?_append, field?_cons, if_neg hne.symm]

section Replace

variable {slot : Slot} {key : String} {v w : Json} (hkey : key ∈ slot.spellings)

include hkey

/-- Objects are alike if all that differs is one field, and it comes out the same. -/
theorem Node.alike_replace (before after : Fields)
    (h : ∀ tag : Tag, SameOutcome (tag.readValue slot v) (tag.readValue slot w)) :
    Node.Alike (.object (before ++ (key, v) :: after)) (.object (before ++ (key, w) :: after)) := by
  have htype := field?_replace (Slot.ne_type hkey) before after v w
  refine Node.alike_of_readNode htype fun tag => sameNode_of_value fun given hgiven => ?_
  cases Tag.eq_of_slot? hkey hgiven
  exact h tag

/-- A node stays one if one field is changed and fits as before, with nodes in it as before. -/
theorem Node.exists_isRead_replace (before after : Fields)
    (h : ∀ tag : Tag, (slot.Fits tag v ∧ ∀ c ∈ slot.items v, ∃ node, Node.IsRead c node) →
      slot.Fits tag w ∧ ∀ c ∈ slot.items w, ∃ node, Node.IsRead c node)
    (hread : ∃ node, Node.IsRead (.object (before ++ (key, v) :: after)) node) :
    ∃ node, Node.IsRead (.object (before ++ (key, w) :: after)) node := by
  have htype := field?_replace (Slot.ne_type hkey) before after v w
  refine Node.exists_isRead_of_readable htype (fun tag hfields => ?_) hread
  refine hfields.replace fun given hgiven hvalue => ?_
  cases Tag.eq_of_slot? hkey hgiven
  rw [Tag.exists_readValue (Tag.mem_slots_of_slot? hgiven)] at hvalue ⊢
  exact h tag hvalue

end Replace

/-! ### Null in one place -/

/-- A node as it is, with `null` in one place, and without what stands there: a field other than the
type, in an object that gives no field twice; a key of an object of attributes, which gives it once;
or such a place in a node below. -/
inductive Cleared : Json → Json → Json → Prop
  | field {key : String} {x : Json} {before after : Fields} (htype : key ≠ "type")
      (honce : SpeltOnce (before ++ (key, x) :: after)) :
      Cleared (.object (before ++ (key, x) :: after)) (.object (before ++ (key, .null) :: after))
        (.object (before ++ after))
  | attrs {key name : String} {x : Json} {before after inner outer : Fields}
      (hkey : key ∈ Slot.attributes.spellings)
      (honce : name ∉ (inner ++ outer).map Prod.fst) :
      Cleared (.object (before ++ (key, .object (inner ++ (name, x) :: outer)) :: after))
        (.object (before ++ (key, .object (inner ++ (name, .null) :: outer)) :: after))
        (.object (before ++ (key, .object (inner ++ outer)) :: after))
  | child {key : String} {before after : Fields} {earlier later : List Json}
      {v nulled removed : Json} (hkey : key ∈ Slot.content.spellings)
      (h : Cleared v nulled removed) :
      Cleared (.object (before ++ (key, .array (earlier ++ v :: later)) :: after))
        (.object (before ++ (key, .array (earlier ++ nulled :: later)) :: after))
        (.object (before ++ (key, .array (earlier ++ removed :: later)) :: after))

/-- The same in a template: an array of nodes, or a node. -/
inductive ClearedTemplate : Json → Json → Json → Prop
  | element {v nulled removed : Json} (h : Cleared v nulled removed) (earlier later : List Json) :
      ClearedTemplate (.array (earlier ++ v :: later)) (.array (earlier ++ nulled :: later))
        (.array (earlier ++ removed :: later))
  | root {v nulled removed : Json} (h : Cleared v nulled removed) :
      ClearedTemplate v nulled removed

/-- A field that is given once is not among the others. -/
theorem SpeltOnce.not_mem_takenPlaces {key : String} {x : Json} {before after : Fields}
    (h : SpeltOnce (before ++ (key, x) :: after)) (tag : Tag) {slot : Slot}
    (hslot : tag.slot? key = some slot) : slot ∉ takenPlaces tag.slot? (before ++ after) := by
  have hplain : ∀ k, tag.slot? k = some slot → plainKey k = slot.name := by
    intro k hk
    exact plainKey_of_mem (Slot.ofKey?_eq_some_iff.mp (Tag.slot?_eq_some_iff.mp hk).2)
  have hfirst : (((key, x) :: (before ++ after)).map fun f => plainKey f.1).Nodup :=
    (List.perm_middle.map _).nodup_iff.mp h
  rw [List.map_cons, List.nodup_cons] at hfirst
  intro hmem
  obtain ⟨f, hf, hf'⟩ := List.mem_filterMap.mp hmem
  refine hfirst.1 (List.mem_map.mpr ⟨f, hf, ?_⟩)
  rw [hplain _ hf', hplain _ hslot]

/-- All three are objects. -/
theorem Cleared.objects {v nulled removed : Json} (h : Cleared v nulled removed) :
    ∃ fields given fewer,
      v = .object fields ∧ nulled = .object given ∧ removed = .object fewer := by
  cases h <;> exact ⟨_, _, _, rfl, rfl, rfl⟩

/-- **Null and nothing** are the same in a node. -/
theorem Cleared.alike {v nulled removed : Json} (h : Cleared v nulled removed) :
    Node.Alike nulled removed := by
  -- the place is in the node itself or, by induction, in a node below
  induction h with
  | @field key x before after htype honce =>
    refine Node.alike_of_readNode (field?_remove htype before after .null) fun tag => ?_
    exact sameNode_of_null fun slot hslot => honce.not_mem_takenPlaces tag hslot
  | @attrs key name x before after inner outer hkey honce =>
    refine Node.alike_replace hkey before after fun tag => ?_
    rw [tag.readValue_attributes_null honce]
    exact .refl _
  | @child key before after earlier later v nulled removed hkey _ ih =>
    refine Node.alike_replace hkey before after fun tag => ?_
    unfold Tag.readValue
    rw [readContent, readContent]
    exact (sameOutcome_readNodes (forall₂_replace Node.Alike.refl ih earlier later)).map _

/-- A node is one without what is cleared. -/
theorem Cleared.readable {v nulled removed : Json} (h : Cleared v nulled removed)
    (hread : ∃ node, Node.IsRead v node) : ∃ node, Node.IsRead removed node := by
  induction h with
  | @field key x before after htype honce =>
    have hname := field?_remove htype before after x
    refine Node.exists_isRead_of_readable hname (fun tag hfields => ?_) hread
    exact hfields.of_sublist (sublist_remove before after _)
  | @attrs key name x before after inner outer hkey honce =>
    refine Node.exists_isRead_replace hkey before after (fun tag hvalue => ?_) hread
    refine ⟨?_, List.forall_mem_nil _⟩
    -- the attributes are an object, and no `null`
    rcases hvalue.1 with hnull | hfits
    · cases hnull
    · exact Or.inr hfits.remove
  | @child key before after earlier later v nulled removed hkey _ ih =>
    refine Node.exists_isRead_replace hkey before after (fun tag hvalue => ?_) hread
    refine ⟨Or.inr ⟨_, rfl, fun _ _ => trivial⟩, ?_⟩
    obtain ⟨-, hitems⟩ := hvalue
    rw [Slot.items, List.forall_mem_append, List.forall_mem_cons] at hitems ⊢
    obtain ⟨hearlier, hnode, hlater⟩ := hitems
    exact ⟨hearlier, ih hnode, hlater⟩

namespace Template

/-- **Null.** A template can be read with any field of any node left out, and with any attribute
left out; and with `null` in place of either it is the same template. -/
theorem null_fields_are_absent {v nulled removed : Json} (h : ClearedTemplate v nulled removed)
    {t : Template} (hread : Template.ofJson v = .ok t) :
    ∃ t', Template.ofJson nulled = .ok t' ∧ Template.ofJson removed = .ok t' := by
  have hroots := (exists_ofJson v).mp ⟨t, hread⟩
  cases h with
  | @element v nulled removed h earlier later =>
    have hremoved : ∃ t', Template.ofJson (.array (earlier ++ removed :: later)) = .ok t' := by
      rw [exists_ofJson]
      rw [Json.roots, List.forall_mem_append, List.forall_mem_cons] at hroots ⊢
      exact ⟨hroots.1, h.readable hroots.2.1, hroots.2.2⟩
    obtain ⟨t', ht'⟩ := hremoved
    have hitems := forall₂_replace Node.Alike.refl h.alike earlier later
    exact ⟨t', (sameOutcome_of_elements hitems t').mpr ht', ht'⟩
  | root h =>
    have halike := h.alike
    have hreadable := h.readable
    obtain ⟨fields, given, fewer, rfl, rfl, rfl⟩ := h.objects
    have hremoved : ∃ t', Template.ofJson (.object fewer) = .ok t' := by
      rw [exists_ofJson]
      rw [Json.roots, List.forall_mem_singleton] at hroots ⊢
      · exact hreadable hroots
      · exact fun _ => Json.noConfusion
      · exact fun _ => Json.noConfusion
    obtain ⟨t', ht'⟩ := hremoved
    exact ⟨t', (sameOutcome_of_alike halike t').mpr ht', ht'⟩

/-- An alignment of `null`, in a paragraph below a wrapper. -/
theorem null_fields_are_absent_align :
    let place : Json → Json := fun attrs => .array [.object [
      ("children", .array [.object [("attrs", attrs), ("type", .string "paragraph")]]),
      ("type", .string "callout")]]
    let v : Json := place (.object [("textAlign", .string "center")])
    let nulled : Json := place (.object [("textAlign", .null)])
    let removed : Json := place (.object [])
    let t : Template := ⟨[.unknown "callout" [.paragraph none []]]⟩
    ClearedTemplate v nulled removed ∧
      Template.ofJson v = .ok ⟨[.unknown "callout" [.paragraph (some "center") []]]⟩ ∧
      Template.ofJson nulled = .ok t ∧ Template.ofJson removed = .ok t := by
  intro place v nulled removed t
  let paragraph : Json → Json := fun attrs =>
    .object [("attrs", attrs), ("type", .string "paragraph")]
  have hparagraph : Cleared (paragraph (.object [("textAlign", .string "center")]))
      (paragraph (.object [("textAlign", .null)])) (paragraph (.object [])) :=
    @Cleared.attrs "attrs" "textAlign" _ [] [("type", .string "paragraph")] [] [] (by decide)
      List.not_mem_nil
  have hcleared : ClearedTemplate v nulled removed :=
    .element (@Cleared.child "children" [] [("type", .string "callout")] [] [] _ _ _ (by decide)
      hparagraph) [] []
  have hread : Template.ofJson v = .ok ⟨[.unknown "callout" [.paragraph (some "center") []]]⟩ := by
    rfl
  have hremoved : Template.ofJson removed = .ok t := by rfl
  obtain ⟨t', hnulled, ht'⟩ := null_fields_are_absent hcleared hread
  have ht : t' = t := Except.ok.inj (ht'.symm.trans hremoved)
  exact ⟨hcleared, hread, ht ▸ hnulled, hremoved⟩

end Template

end Letterhead
