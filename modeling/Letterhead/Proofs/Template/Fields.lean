import Mathlib.Data.List.Perm.Basic
import Letterhead.Proofs.Json.Records
import Letterhead.Template.Reading

/-!
# The fields of a node, in whatever order

A node of a type reads its fields one after the other. What comes out does not depend on the order
they stand in, nor on how a field is spelled, but only on what each of them holds; and a field that
holds `null` might as well not be there. A node of an unknown type has the fields of a document.

* `SlotValue`, `Tag.readValue` — what one field holds, read by itself;
* `Payload.put` — what was read so far, with one more field;
* `sameOutcome_of_perm`, `sameOutcome_of_forall₂` — fields in another order, and fields that are
  read alike one by one;
* `Tag.Readable`, `exists_readPayload` — fields that can be read together: each can by itself;
* `sameNode_of_null` — a field that holds `null` is no field;
* `wrapperChildren` — the children of a node of an unknown type.
-/

namespace Letterhead

open Json

/-- Lists that are alike but for one item, which is related to the other's. -/
theorem forall₂_replace {α : Type} {R : α → α → Prop} (hrefl : ∀ a, R a a) {a b : α} (h : R a b)
    (before after : List α) : List.Forall₂ R (before ++ a :: after) (before ++ b :: after) := by
  have hsame : ∀ l : List α, List.Forall₂ R l l := by
    intro l
    exact List.forall₂_same.mpr fun a _ => hrefl a
  exact List.rel_append (hsame before) (.cons h (hsame after))

/-! ### One field -/

theorem Tag.attributes?_of_mem_slots {tag : Tag} (h : Slot.attributes ∈ tag.slots) :
    ∃ name readers, tag.attributes? = some (name, readers) := by
  cases tag <;> first | exact ⟨_, _, rfl⟩ | simp [Tag.slots] at h

theorem Tag.mem_slots_of_slot? {tag : Tag} {key : String} {slot : Slot}
    (h : tag.slot? key = some slot) : slot ∈ tag.slots :=
  List.mem_of_find?_eq_some h

/-- What one field of a node holds. -/
inductive SlotValue where
  | content (nodes : List Node)
  | attributes (a : Attributes)
  | text (s : String)
  | marks (ms : List Mark)

/-- The field it stands in. -/
def SlotValue.slot : SlotValue → Slot
  | .content _ => .content
  | .attributes _ => .attributes
  | .text _ => .text
  | .marks _ => .marks

/-- The nodes in it. -/
def SlotValue.nodes : SlotValue → List Node
  | .content nodes => nodes
  | _ => []

theorem SlotValue.nodes_of_ne {x : SlotValue} (h : x.slot ≠ .content) : x.nodes = [] := by
  cases x <;> first | rfl | exact absurd rfl h

/-- What a field holds that is `null`. -/
def Slot.blank : Slot → SlotValue
  | .content => .content []
  | .attributes => .attributes {}
  | .text => .text ""
  | .marks => .marks []

/-- What was read, with one more field. -/
def Payload.put (p : Payload) : SlotValue → Payload
  | .content nodes => { p with content := some nodes }
  | .attributes a => { p with attributes := some a }
  | .text s => { p with text := some s }
  | .marks ms => { p with marks := some ms }

/-- Reads one field of a type. -/
def Tag.readValue (tag : Tag) (slot : Slot) (v : Json) : Except TemplateError SlotValue :=
  match slot with
  | .content => (readContent v).map .content
  | .attributes =>
    match tag.attributes? with
    | some (name, readers) =>
      ((readAttributes name readers v).map .attributes).mapError .payload
    | none => .ok (.attributes {})
  | .text => ((readOptional readText v).map fun s => .text (s.getD "")).mapError .payload
  | .marks =>
    ((readOptional (readList id readMark) v).map fun ms => .marks (ms.getD [])).mapError .payload

@[simp] theorem Payload.has_put (p : Payload) (x : SlotValue) (slot : Slot) :
    (p.put x).has slot = (p.has slot || slot == x.slot) := by
  cases x <;> cases slot <;> simp [has, put, SlotValue.slot]

/-- A field that was not there before adds the nodes in it to the content. -/
theorem Payload.content_put (p : Payload) {x : SlotValue} (h : p.has x.slot = false) :
    (p.put x).content.getD [] = p.content.getD [] ++ x.nodes := by
  cases x with
  | content nodes =>
    have hnone : p.content = none := by
      rw [← Option.isNone_iff_eq_none, ← Option.isSome_eq_false_iff]
      exact h
    rw [hnone]
    rfl
  | attributes | text | marks => exact (List.append_nil _).symm

/-- Different fields can be put in either order. -/
theorem Payload.put_comm (p : Payload) {x y : SlotValue} (h : x.slot ≠ y.slot) :
    (p.put x).put y = (p.put y).put x := by
  cases x <;> cases y <;> first | rfl | exact absurd rfl h

/-- Without a field a node is what it is with that field holding nothing. -/
theorem Tag.node_put_blank (tag : Tag) {p : Payload} {slot : Slot} (h : p.has slot = false) :
    tag.node (p.put slot.blank) = tag.node p := by
  obtain ⟨content, attributes, text, marks⟩ := p
  cases slot <;> simp only [Payload.has, Option.isSome_eq_false_iff, Option.isNone_iff_eq_none] at h
    <;> subst h <;> rfl

theorem Tag.readValue_null (tag : Tag) (slot : Slot) :
    tag.readValue slot .null = .ok slot.blank := by
  cases slot with
  | content => rw [readValue, readContent]; rfl
  | attributes => cases tag <;> rfl
  | text => rfl
  | marks => rfl

/-- What is read of a field belongs to that field. -/
theorem Tag.slot_of_readValue {tag : Tag} {slot : Slot} {v : Json} {x : SlotValue}
    (h : tag.readValue slot v = .ok x) : x.slot = slot := by
  unfold readValue at h
  cases slot with
  | content =>
    obtain ⟨nodes, -, rfl⟩ := map_eq_ok.mp h
    rfl
  | attributes =>
    cases hreaders : tag.attributes? with
    | none =>
      rw [hreaders] at h
      cases h
      rfl
    | some entry =>
      rw [hreaders] at h
      obtain ⟨a, -, rfl⟩ := map_eq_ok.mp (mapError_eq_ok.mp h)
      rfl
  | text =>
    obtain ⟨s, -, rfl⟩ := map_eq_ok.mp (mapError_eq_ok.mp h)
    rfl
  | marks =>
    obtain ⟨ms, -, rfl⟩ := map_eq_ok.mp (mapError_eq_ok.mp h)
    rfl

/-- Reads one field of a type into what was read before. -/
def Payload.readSlot (p : Payload) (tag : Tag) (slot : Slot) (v : Json) :
    Except TemplateError Payload :=
  if slot = .content then (readContent v).map fun nodes => { p with content := some nodes }
  else (p.store tag slot v).mapError .payload

/-- A field is read by itself, and put with what was read before. -/
theorem Payload.readSlot_eq {tag : Tag} {slot : Slot} (hslot : slot ∈ tag.slots) (p : Payload)
    (v : Json) : p.readSlot tag slot v = (tag.readValue slot v).map p.put := by
  unfold readSlot Tag.readValue
  cases slot with
  | content =>
    rw [if_pos rfl]
    cases readContent v <;> rfl
  | attributes =>
    obtain ⟨name, readers, hreaders⟩ := Tag.attributes?_of_mem_slots hslot
    rw [if_neg (by decide), store, hreaders]
    dsimp only
    cases readAttributes name readers v <;> rfl
  | text =>
    rw [if_neg (by decide), store]
    cases readOptional readText v <;> rfl
  | marks =>
    rw [if_neg (by decide), store]
    dsimp only
    cases readOptional (readList id readMark) v <;> rfl

/-! ### All fields -/

section Fields

variable {tag : Tag}

theorem readPayload_nil (p : Payload) : readPayload tag p [] = .ok p := by
  rw [readPayload]

/-- The fields of a node are read one by one, and none twice. -/
theorem readPayload_cons_some {key : String} {slot : Slot}
    (h : tag.slot? key = some slot) (p : Payload) (v : Json) (rest : Fields) :
    readPayload tag p ((key, v) :: rest) =
      if p.has slot then .error (.payload (.repeated slot.name))
      else (p.readSlot tag slot v).bind fun q => readPayload tag q rest := by
  rw [readPayload, h]
  dsimp only
  unfold Payload.readSlot
  split
  · rfl
  · split
    · cases readContent v <;> rfl
    · cases p.store tag slot v <;> rfl

theorem readPayload_cons_none {key : String} (h : tag.slot? key = none) (p : Payload)
    (v : Json) (rest : Fields) :
    readPayload tag p ((key, v) :: rest) = readPayload tag p rest := by
  rw [readPayload, h]

/-- A field is read unless it was given before, and then the other fields are. -/
theorem readPayload_cons_value {key : String} {slot : Slot} (h : tag.slot? key = some slot)
    (p : Payload) (v : Json) (rest : Fields) :
    readPayload tag p ((key, v) :: rest) =
      if p.has slot then .error (.payload (.repeated slot.name))
      else (tag.readValue slot v).bind fun x => readPayload tag (p.put x) rest := by
  rw [readPayload_cons_some h, Payload.readSlot_eq (Tag.mem_slots_of_slot? h)]
  cases tag.readValue slot v <;> rfl

theorem readPayload_cons_eq_ok {key : String} {slot : Slot} (h : tag.slot? key = some slot)
    {p q : Payload} {v : Json} {rest : Fields} :
    readPayload tag p ((key, v) :: rest) = .ok q ↔
      p.has slot = false ∧
        ∃ x, tag.readValue slot v = .ok x ∧ readPayload tag (p.put x) rest = .ok q := by
  rw [readPayload_cons_value h]
  cases p.has slot with
  | true => exact iff_of_false (fun h => nomatch h) fun h => nomatch h.1
  | false =>
    rw [if_neg Bool.false_ne_true, and_iff_right rfl]
    exact bind_eq_ok

theorem readPayload_append (p : Payload) (fields more : Fields) :
    readPayload tag p (fields ++ more) =
      (readPayload tag p fields).bind fun q => readPayload tag q more := by
  induction fields generalizing p with
  | nil => rw [List.nil_append, readPayload_nil]; rfl
  | cons f rest ih =>
    obtain ⟨key, v⟩ := f
    rw [List.cons_append]
    cases hslot : tag.slot? key with
    | none => rw [readPayload_cons_none hslot, readPayload_cons_none hslot, ih]
    | some slot =>
      rw [readPayload_cons_value hslot, readPayload_cons_value hslot]
      split
      · rfl
      · cases tag.readValue slot v with
        | error e => rfl
        | ok x => exact ih (p.put x)

/-- What is read has the fields that were read before and those that are given. -/
theorem has_of_readPayload {fields : Fields} {p q : Payload}
    (h : readPayload tag p fields = .ok q) (slot : Slot) :
    q.has slot = true ↔ p.has slot = true ∨ slot ∈ takenPlaces tag.slot? fields := by
  induction fields generalizing p with
  | nil =>
    rw [readPayload_nil, Except.ok.injEq] at h
    rw [h, takenPlaces, List.filterMap_nil, or_iff_left List.not_mem_nil]
  | cons f rest ih =>
    obtain ⟨key, v⟩ := f
    cases hslot : tag.slot? key with
    | none =>
      rw [readPayload_cons_none hslot] at h
      rw [takenPlaces_cons_none hslot]
      exact ih h
    | some given =>
      obtain ⟨-, x, hx, hrest⟩ := (readPayload_cons_eq_ok hslot).mp h
      rw [ih hrest, p.has_put, Tag.slot_of_readValue hx, takenPlaces_cons_some hslot,
        Bool.or_eq_true, beq_iff_eq, List.mem_cons, or_assoc]

/-- A field that is given twice cannot be read, in whatever spelling. -/
theorem not_readPayload_of_repeated {k l : String} {slot : Slot} (hk : tag.slot? k = some slot)
    (hl : tag.slot? l = some slot) (p : Payload) (v w : Json) (rest : Fields) :
    ¬ ∃ q, readPayload tag p ((k, v) :: (l, w) :: rest) = .ok q := by
  rintro ⟨q, hq⟩
  obtain ⟨-, x, hx, hrest⟩ := (readPayload_cons_eq_ok hk).mp hq
  obtain ⟨hnew, -⟩ := (readPayload_cons_eq_ok hl).mp hrest
  -- after the first the field is there
  rw [p.has_put, Tag.slot_of_readValue hx, beq_self_eq_true, Bool.or_true] at hnew
  cases hnew

/-- Two different fields that can be read can be read in the other order. -/
theorem readPayload_exchange {k l : String} {s t : Slot} (hk : tag.slot? k = some s)
    (hl : tag.slot? l = some t) (hne : s ≠ t) {p q : Payload} {v w : Json} {rest : Fields}
    (h : readPayload tag p ((k, v) :: (l, w) :: rest) = .ok q) :
    readPayload tag p ((l, w) :: (k, v) :: rest) = .ok q := by
  obtain ⟨hs, x, hx, hrest⟩ := (readPayload_cons_eq_ok hk).mp h
  obtain ⟨ht, y, hy, hq⟩ := (readPayload_cons_eq_ok hl).mp hrest
  have hxs : x.slot = s := Tag.slot_of_readValue hx
  have hyt : y.slot = t := Tag.slot_of_readValue hy
  rw [p.has_put, Bool.or_eq_false_iff] at ht
  refine (readPayload_cons_eq_ok hl).mpr ⟨ht.1, y, hy, ?_⟩
  refine (readPayload_cons_eq_ok hk).mpr ⟨?_, x, hx, ?_⟩
  · rw [p.has_put, hs, hyt, Bool.false_or, beq_eq_false_iff_ne]
    exact hne
  · rw [p.put_comm (by rw [hxs, hyt]; exact hne.symm)]
    exact hq

/-- Two fields that stand next to each other can be exchanged. -/
theorem sameOutcome_swap (p : Payload) (f g : String × Json) (rest : Fields) :
    SameOutcome (readPayload tag p (f :: g :: rest)) (readPayload tag p (g :: f :: rest)) := by
  obtain ⟨k, v⟩ := f
  obtain ⟨l, w⟩ := g
  cases hk : tag.slot? k with
  | none =>
    cases hl : tag.slot? l with
    | none => simp only [readPayload_cons_none hk, readPayload_cons_none hl, SameOutcome.refl]
    | some t =>
      simp only [readPayload_cons_none hk, readPayload_cons_value hl, SameOutcome.refl]
  | some s =>
    cases hl : tag.slot? l with
    | none => simp only [readPayload_cons_value hk, readPayload_cons_none hl, SameOutcome.refl]
    | some t =>
      by_cases hst : s = t
      · subst hst
        exact .of_failures (not_readPayload_of_repeated hk hl p v w rest)
          (not_readPayload_of_repeated hl hk p w v rest)
      · intro q
        exact ⟨readPayload_exchange hk hl hst, readPayload_exchange hl hk (Ne.symm hst)⟩

/-- **Order.** Fields come out the same in whatever order they stand. -/
theorem sameOutcome_of_perm {fields given : Fields} (h : fields.Perm given) (p : Payload) :
    SameOutcome (readPayload tag p fields) (readPayload tag p given) := by
  induction h generalizing p with
  | nil => exact .refl _
  | cons f _ ih =>
    obtain ⟨key, v⟩ := f
    cases hslot : tag.slot? key with
    | none =>
      rw [readPayload_cons_none hslot, readPayload_cons_none hslot]
      exact ih p
    | some slot =>
      rw [readPayload_cons_value hslot, readPayload_cons_value hslot]
      split
      · exact .refl _
      · exact (SameOutcome.refl _).bind fun x => ih (p.put x)
  | swap f g rest => exact sameOutcome_swap p g f rest
  | trans _ _ ih ih' => exact (ih p).trans (ih' p)

/-- Two fields are read alike for a type: their keys name the same field, if any, and what they hold
comes out the same there. -/
def Tag.ReadAlike (tag : Tag) (f g : String × Json) : Prop :=
  tag.slot? f.1 = tag.slot? g.1 ∧
    ∀ slot, tag.slot? f.1 = some slot →
      SameOutcome (tag.readValue slot f.2) (tag.readValue slot g.2)

/-- Fields that are read alike one by one come out the same. -/
theorem sameOutcome_of_forall₂ {fields given : Fields}
    (h : List.Forall₂ tag.ReadAlike fields given) (p : Payload) :
    SameOutcome (readPayload tag p fields) (readPayload tag p given) := by
  induction h generalizing p with
  | nil => exact .refl _
  | @cons f g rest rest' hfield _ ih =>
    obtain ⟨k, v⟩ := f
    obtain ⟨l, w⟩ := g
    obtain ⟨hslots, hvalues⟩ := hfield
    cases hk : tag.slot? k with
    | none =>
      have hl : tag.slot? l = none := hslots.symm.trans hk
      rw [readPayload_cons_none hk, readPayload_cons_none hl]
      exact ih p
    | some slot =>
      have hl : tag.slot? l = some slot := hslots.symm.trans hk
      rw [readPayload_cons_value hk, readPayload_cons_value hl]
      split
      · exact .refl _
      · exact (hvalues slot hk).bind fun x => ih (p.put x)

/-- Whether fields can be read together: each is given once, and can be read by itself. -/
def Tag.Readable (tag : Tag) (fields : Fields) : Prop :=
  KeyedFit tag.slot? (fun slot v => ∃ x, tag.readValue slot v = .ok x) fields

/-- Fields can be read in addition to others if they can be read together and none of them was given
before. -/
theorem exists_readPayload_iff {fields : Fields} {p : Payload} :
    (∃ q, readPayload tag p fields = .ok q) ↔
      tag.Readable fields ∧ ∀ slot ∈ takenPlaces tag.slot? fields, p.has slot = false := by
  unfold Tag.Readable
  induction fields generalizing p with
  | nil =>
    rw [readPayload_nil]
    exact ⟨fun _ => ⟨keyedFit_nil, List.forall_mem_nil _⟩, fun _ => ⟨p, rfl⟩⟩
  | cons f rest ih =>
    obtain ⟨key, v⟩ := f
    cases hslot : tag.slot? key with
    | none =>
      rw [readPayload_cons_none hslot, keyedFit_cons_none hslot, takenPlaces_cons_none hslot]
      exact ih
    | some slot =>
      simp only [readPayload_cons_eq_ok hslot]
      rw [keyedFit_cons_some hslot, takenPlaces_cons_some hslot, List.forall_mem_cons]
      -- what is given now is the field too, which the rest may not give again
      have hhas : ∀ {x}, tag.readValue slot v = .ok x →
          ∀ s, (p.put x).has s = false ↔ p.has s = false ∧ s ≠ slot := by
        intro x hx s
        rw [p.has_put, Tag.slot_of_readValue hx, Bool.or_eq_false_iff, beq_eq_false_iff_ne]
      constructor
      · rintro ⟨q, hnew, x, hx, hrest⟩
        obtain ⟨hread, hfresh⟩ := ih.mp ⟨q, hrest⟩
        simp only [hhas hx] at hfresh
        exact ⟨⟨fun hmem => (hfresh slot hmem).2 rfl, ⟨x, hx⟩, hread⟩, hnew,
          fun s hs => (hfresh s hs).1⟩
      · rintro ⟨⟨hnot, ⟨x, hx⟩, hread⟩, hnew, hold⟩
        have hfresh : ∀ s ∈ takenPlaces tag.slot? rest, (p.put x).has s = false := by
          intro s hs
          rw [hhas hx]
          exact ⟨hold s hs, fun heq => hnot (heq ▸ hs)⟩
        obtain ⟨q, hq⟩ := ih.mpr ⟨hread, hfresh⟩
        exact ⟨q, hnew, x, hx, hq⟩

theorem exists_readPayload {fields : Fields} :
    (∃ q, readPayload tag {} fields = .ok q) ↔ tag.Readable fields := by
  have hnew : ∀ slot ∈ takenPlaces tag.slot? fields, Payload.has {} slot = false := by
    intro slot _
    cases slot <;> rfl
  rw [exists_readPayload_iff, and_iff_left hnew]

/-- Fields can be read with another value in one of them if it can be read there too. -/
theorem Tag.Readable.replace {before after : Fields} {key : String} {v w : Json}
    (h : tag.Readable (before ++ (key, v) :: after))
    (hvalue : ∀ slot, tag.slot? key = some slot → (∃ x, tag.readValue slot v = .ok x) →
      ∃ x, tag.readValue slot w = .ok x) :
    tag.Readable (before ++ (key, w) :: after) := by
  obtain ⟨honce, hread⟩ := h
  rw [List.forall_mem_append, List.forall_mem_cons] at hread
  obtain ⟨hbefore, hfield, hafter⟩ := hread
  constructor
  · rw [takenPlaces, List.filterMap_append, List.filterMap_cons] at honce ⊢
    exact honce
  · rw [List.forall_mem_append, List.forall_mem_cons]
    exact ⟨hbefore, fun slot hslot => hvalue slot hslot (hfield slot hslot), hafter⟩

/-! ### Nodes -/

/-- The node of a type with what its fields hold. -/
def Tag.readNode (tag : Tag) (fields : Fields) : Except TemplateError Node :=
  (readPayload tag {} fields).map tag.node

theorem Tag.readNode_eq_ok {fields : Fields} {node : Node} :
    tag.readNode fields = .ok node ↔
      ∃ q, readPayload tag {} fields = .ok q ∧ tag.node q = node :=
  map_eq_ok

/-- **Null.** A field that holds `null` might as well not be there, if it is given nowhere else. -/
theorem sameNode_of_null {key : String} {before after : Fields}
    (h : ∀ slot, tag.slot? key = some slot → slot ∉ takenPlaces tag.slot? (before ++ after)) :
    SameOutcome (tag.readNode (before ++ (key, .null) :: after))
      (tag.readNode (before ++ after)) := by
  -- the field is moved behind all others, where it is the last that is read
  have hperm : (before ++ (key, Json.null) :: after).Perm ((before ++ after) ++ [(key, .null)]) :=
    List.perm_middle.trans (List.perm_append_singleton _ _).symm
  refine ((sameOutcome_of_perm hperm {}).map tag.node).trans ?_
  rw [readPayload_append]
  unfold Tag.readNode
  cases hread : readPayload tag {} (before ++ after) with
  | error e => exact .refl _
  | ok q =>
    show SameOutcome ((readPayload tag q [(key, .null)]).map tag.node) (.ok (tag.node q))
    cases hslot : tag.slot? key with
    | none =>
      rw [readPayload_cons_none hslot, readPayload_nil]
      exact .refl _
    | some slot =>
      have hnew : q.has slot = false := by
        rw [Bool.eq_false_iff, ne_eq, has_of_readPayload hread]
        rintro (hempty | htaken)
        · cases slot <;> cases hempty
        · exact h slot hslot htaken
      have hput : readPayload tag q [(key, .null)] = .ok (q.put slot.blank) :=
        (readPayload_cons_eq_ok hslot).mpr
          ⟨hnew, slot.blank, tag.readValue_null slot, readPayload_nil _⟩
      rw [hput]
      show SameOutcome (.ok (tag.node (q.put slot.blank))) (.ok (tag.node q))
      rw [tag.node_put_blank hnew]
      exact .refl _

/-- Fields come out the same with another value in one of them that comes out the same there. -/
theorem sameNode_of_value {before after : Fields} {key : String} {v w : Json}
    (h : ∀ slot, tag.slot? key = some slot →
      SameOutcome (tag.readValue slot v) (tag.readValue slot w)) :
    SameOutcome (tag.readNode (before ++ (key, v) :: after))
      (tag.readNode (before ++ (key, w) :: after)) := by
  have hfields : List.Forall₂ tag.ReadAlike (before ++ (key, v) :: after)
      (before ++ (key, w) :: after) :=
    forall₂_replace (fun f => ⟨rfl, fun _ _ => .refl _⟩) ⟨rfl, h⟩ before after
  exact (sameOutcome_of_forall₂ hfields {}).map tag.node

end Fields

/-- The type whose fields a node has that names its type so: wrappers have those of documents. -/
def Tag.ofTypeName (name : String) : Tag :=
  (Tag.ofName? name).getD .document

/-- The children of a wrapper: those of the document that its fields make, or none if they make
none. -/
def wrapperChildren (fields : Fields) : List Node :=
  match Tag.document.readNode fields with
  | .ok node => node.children
  | .error _ => []

theorem wrapperChildren_congr {fields given : Fields}
    (h : SameOutcome (Tag.document.readNode fields) (Tag.document.readNode given)) :
    wrapperChildren fields = wrapperChildren given := by
  unfold wrapperChildren
  cases hread : Tag.document.readNode fields with
  | ok node => rw [(h node).mp hread]
  | error e =>
    cases hread' : Tag.document.readNode given with
    | ok node =>
      rw [(h node).mpr hread'] at hread
      cases hread
    | error e' => rfl

/-- A wrapper keeps the children that a document with its fields has. -/
theorem Node.ofJson_wrapper {fields : Fields} {name : String}
    (hname : field? "type" fields = some (.string name)) (hunknown : Tag.ofName? name = none) :
    Node.ofJson (.object fields) = .ok (.unknown name (wrapperChildren fields)) := by
  rw [Node.ofJson, hname]
  dsimp only
  rw [hunknown]
  unfold wrapperChildren Tag.readNode
  cases readPayload .document {} fields <;> rfl

end Letterhead
