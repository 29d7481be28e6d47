import Letterhead.Proofs.Template.Alike

/-!
# The spelling of a template

Types and fields can be spelled in more than one way. A template says the same in every spelling, as
long as no node gives a field twice: at any of its nodes, at any depth, the type and the keys can be
spelled differently, and then put in another order. The two spellings of a field are accepted
wherever the field is, and a wrapper knows both of them for its children.

* `plainKey`, `SpeltOnce` — nodes that give no field twice, in one spelling or in two;
* `NodeIn` — the values that are read as nodes, below known types and below wrappers;
* `Respelt` — the same node in another spelling;
* `Respelt.alike` — nodes in another spelling are the same node;
* `Template.spelling_is_free` — and templates the same template.
-/

namespace Letterhead

open Json

/-! ### The fields that keys name -/

namespace Slot

/-- No spelling is shared by two fields. -/
theorem eq_of_mem_spellings {s t : Slot} {key : String} (hs : key ∈ s.spellings)
    (ht : key ∈ t.spellings) : s = t := by
  have each : ∀ s ∈ [content, attributes, text, marks], ∀ k ∈ s.spellings,
      ∀ t ∈ [content, attributes, text, marks], k ∈ t.spellings → s = t := by decide
  exact each s (by cases s <;> decide) key hs t (by cases t <;> decide) ht

/-- Of several fields, a key finds just the one that it is a spelling of. -/
theorem find?_eq_some_iff {slots : List Slot} {key : String} {slot : Slot} :
    slots.find? (·.spellings.contains key) = some slot ↔ slot ∈ slots ∧ key ∈ slot.spellings := by
  have hof : ∀ {found}, slots.find? (·.spellings.contains key) = some found →
      found ∈ slots ∧ key ∈ found.spellings := by
    intro found hfind
    have hkey := List.find?_some (p := fun s : Slot => s.spellings.contains key) hfind
    exact ⟨List.mem_of_find?_eq_some hfind, List.contains_iff_mem.mp hkey⟩
  refine ⟨hof, ?_⟩
  rintro ⟨hslot, hkey⟩
  -- a field is found, and it can be no other
  cases hfind : slots.find? (·.spellings.contains key) with
  | none =>
    have hnone := List.find?_eq_none.mp hfind slot hslot
    exact absurd (List.contains_iff_mem.mpr hkey) hnone
  | some found => rw [eq_of_mem_spellings (hof hfind).2 hkey]

/-- The field that a key names. -/
def ofKey? (key : String) : Option Slot :=
  [content, attributes, text, marks].find? (·.spellings.contains key)

theorem ofKey?_eq_some_iff {key : String} {slot : Slot} :
    ofKey? key = some slot ↔ key ∈ slot.spellings := by
  rw [ofKey?, find?_eq_some_iff, and_iff_right]
  cases slot <;> decide

end Slot

/-- A type has the fields that its keys name and that are among its own. -/
theorem Tag.slot?_eq_some_iff {tag : Tag} {key : String} {slot : Slot} :
    tag.slot? key = some slot ↔ slot ∈ tag.slots ∧ Slot.ofKey? key = some slot := by
  rw [Tag.slot?, Slot.find?_eq_some_iff, Slot.ofKey?_eq_some_iff]

/-- A spelling of a field names no other field of a type. -/
theorem Tag.eq_of_slot? {tag : Tag} {key : String} {slot slot' : Slot} (h : key ∈ slot.spellings)
    (hslot : tag.slot? key = some slot') : slot' = slot := by
  have hkey := (Tag.slot?_eq_some_iff.mp hslot).2
  rw [Slot.ofKey?_eq_some_iff.mpr h, Option.some.injEq] at hkey
  exact hkey.symm

/-- The type is no such field. -/
theorem Slot.ne_type {slot : Slot} {key : String} (h : key ∈ slot.spellings) : key ≠ "type" := by
  rintro rfl
  have hnone : Slot.ofKey? "type" = none := by decide
  rw [Slot.ofKey?_eq_some_iff.mpr h] at hnone
  cases hnone

/-- Keys of one field name the same field of every type. -/
theorem Tag.slot?_congr {k l : String} (h : Slot.ofKey? k = Slot.ofKey? l) (tag : Tag) :
    tag.slot? k = tag.slot? l := by
  refine Option.ext fun slot => ?_
  rw [Tag.slot?_eq_some_iff, Tag.slot?_eq_some_iff, h]

/-- A key in the usual spelling. -/
def plainKey (key : String) : String :=
  ((Slot.ofKey? key).map Slot.name).getD key

theorem plainKey_of_mem {key : String} {slot : Slot} (h : key ∈ slot.spellings) :
    plainKey key = slot.name := by
  rw [plainKey, Slot.ofKey?_eq_some_iff.mpr h, Option.map_some, Option.getD_some]

/-- An object gives no field twice, neither under one key nor in two spellings. -/
def SpeltOnce (fields : Fields) : Prop :=
  (fields.map fun f => plainKey f.1).Nodup

/-- Then it has no key twice. -/
theorem SpeltOnce.nodup_keys {fields : Fields} (h : SpeltOnce fields) :
    (fields.map Prod.fst).Nodup := by
  have hmap : fields.map (fun f => plainKey f.1) = (fields.map Prod.fst).map plainKey := by
    rw [List.map_map]
    rfl
  rw [SpeltOnce, hmap] at h
  exact h.of_map plainKey

/-! ### Nodes in a value -/

/-- The items below a value that are read as nodes. A wrapper has those of a document. -/
def Json.childItems (v : Json) : List Json :=
  match v.typeName? with
  | some name => (Tag.ofTypeName name).contentItems v.entries
  | none => []

/-- Whether a value is read as a node in another. -/
inductive NodeIn : Json → Json → Prop
  | refl (v : Json) : NodeIn v v
  | child {v c w : Json} (hc : c ∈ v.childItems) (h : NodeIn c w) : NodeIn v w

/-! ### Other spellings -/

/-- Fields of a node that differ in nothing but spelling: in that of the type, in that of the key,
or in that of the nodes below, which is given. -/
inductive RespeltField (R : Json → Json → Prop) : String × Json → String × Json → Prop
  | same (f : String × Json) : RespeltField R f f
  | typeName {a b : String} (h : SameType a b) :
      RespeltField R ("type", .string a) ("type", .string b)
  | key {slot : Slot} {k l : String} (hk : k ∈ slot.spellings) (hl : l ∈ slot.spellings)
      (v : Json) : RespeltField R (k, v) (l, v)
  | content {k l : String} {items items' : List Json} (hk : k ∈ Slot.content.spellings)
      (hl : l ∈ Slot.content.spellings) (h : List.Forall₂ R items items') :
      RespeltField R (k, .array items) (l, .array items')

/-- The same node in another spelling: any of its fields and any nodes below it are spelled
differently, and its fields are put in another order. -/
inductive Respelt : Json → Json → Prop
  | same (v : Json) : Respelt v v
  | node {fields given fields' : Fields} (h : List.Forall₂ (RespeltField Respelt) fields given)
      (hperm : given.Perm fields') : Respelt (.object fields) (.object fields')

/-- The same template in another spelling: an array of nodes, or a node. -/
inductive RespeltTemplate : Json → Json → Prop
  | elements {items items' : List Json} (h : List.Forall₂ Respelt items items') :
      RespeltTemplate (.array items) (.array items')
  | root {v w : Json} (h : Respelt v w) : RespeltTemplate v w

section Fields

variable {R : Json → Json → Prop} {fields given : Fields} {f g : String × Json}

theorem RespeltField.ofKey?_eq (h : RespeltField R f g) : Slot.ofKey? f.1 = Slot.ofKey? g.1 := by
  cases h with
  | same => rfl
  | typeName => rfl
  | key hk hl => rw [Slot.ofKey?_eq_some_iff.mpr hk, Slot.ofKey?_eq_some_iff.mpr hl]
  | content hk hl => rw [Slot.ofKey?_eq_some_iff.mpr hk, Slot.ofKey?_eq_some_iff.mpr hl]

theorem RespeltField.plainKey_eq (h : RespeltField R f g) : plainKey f.1 = plainKey g.1 := by
  cases h with
  | same => rfl
  | typeName => rfl
  | key hk hl => rw [plainKey_of_mem hk, plainKey_of_mem hl]
  | content hk hl => rw [plainKey_of_mem hk, plainKey_of_mem hl]

/-- In another spelling, too, no field is given twice. -/
theorem SpeltOnce.respelt (honce : SpeltOnce fields)
    (h : List.Forall₂ (RespeltField R) fields given) : SpeltOnce given := by
  have hkeys : fields.map (fun f => plainKey f.1) = given.map (fun f => plainKey f.1) := by
    induction h with
    | nil => rfl
    | cons hfield _ ih =>
      rw [List.map_cons, List.map_cons, hfield.plainKey_eq, ih (List.nodup_cons.mp honce).2]
  rwa [SpeltOnce, ← hkeys]

/-- Either neither has a type, or they have the same type, be it spelled differently. -/
theorem types_of_respelt (h : List.Forall₂ (RespeltField R) fields given) :
    ((Json.object fields).typeName? = none ∧ (Json.object given).typeName? = none) ∨
      ∃ a b, field? "type" fields = some (.string a) ∧ field? "type" given = some (.string b) ∧
        SameType a b := by
  rw [Json.typeName?_object, Json.typeName?_object]
  induction h with
  | nil => exact Or.inl ⟨rfl, rfl⟩
  | @cons f _ _ _ hfield _ ih =>
    cases hfield with
    | same =>
      obtain ⟨key, v⟩ := f
      rw [field?_cons, field?_cons]
      by_cases hkey : "type" = key
      · rw [if_pos hkey, if_pos hkey]
        cases v with
        | string a => exact Or.inr ⟨a, a, rfl, rfl, .same a⟩
        | null | bool | number | array | object => exact Or.inl ⟨rfl, rfl⟩
      · rw [if_neg hkey, if_neg hkey]
        exact ih
    | typeName htype =>
      rw [field?_cons, field?_cons, if_pos rfl, if_pos rfl]
      exact Or.inr ⟨_, _, rfl, rfl, htype⟩
    | key hk hl =>
      rw [field?_cons, field?_cons, if_neg (Slot.ne_type hk).symm, if_neg (Slot.ne_type hl).symm]
      exact ih
    | content hk hl =>
      rw [field?_cons, field?_cons, if_neg (Slot.ne_type hk).symm, if_neg (Slot.ne_type hl).symm]
      exact ih

end Fields

/-- A key that stands once has the same value in whatever order the fields are. -/
theorem field?_of_perm {fields given : Fields} (honce : (fields.map Prod.fst).Nodup)
    (hperm : fields.Perm given) (key : String) : field? key fields = field? key given := by
  induction hperm with
  | nil => rfl
  | cons f _ ih =>
    obtain ⟨k, v⟩ := f
    rw [field?_cons, field?_cons, ih (List.nodup_cons.mp honce).2]
  | swap f g rest =>
    obtain ⟨k, v⟩ := f
    obtain ⟨l, w⟩ := g
    simp only [field?_cons]
    have hne : l ≠ k := by
      intro heq
      rw [List.map_cons, List.map_cons, List.nodup_cons] at honce
      exact honce.1 (heq ▸ List.mem_cons_self)
    by_cases hk : key = k
    · have hl : key ≠ l := fun heq => hne (heq.symm.trans hk)
      simp only [if_pos hk, if_neg hl]
    · simp only [if_neg hk]
  | trans hfirst _ ih ih' =>
    exact (ih honce).trans (ih' ((hfirst.map Prod.fst).nodup_iff.mp honce))

/-- Items in another spelling are alike if each of them is, in any spelling. -/
theorem forall₂_alike {items items' : List Json} (h : List.Forall₂ Respelt items items')
    (hitems : ∀ c ∈ items, ∀ c', Respelt c c' → Node.Alike c c') :
    List.Forall₂ Node.Alike items items' := by
  refine ((List.forall₂_and_left _ _).mpr ⟨hitems, h⟩).imp ?_
  rintro c c' ⟨halike, hrespelt⟩
  exact halike c' hrespelt

/-- Fields in another spelling are read alike if the nodes below are alike. -/
theorem forall₂_readAlike {tag : Tag} {fields given : Fields}
    (h : List.Forall₂ (RespeltField Respelt) fields given)
    (hitems : ∀ c ∈ tag.contentItems fields, ∀ c', Respelt c c' → Node.Alike c c') :
    List.Forall₂ tag.ReadAlike fields given := by
  induction h with
  | nil => exact .nil
  | @cons f g rest rest' hfield _ ih =>
    have hslots : tag.slot? f.1 = tag.slot? g.1 := tag.slot?_congr hfield.ofKey?_eq
    refine .cons ⟨hslots, fun slot hslot => ?_⟩ (ih fun c hc => hitems c ?_)
    · cases hfield with
      | same => exact .refl _
      | typeName => cases tag <;> cases hslot
      | key => exact .refl _
      | @content k l items items' hk hl hbelow =>
        -- the nodes below are among those of the type
        have hcontent : slot = .content := Tag.eq_of_slot? hk hslot
        subst hcontent
        have halike : List.Forall₂ Node.Alike items items' := by
          refine forall₂_alike hbelow fun c hc => hitems c ?_
          rw [Tag.contentItems_cons_some hslot]
          exact List.mem_append_left _ hc
        unfold Tag.readValue
        rw [readContent, readContent]
        exact (sameOutcome_readNodes halike).map _
    · obtain ⟨key, v⟩ := f
      cases hkey : tag.slot? key with
      | none =>
        rw [Tag.contentItems_cons_none hkey]
        exact hc
      | some slot =>
        rw [Tag.contentItems_cons_some hkey]
        exact List.mem_append_right _ hc

/-- The items of a node are smaller than the node. -/
theorem Json.sizeOf_lt_of_mem_childItems {v c : Json} (h : c ∈ v.childItems) :
    sizeOf c < sizeOf v := by
  unfold childItems at h
  split at h
  · next name hname =>
    obtain ⟨fields, rfl, -⟩ := Json.of_typeName? hname
    exact Tag.sizeOf_lt_of_mem_contentItems h
  · exact absurd h List.not_mem_nil

/-- **Nodes** are the same in every spelling. -/
theorem Respelt.alike {v w : Json} (h : Respelt v w)
    (honce : ∀ u, NodeIn v u → SpeltOnce u.entries) : Node.Alike v w := by
  -- the nodes below are smaller
  induction hsize : sizeOf v using Nat.strongRecOn generalizing v w with
  | ind n ih =>
    cases h with
    | same => exact .refl _
    | @node fields given fields' hfields hperm =>
      have hfirst : SpeltOnce fields := honce _ (.refl _)
      have hgiven : SpeltOnce given := hfirst.respelt hfields
      have htype : field? "type" given = field? "type" fields' :=
        field?_of_perm hgiven.nodup_keys hperm "type"
      rcases types_of_respelt hfields with ⟨hnone, hnone'⟩ | ⟨a, b, ha, hb, hab⟩
      · refine Node.alike_of_untyped hnone ?_
        rw [Json.typeName?_object, ← htype]
        exact hnone'
      · refine Node.alike_of_sameOutcome ha (htype ▸ hb) hab ?_
        have hchildren : (Json.object fields).childItems =
            (Tag.ofTypeName a).contentItems fields := by
          rw [Json.childItems, Json.typeName?_object, ha]
          rfl
        have hread : List.Forall₂ (Tag.ofTypeName a).ReadAlike fields given := by
          refine forall₂_readAlike hfields fun c hc c' hc' => ?_
          rw [← hchildren] at hc
          have hlt := Json.sizeOf_lt_of_mem_childItems hc
          exact ih (sizeOf c) (hsize ▸ hlt) hc' (fun u hu => honce u (.child hc hu)) rfl
        exact ((sameOutcome_of_forall₂ hread {}).trans (sameOutcome_of_perm hperm {})).map _

namespace Template

/-- **Spelling.** A template in which no node gives a field twice is the same template in every
spelling: each is rejected if the other is, and otherwise they are equal. -/
theorem spelling_is_free {v w : Json} (h : RespeltTemplate v w)
    (honce : ∀ root ∈ v.roots, ∀ u, NodeIn root u → SpeltOnce u.entries) (t : Template) :
    Template.ofJson v = .ok t ↔ Template.ofJson w = .ok t := by
  cases h with
  | @elements items items' hitems =>
    have halike : List.Forall₂ Node.Alike items items' :=
      forall₂_alike hitems fun c hc _ hc' => hc'.alike (honce c hc)
    exact sameOutcome_of_elements halike t
  | root h =>
    cases h with
    | same => exact Iff.rfl
    | @node fields given fields' hfields hperm =>
      have halike : Node.Alike (.object fields) (.object fields') := by
        refine Respelt.alike (.node hfields hperm) fun u hu => ?_
        exact honce _ (List.mem_singleton_self _) u hu
      exact sameOutcome_of_alike halike t

/-- A numbered list in two spellings, with its keys turned round. -/
theorem spelling_is_free_list :
    let start : Json := .object [("start", .number (.integer 3))]
    let v : Json := .object [("attrs", start),
      ("content", .array [.object [("content", .null), ("type", .string "listItem")]]),
      ("type", .string "orderedList")]
    let w : Json := .object [("type", .string "ordered-list"),
      ("children", .array [.object [("children", .null), ("type", .string "list-item")]]),
      ("attributes", start)]
    RespeltTemplate v w ∧
      (∀ root ∈ v.roots, ∀ u, NodeIn root u → SpeltOnce u.entries) ∧
      Template.ofJson v = .ok ⟨[.orderedList (some 3) [.listItem []]]⟩ ∧
      Template.ofJson w = .ok ⟨[.orderedList (some 3) [.listItem []]]⟩ := by
  intro start v w
  have hcontent : "content" ∈ Slot.content.spellings ∧ "children" ∈ Slot.content.spellings := by
    decide
  have hattrs : "attrs" ∈ Slot.attributes.spellings ∧ "attributes" ∈ Slot.attributes.spellings := by
    decide
  have hitemType : "listItem" ∈ Tag.listItem.spellings ∧ "list-item" ∈ Tag.listItem.spellings := by
    decide
  have hlistType : "orderedList" ∈ Tag.orderedList.spellings ∧
      "ordered-list" ∈ Tag.orderedList.spellings := by
    decide
  have hitem : Respelt (.object [("content", .null), ("type", .string "listItem")])
      (.object [("children", .null), ("type", .string "list-item")]) := by
    refine .node (.cons (.key hcontent.1 hcontent.2 _) (.cons (.typeName ?_) .nil)) (.refl _)
    exact .spelled hitemType.1 hitemType.2
  have hrespelt : RespeltTemplate v w := by
    refine .root (.node (.cons (.key hattrs.1 hattrs.2 _)
      (.cons (.content hcontent.1 hcontent.2 (.cons hitem .nil))
        (.cons (.typeName (.spelled hlistType.1 hlistType.2)) .nil))) ?_)
    exact (List.reverse_perm _).symm
  have honce : ∀ root ∈ v.roots, ∀ u, NodeIn root u → SpeltOnce u.entries := by
    intro root hroot u hu
    cases List.mem_singleton.mp hroot
    -- there are the list and its item
    cases hu with
    | refl => unfold SpeltOnce; decide
    | child hc hu =>
      cases List.mem_singleton.mp hc
      cases hu with
      | refl => unfold SpeltOnce; decide
      | child hc _ => exact absurd hc List.not_mem_nil
  have hv : Template.ofJson v = .ok ⟨[.orderedList (some 3) [.listItem []]]⟩ := by rfl
  exact ⟨hrespelt, honce, hv, (spelling_is_free hrespelt honce _).mp hv⟩

end Template

end Letterhead
