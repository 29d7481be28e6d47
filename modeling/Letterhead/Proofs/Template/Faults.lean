import Letterhead.Proofs.Json.Ascending
import Letterhead.Proofs.Template.Grammar

/-!
# The error of a template

A template is rejected for the first node in document order that is malformed, of those that can be
reached from its roots through the content of known types. The error says what is wrong with that
node by itself, after the types of the nodes that it stands in as they are written there, its own
type last if it has one; and in an array of nodes, after the number of the root.

Two things decide that it is the first. Attributes come before the content in ascending order of
keys, so a node is judged by itself before anything in it is; and the nodes of a content are read
one after the other, up to one that cannot be read.

* `Json.outline`, `Json.occurrences` — the nodes that count, in document order, with their places;
* `Json.fault?` — what is wrong with a node by itself;
* `Json.firstInside?`, `Json.firstMalformed?` — the first malformed node under a node, and among
  the roots;
* `readPayload_eq_error`, `Node.error_of_firstInside?` — the error of a node;
* `Template.error_at_first_malformed` — the error of a template.
-/

namespace Letterhead

open Json

/-! ### Nodes in document order -/

/-- The nodes that can be reached from a value through the content of known types, in document
order: a node comes before what is in it. With each of them stand the types of the nodes around it,
as they are written there, from the outermost on. -/
def Json.outline (v : Json) : List (List String × Json) :=
  ([], v) :: v.contentItems.attach.flatMap fun c =>
    (outline c.1).map fun place => (v.typeName?.toList ++ place.1, place.2)
termination_by sizeOf v
decreasing_by exact Json.sizeOf_lt_of_mem_contentItems c.2

theorem Json.outline_eq (v : Json) :
    v.outline = ([], v) :: v.contentItems.flatMap fun c =>
      c.outline.map fun place => (v.typeName?.toList ++ place.1, place.2) := by
  rw [outline, List.flatMap_subtype (g := fun c : Json =>
    c.outline.map fun place => (v.typeName?.toList ++ place.1, place.2)) fun _ _ => rfl,
    List.unattach_attach]

/-- The nodes of the outline are those that can be reached. -/
theorem Json.exists_mem_outline_iff {v w : Json} :
    (∃ path, (path, w) ∈ v.outline) ↔ Reaches v w := by
  constructor
  · -- below a value are only smaller ones
    induction hsize : sizeOf v using Nat.strongRecOn generalizing v with
    | ind n ih =>
      rintro ⟨path, hmem⟩
      rw [outline_eq, List.mem_cons] at hmem
      rcases hmem with heq | hmem
      · cases heq
        exact .refl _
      · obtain ⟨c, hc, hbelow⟩ := List.mem_flatMap.mp hmem
        obtain ⟨⟨path', u⟩, hplace, heq⟩ := List.mem_map.mp hbelow
        have hlt := Json.sizeOf_lt_of_mem_contentItems hc
        cases heq
        exact .content hc (ih (sizeOf c) (hsize ▸ hlt) rfl ⟨path', hplace⟩)
  · intro h
    induction h with
    | refl v =>
      refine ⟨[], ?_⟩
      rw [outline_eq]
      exact List.mem_cons_self
    | @content v c w hc _ ih =>
      obtain ⟨path, hmem⟩ := ih
      refine ⟨v.typeName?.toList ++ path, ?_⟩
      rw [outline_eq]
      refine List.mem_cons_of_mem _ (List.mem_flatMap.mpr ⟨c, hc, ?_⟩)
      exact List.mem_map.mpr ⟨(path, w), hmem, rfl⟩

/-- A node of a template in its place: the number of the root it can be reached from, and the types
written in the nodes around it. -/
structure Occurrence where
  root : Nat
  around : List String
  node : Json

/-- The nodes of a template that count, root by root, each root's in document order. -/
def Json.occurrences (v : Json) : List Occurrence :=
  v.roots.zipIdx.flatMap fun root =>
    root.1.outline.map fun place => ⟨root.2, place.1, place.2⟩

open Classical in
/-- Whether a node is malformed. -/
noncomputable def Json.isMalformed (v : Json) : Bool :=
  decide (Malformed v)

open Classical in
theorem Json.isMalformed_iff {v : Json} : v.isMalformed = true ↔ Malformed v := by
  rw [isMalformed, decide_eq_true_eq]

/-- The first node of a template in document order that is malformed. -/
noncomputable def Json.firstMalformed? (v : Json) : Option Occurrence :=
  v.occurrences.find? fun o => o.node.isMalformed

/-- The first malformed node of an outline, with the types around it. -/
noncomputable def Json.firstInside? (v : Json) : Option (List String × Json) :=
  v.outline.find? fun place => place.2.isMalformed

/-! ### What is wrong with a node by itself -/

/-- The error of a reading that fails. -/
def failure? {ε α : Type} : Except ε α → Option ε
  | .ok _ => none
  | .error e => some e

/-- What is wrong with a field by itself. Of a content only this can be, that it is no list. -/
def Slot.mismatch? (tag : Tag) : Slot → Json → Option Mismatch
  | .content, v =>
    match v with
    | .null | .array _ => none
    | v => some ((view v).mismatch .sequence)
  | .attributes, v =>
    tag.attributes?.bind fun (name, readers) => failure? (readAttributes name readers v)
  | .text, v => failure? (readOptional readText v)
  | .marks, v => failure? (readOptional (readList id readMark) v)

/-- What is wrong with the fields of a node of a type: the first of its own fields, in the order in
which they stand, that has something wrong with it. -/
def Tag.mismatch? (tag : Tag) (fields : Fields) : Option Mismatch :=
  fields.findSome? fun f => (tag.slot? f.1).bind fun slot => slot.mismatch? tag f.2

/-- What is wrong with a node by itself. -/
def Json.fault? (v : Json) : Option TemplateError :=
  match v with
  | .object fields =>
    match v.typeName? with
    | none => some .untyped
    | some name => (Tag.ofName? name).bind fun tag => (tag.mismatch? fields).map .payload
  | v => some (.notAnObject v)

/-- No node gives a field twice, in one spelling or in two, of those that its type has. -/
def Json.GivesOnce (v : Json) : Prop :=
  ∀ tag, v.tag? = some tag → (takenPlaces tag.slot? v.entries).Nodup

theorem Json.GivesOnce.of_tag {v : Json} {tag : Tag} (htag : v.tag? = some tag)
    (h : (takenPlaces tag.slot? v.entries).Nodup) : v.GivesOnce := by
  intro tag' htag'
  rw [htag, Option.some.injEq] at htag'
  exact htag' ▸ h

theorem Json.givesOnce_below {v : Json} (hself : v.GivesOnce)
    (hitems : ∀ c ∈ v.contentItems, ∀ w, Reaches c w → w.GivesOnce) :
    ∀ w, Reaches v w → w.GivesOnce := by
  intro w hw
  cases hw with
  | refl => exact hself
  | content hc hw => exact hitems _ hc w hw

/-! ### The error of one field -/

section Fields

variable {tag : Tag}

/-- A content is a list, unless there is something wrong with it. -/
theorem readContent_eq (tag : Tag) (v : Json) :
    readContent v =
      match Slot.content.mismatch? tag v with
      | some m => .error (.payload m)
      | none => readNodes (Slot.content.items v) := by
  cases v with
  | null =>
    rw [readContent]
    exact readNodes.eq_1.symm
  | array items => rw [readContent]; rfl
  | bool | number | string | object => rw [readContent]; rfl

/-- A field is read unless something is wrong with it by itself; in a content, something can be
wrong with the nodes too. -/
theorem Tag.readValue_eq_error {slot : Slot} {v : Json} {e : TemplateError}
    (h : tag.readValue slot v = .error e) :
    (∃ m, slot.mismatch? tag v = some m ∧ e = .payload m) ∨
      slot = .content ∧ slot.mismatch? tag v = none ∧ readNodes (slot.items v) = .error e := by
  have hfailed : ∀ {α : Type} {x : Except Mismatch α} {f : α → SlotValue},
      (x.map f).mapError TemplateError.payload = .error e →
      ∃ m, failure? x = some m ∧ e = .payload m := by
    intro α x f h
    cases x with
    | ok a => cases h
    | error m =>
      cases h
      exact ⟨m, rfl, rfl⟩
  cases slot with
  | content =>
    have hread : readContent v = .error e := by
      rw [readValue] at h
      cases hc : readContent v with
      | ok nodes =>
        rw [hc] at h
        cases h
      | error e' =>
        rw [hc] at h
        cases h
        rfl
    rw [readContent_eq tag] at hread
    cases hm : Slot.content.mismatch? tag v with
    | some m =>
      rw [hm] at hread
      cases hread
      exact Or.inl ⟨m, rfl, rfl⟩
    | none =>
      rw [hm] at hread
      exact Or.inr ⟨rfl, rfl, hread⟩
  | attributes =>
    left
    rw [Slot.mismatch?]
    rw [readValue] at h
    cases hreaders : tag.attributes? with
    | none =>
      rw [hreaders] at h
      cases h
    | some entry =>
      rw [hreaders] at h
      exact hfailed h
  | text => exact Or.inl (hfailed h)
  | marks => exact Or.inl (hfailed h)

/-- Nothing is wrong with a field that is read, nor with a node in it. -/
theorem Tag.mismatch?_of_readValue {slot : Slot} {v : Json} {x : SlotValue}
    (h : tag.readValue slot v = .ok x) : slot.mismatch? tag v = none := by
  have hread : ∀ {α : Type} {y : Except Mismatch α} {f : α → SlotValue},
      (y.map f).mapError TemplateError.payload = .ok x → failure? y = none := by
    intro α y f h
    cases y with
    | ok a => rfl
    | error m => cases h
  cases slot with
  | content =>
    obtain ⟨nodes, hnodes, -⟩ := map_eq_ok.mp h
    rw [readContent_eq tag] at hnodes
    cases hm : Slot.content.mismatch? tag v with
    | some m =>
      rw [hm] at hnodes
      cases hnodes
    | none => rfl
  | attributes =>
    rw [Slot.mismatch?]
    rw [readValue] at h
    cases hreaders : tag.attributes? with
    | none => rfl
    | some entry =>
      rw [hreaders] at h
      exact hread h
  | text => exact hread h
  | marks => exact hread h

/-- A field has nothing wrong with it exactly if it fits. -/
theorem Slot.mismatch?_eq_none_iff {slot : Slot} (hslot : slot ∈ tag.slots) (v : Json) :
    slot.mismatch? tag v = none ↔ slot.Fits tag v := by
  by_cases hcontent : slot = .content
  · subst hcontent
    cases v with
    | null => exact iff_of_true rfl (Or.inl rfl)
    | array items => exact iff_of_true rfl (Or.inr ⟨items, rfl, fun _ _ => trivial⟩)
    | bool | number | string | object =>
      refine iff_of_false (fun h => nomatch h) fun h => ?_
      rcases h with hnull | ⟨_, hlist, _⟩
      · cases hnull
      · cases hlist
  · -- without nodes in it, the field is judged by whether it can be read
    have hitems : ∀ c ∈ slot.items v, ∃ node, Node.IsRead c node := by
      rw [Slot.items_of_ne hcontent]
      exact List.forall_mem_nil _
    have hfits : (∃ x, tag.readValue slot v = .ok x) ↔ slot.Fits tag v := by
      rw [Tag.exists_readValue hslot, and_iff_left hitems]
    rw [← hfits]
    constructor
    · intro hnone
      cases hread : tag.readValue slot v with
      | ok x => exact ⟨x, rfl⟩
      | error e =>
        rcases Tag.readValue_eq_error hread with ⟨m, hm, -⟩ | ⟨heq, -⟩
        · rw [hnone] at hm
          cases hm
        · exact absurd heq hcontent
    · rintro ⟨x, hx⟩
      exact Tag.mismatch?_of_readValue hx

/-! ### The error of all fields -/

theorem Tag.mismatch?_cons_none {key : String} (h : tag.slot? key = none) (v : Json)
    (rest : Fields) : tag.mismatch? ((key, v) :: rest) = tag.mismatch? rest := by
  rw [mismatch?, List.findSome?_cons, h, Option.bind_none]
  rfl

theorem Tag.mismatch?_cons_some {key : String} {slot : Slot} (h : tag.slot? key = some slot)
    (v : Json) (rest : Fields) :
    tag.mismatch? ((key, v) :: rest) = (slot.mismatch? tag v).or (tag.mismatch? rest) := by
  rw [mismatch?, List.findSome?_cons, h, Option.bind_some]
  cases slot.mismatch? tag v <;> rfl

/-- Fields that a type does not have are no matter. -/
theorem Tag.mismatch?_of_free {fields : Fields} (h : takenPlaces tag.slot? fields = []) :
    tag.mismatch? fields = none ∧ tag.contentItems fields = [] := by
  have hfree : ∀ f ∈ fields, tag.slot? f.1 = none := List.filterMap_eq_nil_iff.mp h
  constructor
  · refine List.findSome?_eq_none_iff.mpr fun f hf => ?_
    rw [hfree f hf, Option.bind_none]
  · refine List.flatMap_eq_nil_iff.mpr fun f hf => ?_
    rw [hfree f hf]

/-- No field of a type comes after its content. -/
theorem Tag.eq_content_of_lt {key later : String} {slot : Slot}
    (h : tag.slot? key = some .content) (hlt : key < later) (hslot : tag.slot? later = some slot) :
    slot = .content := by
  have hcontent : Slot.content ∈ tag.slots := Tag.mem_slots_of_slot? h
  have hkeys : ∀ {s : Slot} {k : String}, tag.slot? k = some s → k ∈ s.spellings := by
    intro s k hs
    have hfind := List.find?_some (p := fun s : Slot => s.spellings.contains k) hs
    exact List.contains_iff_mem.mp hfind
  have hkey : key ∈ Slot.content.spellings := hkeys h
  have hlater : later ∈ slot.spellings := hkeys hslot
  -- a type with a content has no other field but attributes, and their keys come before
  have hbefore : ∀ k ∈ Slot.content.spellings, ∀ l ∈ Slot.attributes.spellings, ¬ k < l := by
    decide
  have hmem : slot ∈ tag.slots := Tag.mem_slots_of_slot? hslot
  have hother : slot = .content ∨ slot = .attributes := by
    cases tag <;> cases slot <;> simp [Tag.slots] at hcontent hmem ⊢
  rcases hother with rfl | rfl
  · rfl
  · exact absurd hlt (hbefore key hkey later hlater)

theorem readNodes_append_of_ok {items more : List Json} {nodes : List Node}
    (h : readNodes items = .ok nodes) :
    readNodes (items ++ more) = (readNodes more).map (nodes ++ ·) := by
  induction items generalizing nodes with
  | nil =>
    rw [readNodes, Except.ok.injEq] at h
    subst h
    rw [List.nil_append]
    cases readNodes more <;> rfl
  | cons v rest ih =>
    rw [readNodes] at h
    cases hv : Node.ofJson v with
    | error e =>
      rw [hv] at h
      cases h
    | ok node =>
      rw [hv] at h
      cases hrest : readNodes rest with
      | error e =>
        rw [hrest] at h
        cases h
      | ok later =>
        rw [hrest, Except.ok.injEq] at h
        rw [List.cons_append, readNodes, hv, ih hrest, ← h]
        cases readNodes more <;> rfl

/-- **The error of a node's fields** is the first thing that is wrong with one of them by itself;
only if there is none, it is that of the nodes in the content. -/
theorem readPayload_eq_error {fields : Fields} (hkeys : fields.AreAscending)
    (honce : (takenPlaces tag.slot? fields).Nodup) {p : Payload}
    (hnew : ∀ slot ∈ takenPlaces tag.slot? fields, p.has slot = false) {e : TemplateError}
    (h : readPayload tag p fields = .error e) :
    (∃ m, tag.mismatch? fields = some m ∧ e = .payload m) ∨
      tag.mismatch? fields = none ∧ readNodes (tag.contentItems fields) = .error e := by
  induction fields generalizing p with
  | nil =>
    rw [readPayload_nil] at h
    cases h
  | cons f rest ih =>
    obtain ⟨key, v⟩ := f
    obtain ⟨hfirst, hrestKeys⟩ := List.pairwise_cons.mp hkeys
    cases hslot : tag.slot? key with
    | none =>
      rw [takenPlaces_cons_none hslot] at honce hnew
      rw [readPayload_cons_none hslot] at h
      rw [Tag.mismatch?_cons_none hslot, Tag.contentItems_cons_none hslot]
      exact ih hrestKeys honce hnew h
    | some slot =>
      rw [takenPlaces_cons_some hslot, List.nodup_cons] at honce
      rw [takenPlaces_cons_some hslot, List.forall_mem_cons] at hnew
      rw [readPayload_cons_value hslot, hnew.1, if_neg Bool.false_ne_true] at h
      rw [Tag.mismatch?_cons_some hslot, Tag.contentItems_cons_some hslot]
      -- after a content come no more fields
      have hlast : slot = .content → takenPlaces tag.slot? rest = [] := by
        rintro rfl
        refine List.filterMap_eq_nil_iff.mpr fun g hg => ?_
        cases hlater : tag.slot? g.1 with
        | none => rfl
        | some later =>
          have heq : later = .content := Tag.eq_content_of_lt hslot (hfirst g hg) hlater
          refine absurd ?_ honce.1
          exact List.mem_filterMap.mpr ⟨g, hg, heq ▸ hlater⟩
      cases hread : tag.readValue slot v with
      | error e' =>
        rw [hread] at h
        cases h
        rcases Tag.readValue_eq_error hread with ⟨m, hm, rfl⟩ | ⟨hcontent, hm, hnodes⟩
        · exact Or.inl ⟨m, by rw [hm, Option.some_or], rfl⟩
        · obtain ⟨hnone, hitems⟩ := Tag.mismatch?_of_free (hlast hcontent)
          rw [hm, Option.none_or, hnone, hitems, List.append_nil]
          exact Or.inr ⟨rfl, hnodes⟩
      | ok x =>
        rw [hread] at h
        rw [Tag.mismatch?_of_readValue hread, Option.none_or]
        have hput : ∀ s ∈ takenPlaces tag.slot? rest, (p.put x).has s = false := by
          intro s hs
          rw [p.has_put, Tag.slot_of_readValue hread, hnew.2 s hs, Bool.false_or,
            beq_eq_false_iff_ne]
          rintro rfl
          exact honce.1 hs
        rcases ih hrestKeys honce.2 hput h with hm | ⟨hnone, hnodes⟩
        · exact Or.inl hm
        · -- the nodes of this field are read, so the error is that of a later one
          have hitems : readNodes (slot.items v) = .ok x.nodes :=
            readNodes_eq_ok.mpr (Tag.forall₂_of_readValue hread)
          refine Or.inr ⟨hnone, ?_⟩
          rw [readNodes_append_of_ok hitems, hnodes]
          rfl

/-- Fields that are each given once have nothing wrong with them exactly if they fit. -/
theorem Tag.mismatch?_eq_none_iff {fields : Fields}
    (honce : (takenPlaces tag.slot? fields).Nodup) :
    tag.mismatch? fields = none ↔ tag.FieldsFit fields := by
  have hfits : tag.FieldsFit fields ↔
      ∀ f ∈ fields, ∀ slot, tag.slot? f.1 = some slot → slot.Fits tag f.2 :=
    ⟨fun h => h.fits, fun h => ⟨honce, h⟩⟩
  rw [hfits, Tag.mismatch?, List.findSome?_eq_none_iff]
  refine forall₂_congr fun f _ => ?_
  rw [Option.bind_eq_none_iff]
  refine forall₂_congr fun slot hslot => ?_
  exact Slot.mismatch?_eq_none_iff (Tag.mem_slots_of_slot? hslot) f.2

end Fields

/-! ### The error of a node -/

section Nodes

variable {v : Json}

/-- What is no object with a type is rejected for that. -/
theorem Node.ofJson_untyped (h : v.typeName? = none) :
    ∃ fault, v.fault? = some fault ∧ Node.ofJson v = .error fault := by
  cases v with
  | object fields =>
    refine ⟨.untyped, by rw [Json.fault?, h], ?_⟩
    rw [Node.ofJson]
    split
    · next name hfield =>
      have hname : (Json.object fields).typeName? = some name := by
        rw [Json.typeName?, Json.field?, hfield]
        rfl
      rw [h] at hname
      cases hname
    · rfl
  | null | bool | number | string | array => exact ⟨.notAnObject _, rfl, by rw [Node.ofJson]⟩

/-- A node of a known type is what its fields give, and its type goes before their error. -/
theorem Node.ofJson_of_tag {name : String} {tag : Tag} (hname : v.typeName? = some name)
    (htag : Tag.ofName? name = some tag) :
    Node.ofJson v =
      match readPayload tag {} v.entries with
      | .ok q => .ok (tag.node q)
      | .error e => .error (.inside name e) := by
  obtain ⟨fields, rfl, hfield⟩ := Json.of_typeName? hname
  rw [Node.ofJson, hfield, Json.entries]
  dsimp only
  exact htag ▸ rfl

theorem Json.fault?_of_tag {name : String} {tag : Tag} (hname : v.typeName? = some name)
    (htag : Tag.ofName? name = some tag) :
    v.fault? = (tag.mismatch? v.entries).map .payload := by
  obtain ⟨fields, rfl, -⟩ := Json.of_typeName? hname
  rw [Json.fault?, hname]
  dsimp only
  rw [htag, Option.bind_some, Json.entries]

/-- A node that gives no field twice is malformed exactly if something is wrong with it by
itself. -/
theorem malformed_iff_fault? (honce : v.GivesOnce) :
    Malformed v ↔ ∃ fault, v.fault? = some fault := by
  cases hname : v.typeName? with
  | none =>
    obtain ⟨fault, hfault, -⟩ := Node.ofJson_untyped hname
    exact iff_of_true (.untyped hname) ⟨fault, hfault⟩
  | some name =>
    have htypes : v.tag? = Tag.ofName? name := by rw [Json.tag?, hname, Option.bind_some]
    cases htag : Tag.ofName? name with
    | none =>
      -- nothing can be wrong with a node of an unknown type
      have hsome : v.typeName? ≠ none := by
        rw [hname]
        exact Option.some_ne_none name
      have hnone : v.fault? = none := by
        obtain ⟨fields, rfl, -⟩ := Json.of_typeName? hname
        rw [Json.fault?, hname]
        dsimp only
        rw [htag, Option.bind_none]
      rw [hnone]
      refine iff_of_false (not_malformed_of_unknown hsome (htypes.trans htag)) ?_
      rintro ⟨_, h⟩
      cases h
    | some tag =>
      rw [Json.fault?_of_tag hname htag, ← not_iff_not,
        not_malformed_iff_of_tag (htypes.trans htag),
        ← Tag.mismatch?_eq_none_iff (honce tag (htypes.trans htag))]
      cases tag.mismatch? v.entries with
      | none =>
        refine iff_of_true rfl ?_
        rintro ⟨_, h⟩
        cases h
      | some m => exact iff_of_false (Option.some_ne_none m) fun h => h ⟨_, rfl⟩

/-- Nodes are read up to one that cannot be, and its error is the error of all. -/
theorem readNodes_eq_error {items : List Json} {e : TemplateError}
    (h : readNodes items = .error e) :
    ∃ before c after, items = before ++ c :: after ∧
      (∀ b ∈ before, ∃ node, Node.IsRead b node) ∧ Node.ofJson c = .error e := by
  induction items with
  | nil =>
    rw [readNodes] at h
    cases h
  | cons c rest ih =>
    rw [readNodes] at h
    cases hc : Node.ofJson c with
    | error e' =>
      rw [hc, Except.error.injEq] at h
      exact ⟨[], c, rest, rfl, List.forall_mem_nil _, by rw [hc, h]⟩
    | ok node =>
      rw [hc] at h
      cases hrest : readNodes rest with
      | ok nodes =>
        rw [hrest] at h
        cases h
      | error e' =>
        rw [hrest, Except.error.injEq] at h
        obtain ⟨before, d, after, rfl, hbefore, hd⟩ := ih (by rw [hrest, h])
        exact ⟨c :: before, d, after, rfl, List.forall_mem_cons.mpr ⟨⟨node, hc⟩, hbefore⟩, hd⟩

/-- A node is the first of its outline, and then come the outlines of the items of its content. -/
theorem Json.firstInside?_eq (v : Json) :
    v.firstInside? =
      if v.isMalformed then some ([], v)
      else v.contentItems.findSome? fun c =>
        c.firstInside?.map fun place => (v.typeName?.toList ++ place.1, place.2) := by
  unfold firstInside?
  rw [outline_eq, List.find?_cons]
  cases v.isMalformed with
  | true => rfl
  | false =>
    rw [List.find?_flatMap]
    simp only [List.find?_map]
    rfl

/-- Nothing is malformed in a value that can be read. -/
theorem Json.firstInside?_of_isRead {node : Node} (h : Node.IsRead v node) :
    v.firstInside? = none := by
  refine List.find?_eq_none.mpr fun place hplace => ?_
  have hreach : Reaches v place.2 := Json.exists_mem_outline_iff.mp ⟨place.1, hplace⟩
  rw [Json.isMalformed_iff]
  exact (Node.exists_ofJson v).mp ⟨node, h⟩ place.2 hreach

/-- In an ascending value, what can be reached is ascending too. -/
theorem Json.Ascending.of_mem_contentItems {c : Json} (h : v.Ascending) (hc : c ∈ v.contentItems) :
    c.Ascending := by
  unfold Json.contentItems at hc
  split at hc
  · next tag htag =>
    obtain ⟨f, hf, slot, -, hitem⟩ := Tag.mem_contentItems.mp hc
    cases h with
    | @object fields hkeys hfields =>
      have hvalue : f.2.Ascending := hfields f hf
      unfold Slot.items at hitem
      split at hitem
      · next items heq =>
        rw [heq] at hvalue
        cases hvalue with
        | array hitems => exact hitems c hitem
      · exact absurd hitem List.not_mem_nil
    | null | bool | number | string | array => exact absurd hf List.not_mem_nil
  · exact absurd hc List.not_mem_nil

/-- A node of a known type is rejected for what is wrong with it by itself, and else for the first
node of its content that is. -/
theorem Node.error_of_tag (hsorted : v.Ascending) (honce : v.GivesOnce) {name : String} {tag : Tag}
    (hname : v.typeName? = some name) (htag : Tag.ofName? name = some tag) {e : TemplateError}
    (h : Node.ofJson v = .error e) :
    ∃ cause, e = .inside name cause ∧
      (v.fault? = some cause ∨ v.fault? = none ∧ readNodes v.contentItems = .error cause) := by
  have htype : v.tag? = some tag := by rw [Json.tag?, hname, Option.bind_some, htag]
  have hkeys : v.entries.AreAscending := by
    cases hsorted with
    | object hkeys _ => exact hkeys
    | null | bool | number | string | array => exact List.Pairwise.nil
  have hnew : ∀ slot ∈ takenPlaces tag.slot? v.entries, Payload.has {} slot = false := by
    intro slot _
    cases slot <;> rfl
  rw [Node.ofJson_of_tag hname htag] at h
  cases hread : readPayload tag {} v.entries with
  | ok q =>
    rw [hread] at h
    cases h
  | error cause =>
    rw [hread, Except.error.injEq] at h
    refine ⟨cause, h.symm, ?_⟩
    rw [Json.fault?_of_tag hname htag, Json.contentItems, htype]
    rcases readPayload_eq_error hkeys (honce tag htype) hnew hread with ⟨m, hm, rfl⟩ | ⟨hm, hnodes⟩
    · exact Or.inl (by rw [hm, Option.map_some])
    · exact Or.inr ⟨by rw [hm, Option.map_none], hnodes⟩

/-- **The error of a node** is that of the first malformed node of its outline, in the types that
stand around it. -/
theorem Node.error_of_firstInside? (hsorted : v.Ascending)
    (honce : ∀ w, Reaches v w → w.GivesOnce) {e : TemplateError} (h : Node.ofJson v = .error e) :
    ∃ path w fault, v.firstInside? = some (path, w) ∧ w.fault? = some fault ∧
      e = (path ++ w.typeName?.toList).foldr .inside fault := by
  -- the error is that of the node itself or of one in its content, which is smaller
  induction hsize : sizeOf v using Nat.strongRecOn generalizing v e with
  | ind n ih =>
    have hself : v.GivesOnce := honce v (.refl v)
    cases hname : v.typeName? with
    | none =>
      have hbad : v.isMalformed = true := Json.isMalformed_iff.mpr (.untyped hname)
      obtain ⟨fault, hfault, herror⟩ := Node.ofJson_untyped hname
      rw [h, Except.error.injEq] at herror
      refine ⟨[], v, fault, by rw [Json.firstInside?_eq, if_pos hbad], hfault, ?_⟩
      rw [herror, hname]
      rfl
    | some name =>
      cases htag : Tag.ofName? name with
      | none =>
        -- a node of an unknown type is never rejected
        have hunknown : v.tag? = none := by rw [Json.tag?, hname, Option.bind_some, htag]
        obtain ⟨content, hread⟩ := Node.exists_isRead_unknown hname hunknown
        rw [Node.IsRead, h] at hread
        cases hread
      | some tag =>
        obtain ⟨cause, rfl, hcause⟩ := Node.error_of_tag hsorted hself hname htag h
        have hbad : v.isMalformed = true ↔ ∃ fault, v.fault? = some fault :=
          Json.isMalformed_iff.trans (malformed_iff_fault? hself)
        rcases hcause with hfault | ⟨hnone, hnodes⟩
        · -- one of its own fields is wrong, and no node comes before it
          refine ⟨[], v, cause, ?_, hfault, by rw [hname]; rfl⟩
          rw [Json.firstInside?_eq, if_pos (hbad.mpr ⟨cause, hfault⟩)]
        · have hgood : ¬ v.isMalformed = true := by
            rw [hbad, hnone]
            rintro ⟨_, h⟩
            cases h
          obtain ⟨earlier, c, later, hsplit, hearlier, hc⟩ := readNodes_eq_error hnodes
          have hmem : c ∈ v.contentItems := by
            rw [hsplit]
            exact List.mem_append_right _ List.mem_cons_self
          obtain ⟨path, w, fault, hfirst, hw, rfl⟩ :=
            ih (sizeOf c) (hsize ▸ Json.sizeOf_lt_of_mem_contentItems hmem)
              (hsorted.of_mem_contentItems hmem) (fun w hw => honce w (.content hmem hw)) hc rfl
          -- the items before it are passed over
          have hskip : earlier.findSome? (fun c => c.firstInside?.map fun place =>
              (v.typeName?.toList ++ place.1, place.2)) = none := by
            refine List.findSome?_eq_none_iff.mpr fun b hb => ?_
            obtain ⟨node, hnode⟩ := hearlier b hb
            rw [Json.firstInside?_of_isRead hnode, Option.map_none]
          refine ⟨name :: path, w, fault, ?_, hw, rfl⟩
          rw [Json.firstInside?_eq, if_neg hgood, hsplit, List.findSome?_append, hskip,
            Option.none_or, List.findSome?_cons, hfirst, hname]
          rfl

/-- The types around a node are known: nothing is reached through any other. -/
theorem Json.known_of_mem_outline {path : List String} {w : Json} (h : (path, w) ∈ v.outline) :
    ∀ name ∈ path, ∃ tag, Tag.ofName? name = some tag := by
  induction hsize : sizeOf v using Nat.strongRecOn generalizing v path with
  | ind n ih =>
    rw [outline_eq, List.mem_cons] at h
    rcases h with heq | hmem
    · cases heq
      exact List.forall_mem_nil _
    · obtain ⟨c, hc, hbelow⟩ := List.mem_flatMap.mp hmem
      obtain ⟨⟨path', u⟩, hplace, heq⟩ := List.mem_map.mp hbelow
      cases heq
      refine List.forall_mem_append.mpr ⟨fun name hname => ?_, ?_⟩
      · -- a node with something in its content is of a known type
        unfold Json.contentItems at hc
        split at hc
        · next tag htag =>
          rw [Json.tag?, Option.mem_toList.mp hname, Option.bind_some] at htag
          exact ⟨tag, htag⟩
        · exact absurd hc List.not_mem_nil
      · have hlt := Json.sizeOf_lt_of_mem_contentItems hc
        exact ih (sizeOf c) (hsize ▸ hlt) hplace rfl

/-- A malformed node that names a type names a known one. -/
theorem known_of_malformed (h : Malformed v) :
    ∀ name ∈ v.typeName?, ∃ tag, Tag.ofName? name = some tag := by
  intro name hname
  rcases h with hnone | ⟨htag, -⟩
  · rw [hnone] at hname
    cases hname
  · rw [Json.tag?, Option.mem_def.mp hname, Option.bind_some] at htag
    exact ⟨_, htag⟩

end Nodes

/-! ### The error of a template -/

theorem TemplateError.message_inside (name : String) (e : TemplateError) :
    (TemplateError.inside name e).message = name ++ ": " ++ e.message := rfl

theorem TemplateError.message_element (index : Nat) (e : TemplateError) :
    (TemplateError.element index e).message =
      "content[" ++ toString index ++ "]: " ++ e.message := rfl

/-- An error in nodes of these types says their names before it. -/
theorem TemplateError.message_foldr_inside (names : List String) (e : TemplateError) :
    (names.foldr TemplateError.inside e).message =
      String.join (names.map (· ++ ": ")) ++ e.message := by
  induction names with
  | nil => simp
  | cons name names ih =>
    rw [List.foldr_cons, TemplateError.message_inside, ih, List.map_cons, String.join_cons]
    simp only [String.append_assoc]

/-- The elements of an array are read up to one that cannot be, whose number goes before its
error. -/
theorem readElements_eq_error {items : List Json} {index : Nat} {e : TemplateError}
    (h : readElements index items = .error e) :
    ∃ before c after cause, items = before ++ c :: after ∧
      (∀ b ∈ before, ∃ node, Node.IsRead b node) ∧ Node.ofJson c = .error cause ∧
      e = .element (index + before.length) cause := by
  induction items generalizing index with
  | nil =>
    rw [readElements] at h
    cases h
  | cons c rest ih =>
    rw [readElements] at h
    cases hc : Node.ofJson c with
    | error cause =>
      rw [hc, Except.error.injEq] at h
      exact ⟨[], c, rest, cause, rfl, List.forall_mem_nil _, hc, h.symm⟩
    | ok node =>
      rw [hc] at h
      cases hrest : readElements (index + 1) rest with
      | ok nodes =>
        rw [hrest] at h
        cases h
      | error e' =>
        rw [hrest] at h
        cases h
        obtain ⟨before, d, after, cause, rfl, hbefore, hd, rfl⟩ := ih hrest
        refine ⟨c :: before, d, after, cause, rfl, List.forall_mem_cons.mpr ⟨⟨node, hc⟩, hbefore⟩,
          hd, ?_⟩
        rw [List.length_cons, Nat.add_right_comm, Nat.add_assoc]

/-- How the error of a template begins that is an array of nodes. -/
def Json.rootText (v : Json) (index : Nat) : String :=
  match v with
  | .array _ => "content[" ++ toString index ++ "]: "
  | _ => ""

/-- The types that an error names: those around a node and its own. -/
def Occurrence.types (o : Occurrence) : List String :=
  o.around ++ o.node.typeName?.toList

/-- The first malformed node of a template is that of the first root that has one. -/
theorem Json.firstMalformed?_eq (v : Json) :
    v.firstMalformed? = v.roots.zipIdx.findSome? fun root =>
      root.1.firstInside?.map fun place => ⟨root.2, place.1, place.2⟩ := by
  unfold firstMalformed? firstInside? occurrences
  rw [List.find?_flatMap]
  simp only [List.find?_map]
  rfl

theorem Json.firstMalformed?_of_split {v root : Json} {before after : List Json}
    (hroots : v.roots = before ++ root :: after)
    (hbefore : ∀ b ∈ before, ∃ node, Node.IsRead b node) {path : List String} {w : Json}
    (hfirst : root.firstInside? = some (path, w)) :
    v.firstMalformed? = some ⟨before.length, path, w⟩ := by
  have hskip : before.zipIdx.findSome? (fun root => root.1.firstInside?.map fun place =>
      (⟨root.2, place.1, place.2⟩ : Occurrence)) = none := by
    refine List.findSome?_eq_none_iff.mpr fun b hb => ?_
    obtain ⟨node, hnode⟩ := hbefore b.1 (List.fst_mem_of_mem_zipIdx hb)
    rw [Json.firstInside?_of_isRead hnode, Option.map_none]
  rw [firstMalformed?_eq, hroots, List.zipIdx_append, List.findSome?_append, hskip,
    Option.none_or, List.zipIdx_cons, List.findSome?_cons, hfirst, Nat.zero_add]
  rfl

/-- The places of a template are those in the outlines of its roots. -/
theorem Json.exists_mem_occurrences_iff {v w : Json} :
    (∃ o ∈ v.occurrences, o.node = w) ↔ ∃ root ∈ v.roots, ∃ path, (path, w) ∈ root.outline := by
  constructor
  · rintro ⟨o, ho, rfl⟩
    obtain ⟨⟨root, index⟩, hroot, hplace⟩ := List.mem_flatMap.mp ho
    obtain ⟨⟨path, u⟩, hmem, rfl⟩ := List.mem_map.mp hplace
    exact ⟨root, List.fst_mem_of_mem_zipIdx hroot, path, hmem⟩
  · rintro ⟨root, hroot, path, hmem⟩
    obtain ⟨index, hindex⟩ := List.mem_iff_getElem?.mp hroot
    have hnumbered : (root, index) ∈ v.roots.zipIdx := List.mem_zipIdx_iff_getElem?.mpr hindex
    refine ⟨⟨index, path, w⟩, List.mem_flatMap.mpr ⟨(root, index), hnumbered, ?_⟩, rfl⟩
    exact List.mem_map.mpr ⟨(path, w), hmem, rfl⟩

/-- The roots of an ascending value are ascending. -/
theorem Json.Ascending.of_mem_roots {v root : Json} (h : v.Ascending) (hroot : root ∈ v.roots) :
    root.Ascending := by
  cases h with
  | @array items hitems => exact hitems root hroot
  | null => exact List.mem_singleton.mp hroot ▸ .null
  | bool b => exact List.mem_singleton.mp hroot ▸ .bool b
  | number n => exact List.mem_singleton.mp hroot ▸ .number n
  | string s => exact List.mem_singleton.mp hroot ▸ .string s
  | object hkeys hfields => exact List.mem_singleton.mp hroot ▸ .object hkeys hfields

namespace Template

/-- A template is rejected for the first of its roots that cannot be read. -/
theorem error_of_root {v : Json} {e : TemplateError} (h : Template.ofJson v = .error e) :
    ∃ before root after cause, v.roots = before ++ root :: after ∧
      (∀ b ∈ before, ∃ node, Node.IsRead b node) ∧ Node.ofJson root = .error cause ∧
      e.message = v.rootText before.length ++ cause.message := by
  by_cases harray : ∃ items, v = .array items
  · obtain ⟨items, rfl⟩ := harray
    rw [Template.ofJson] at h
    cases hread : readElements 0 items with
    | ok nodes =>
      rw [hread] at h
      cases h
    | error e' =>
      rw [hread] at h
      cases h
      obtain ⟨before, root, after, cause, hsplit, hbefore, hroot, rfl⟩ :=
        readElements_eq_error hread
      refine ⟨before, root, after, cause, hsplit, hbefore, hroot, ?_⟩
      rw [TemplateError.message_element, Nat.zero_add, Json.rootText]
  · have hother : ∀ items, v ≠ .array items := fun items h => harray ⟨items, h⟩
    rw [ofJson_node hother] at h
    cases hread : Node.ofJson v with
    | ok node =>
      rw [hread] at h
      cases h
    | error cause =>
      rw [hread] at h
      cases h
      have hroots : v.roots = [v] := by
        rw [Json.roots]
        exact hother
      have htext : v.rootText 0 = "" := by
        rw [Json.rootText]
        exact hother
      refine ⟨[], v, [], e, hroots, List.forall_mem_nil _, hread, ?_⟩
      rw [List.length_nil, htext, String.empty_append]

/-- A text that is rejected for the value in it holds one. -/
theorem exists_value_of_ofText {text : String} {e : TemplateError}
    (h : Template.ofText text = .error (some e)) :
    ∃ v, (Draft.ofText text).1.value? depthLimit = some v ∧ Template.ofJson v = .error e := by
  unfold Template.ofText at h
  dsimp only at h
  cases hv : (Draft.ofText text).1.value? depthLimit with
  | none =>
    rw [hv] at h
    cases h
  | some v =>
    rw [hv] at h
    dsimp only at h
    cases hread : Template.ofJson v with
    | ok t =>
      rw [hread] at h
      dsimp only at h
      split at h <;> cases h
    | error e' =>
      rw [hread] at h
      cases h
      exact ⟨v, rfl, hread⟩

/-- **The error of a template.** A value with ascending keys that is rejected, and in which no node
gives a field twice, has a malformed node among those that can be reached from its roots. The text
of the error is made from the first of them in document order: the number of its root if the
template is an array, the types around it and its own if it has one, all of them known and as they
are written, and what is wrong with it by itself. A text that is rejected for the value in it is
rejected with the error of a value with ascending keys. -/
theorem error_at_first_malformed :
    (∀ (v : Json) (e : TemplateError), v.Ascending →
      (∀ root ∈ v.roots, ∀ w, Reaches root w → w.GivesOnce) → Template.ofJson v = .error e →
      ∃ o fault, v.firstMalformed? = some o ∧ o.node.fault? = some fault ∧
        e.message = v.rootText o.root ++ String.join (o.types.map (· ++ ": ")) ++ fault.message ∧
        ∀ name ∈ o.types, ∃ tag, Tag.ofName? name = some tag) ∧
      (∀ v w : Json, (∃ o ∈ v.occurrences, o.node = w) ↔ ∃ root ∈ v.roots, Reaches root w) ∧
      ∀ (text : String) (e : TemplateError), Template.ofText text = .error (some e) →
        ∃ v : Json, v.Ascending ∧ Template.ofJson v = .error e := by
  refine ⟨fun v e hsorted honce h => ?_, fun v w => ?_, fun text e h => ?_⟩
  · obtain ⟨before, root, after, cause, hroots, hbefore, hcause, htext⟩ := error_of_root h
    have hmem : root ∈ v.roots := by
      rw [hroots]
      exact List.mem_append_right _ List.mem_cons_self
    obtain ⟨path, w, fault, hfirst, hfault, rfl⟩ :=
      Node.error_of_firstInside? (hsorted.of_mem_roots hmem) (honce root hmem) hcause
    have hbad : w.isMalformed = true := (List.find?_eq_some_iff_append.mp hfirst).1
    refine ⟨⟨before.length, path, w⟩, fault, Json.firstMalformed?_of_split hroots hbefore hfirst,
      hfault, ?_, List.forall_mem_append.mpr ⟨?_, ?_⟩⟩
    · rw [htext, TemplateError.message_foldr_inside, String.append_assoc]
      rfl
    · exact Json.known_of_mem_outline (List.mem_of_find?_eq_some hfirst)
    · intro name hname
      exact known_of_malformed (Json.isMalformed_iff.mp hbad) name (Option.mem_toList.mp hname)
  · simp only [Json.exists_mem_occurrences_iff, Json.exists_mem_outline_iff]
  · obtain ⟨v, hv, hread⟩ := exists_value_of_ofText h
    exact ⟨v, Json.Draft.ascending_of_value? _ hv, hread⟩

/-- A level that is out of range, in the second of two roots. The heading stands in a quotation, and
what is wrong in its content comes after its level. -/
theorem error_at_first_malformed_level :
    let heading : Json :=
      .object [("attrs", .object [("level", .number (.integer 300))]),
        ("content", .array [.null]), ("type", .string "heading")]
    let v : Json :=
      .array [.object [("text", .string "a"), ("type", .string "text")],
        .object [("content", .array [heading]), ("type", .string "blockquote")]]
    let text := "content[1]: blockquote: heading: invalid value: integer `300`, expected u8"
    v.Ascending ∧ (∀ root ∈ v.roots, ∀ w, Reaches root w → w.GivesOnce) ∧
      (∃ e, Template.ofJson v = .error e ∧ e.message = text) ∧
      ∃ o fault, v.firstMalformed? = some o ∧ o.node.fault? = some fault ∧
        text = v.rootText o.root ++ String.join (o.types.map (· ++ ": ")) ++ fault.message ∧
        ∀ name ∈ o.types, ∃ tag, Tag.ofName? name = some tag := by
  intro heading v text
  have hheading : heading.Ascending := by
    refine .object (by decide) ?_
    simp only [List.forall_mem_cons]
    refine ⟨.object (by decide) ?_, .array ?_, .string _, List.forall_mem_nil _⟩
    · exact List.forall_mem_singleton.mpr (.number _)
    · exact List.forall_mem_singleton.mpr .null
  have hsorted : v.Ascending := by
    refine .array ?_
    simp only [List.forall_mem_cons]
    refine ⟨.object (by decide) ?_, .object (by decide) ?_, List.forall_mem_nil _⟩
    · simp only [List.forall_mem_cons]
      exact ⟨.string _, .string _, List.forall_mem_nil _⟩
    · simp only [List.forall_mem_cons]
      exact ⟨.array (List.forall_mem_singleton.mpr hheading), .string _, List.forall_mem_nil _⟩
  have honce : ∀ root ∈ v.roots, ∀ w, Reaches root w → w.GivesOnce := by
    refine List.forall_mem_cons.mpr ⟨?_, List.forall_mem_singleton.mpr ?_⟩
    · exact Json.givesOnce_below (.of_tag (by rfl) (by decide)) (List.forall_mem_nil _)
    · refine Json.givesOnce_below (.of_tag (by rfl) (by decide)) ?_
      refine List.forall_mem_singleton.mpr (Json.givesOnce_below (.of_tag (by rfl) (by decide)) ?_)
      refine List.forall_mem_singleton.mpr (Json.givesOnce_below ?_ (List.forall_mem_nil _))
      exact fun tag htag => nomatch htag
  have hread : Template.ofJson v = .error (.element 1 (.inside "blockquote" (.inside "heading"
      (.payload (.outOfRange 300 (.natural 8)))))) := by rfl
  have htext : TemplateError.message (.element 1 (.inside "blockquote" (.inside "heading"
      (.payload (.outOfRange 300 (.natural 8)))))) = text := by decide +kernel
  refine ⟨hsorted, honce, ⟨_, hread, htext⟩, ?_⟩
  rw [← htext]
  exact error_at_first_malformed.1 v _ hsorted honce hread

end Template

end Letterhead
