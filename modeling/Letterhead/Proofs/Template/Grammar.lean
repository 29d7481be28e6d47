import Letterhead.Proofs.Template.Fields

/-!
# The grammar of templates

A value is a template unless something is wrong with a node that counts: one that can be reached
from the root through the content of known containers. What stands anywhere else, such as below a
node of an unknown type, cannot spoil a template.

* `Tag.FieldsFit`, `Malformed` — what can be wrong with a node by itself;
* `Json.contentItems`, `Reaches` — what counts below a node;
* `Node.exists_ofJson` — the values that are nodes;
* `Node.forall₂_children` — a node of a known type has a child for each item of its content;
* `Template.accepts_grammar` — the values that are templates, and what they keep.
-/

namespace Letterhead

open Json

/-! ### What a node holds -/

/-- The attributes of a type with the shapes of their values. -/
def Tag.attributeTable : Tag → Table Json
  | .paragraph => [("textAlign", OrNull IsText)]
  | .heading => [("level", OrNull (IsNatural 8)), ("textAlign", OrNull IsText)]
  | .orderedList => [("start", OrNull (IsNatural 32))]
  | .variable => [("id", OrNull IsText), ("label", OrNull IsText)]
  | .dynamicBlock => [("blockType", OrNull IsText), ("config", OrNull IsObject)]
  | .document | .text | .bulletList | .listItem | .blockquote | .horizontalRule | .hardBreak => []

/-- A mark: an object with a text as its type, or an array of that text alone. -/
inductive IsMark : Json → Prop
  | object {fields : Fields} {tag : String} (h : field? "type" fields = some (.string tag)) :
      IsMark (.object fields)
  | array (tag : String) : IsMark (.array [.string tag])

/-- What may stand in a field of a node by itself. Of a content this says only that it is a list. -/
def Slot.Fits (tag : Tag) : Slot → Json → Prop
  | .content => OrNull (IsListOf fun _ => True)
  | .attributes => OrNull (RecordFits tag.attributeTable)
  | .text => OrNull IsText
  | .marks => OrNull (IsListOf IsMark)

/-- An object has the fields of a type each at most once, in whichever spelling, and with what may
stand in them. -/
def Tag.FieldsFit (tag : Tag) (fields : Fields) : Prop :=
  KeyedFit tag.slot? (·.Fits tag) fields

/-- The items of a field that are nodes: those of the content. -/
def Slot.items : Slot → Json → List Json
  | .content, .array items => items
  | _, _ => []

theorem Slot.items_of_ne {slot : Slot} (h : slot ≠ .content) (v : Json) : slot.items v = [] := by
  cases slot <;> first | rfl | exact absurd rfl h

/-- The items of the content that an object gives for a type. -/
def Tag.contentItems (tag : Tag) (fields : Fields) : List Json :=
  fields.flatMap fun f =>
    match tag.slot? f.1 with
    | some slot => slot.items f.2
    | none => []

namespace Json

/-- The fields of an object. -/
def entries : Json → Fields
  | .object fields => fields
  | _ => []

/-- The type that an object names. -/
def typeName? (v : Json) : Option String :=
  (v.field? "type").bind Json.text?

/-- The known type that an object names. -/
def tag? (v : Json) : Option Tag :=
  v.typeName?.bind Tag.ofName?

/-- The items of the content of a node of a known type. -/
def contentItems (v : Json) : List Json :=
  match v.tag? with
  | some tag => tag.contentItems v.entries
  | none => []

end Json

/-- What can be wrong with a node by itself: it is no object that names a type, or it is of a known
type and its own fields do not fit. -/
inductive Malformed (v : Json) : Prop
  | untyped (h : v.typeName? = none)
  | payload {tag : Tag} (htag : v.tag? = some tag) (h : ¬ tag.FieldsFit v.entries)

/-- Whether a value can be reached from another through the content of known types. -/
inductive Reaches : Json → Json → Prop
  | refl (v : Json) : Reaches v v
  | content {v c w : Json} (hc : c ∈ v.contentItems) (h : Reaches c w) : Reaches v w

/-- What is a node on the top level: the items of an array, and otherwise the value itself. -/
def Json.roots : Json → List Json
  | .array items => items
  | v => [v]

/-! ### Attributes and marks -/

/-- A field that stores what it reads, or `null`. -/
theorem takes_optional {α β : Type} {read : Json → Except Mismatch β} {shape : Json → Prop}
    (h : ∀ v, (∃ x, read v = .ok x) ↔ shape v) (name : String) (store : α → Option β → α) :
    Field.Takes ⟨name, fun v a => do return store a (← readOptional read v)⟩
      (name, OrNull shape) where
  name := rfl
  read v a := by
    rw [exists_bind_pure_ok]
    exact exists_readOptional h v

theorem exists_readConfig (v : Json) : (∃ c, readConfig v = .ok c) ↔ IsObject v := by
  unfold readConfig
  cases v with
  | object fields => exact ⟨fun _ => ⟨fields, rfl⟩, fun _ => ⟨⟨fields⟩, rfl⟩⟩
  | null | bool | number | string | array =>
    exact iff_of_false (not_exists_ok _) fun ⟨_, h⟩ => nomatch h

open Attributes in
/-- The readers of a type's attributes take the shapes of its table. -/
theorem Tag.takes_attributes {tag : Tag} {name : String} {readers : List Reader}
    (h : tag.attributes? = some (name, readers)) :
    List.Forall₂ Field.Takes readers tag.attributeTable := by
  have halign : alignField.Takes ("textAlign", OrNull IsText) := takes_optional exists_readText _ _
  have hlevel : levelField.Takes ("level", OrNull (IsNatural 8)) :=
    takes_optional (exists_readNatural 8) _ _
  have hstart : startField.Takes ("start", OrNull (IsNatural 32)) :=
    takes_optional (exists_readNatural 32) _ _
  have hid : idField.Takes ("id", OrNull IsText) := takes_optional exists_readText _ _
  have hlabel : labelField.Takes ("label", OrNull IsText) := takes_optional exists_readText _ _
  have htype : blockTypeField.Takes ("blockType", OrNull IsText) :=
    takes_optional exists_readText _ _
  have hconfig : configField.Takes ("config", OrNull IsObject) :=
    takes_optional exists_readConfig _ _
  -- only five types have attributes
  cases tag <;> cases h
  · exact .cons halign .nil
  · exact .cons hlevel (.cons halign .nil)
  · exact .cons hstart .nil
  · exact .cons hid (.cons hlabel .nil)
  · exact .cons htype (.cons hconfig .nil)

theorem exists_readTag (v : Json) : (∃ m, readTag v = .ok m) ↔ IsText v := by
  unfold readTag
  cases v with
  | string s => exact ⟨fun _ => ⟨s, rfl⟩, fun _ => ⟨Mark.ofTag s, rfl⟩⟩
  | null | bool | number | array | object =>
    exact iff_of_false (not_exists_ok _) fun ⟨_, h⟩ => nomatch h

theorem exists_readMark (v : Json) : (∃ m, readMark v = .ok m) ↔ IsMark v := by
  unfold readMark
  cases v with
  | object fields =>
    have hmark : IsMark (.object fields) ↔ ∃ tag, field? "type" fields = some (.string tag) :=
      ⟨fun h => by cases h; exact ⟨_, ‹_›⟩, fun ⟨_, h⟩ => .object h⟩
    rw [hmark]
    dsimp only
    cases field? "type" fields with
    | none => exact iff_of_false (not_exists_ok _) fun ⟨_, h⟩ => nomatch h
    | some tag =>
      simp only [Option.some.injEq]
      exact exists_readTag tag
  | array items =>
    match items with
    | [] => exact iff_of_false (not_exists_ok _) fun h => nomatch h
    | [.string s] => exact ⟨fun _ => .array s, fun _ => ⟨Mark.ofTag s, rfl⟩⟩
    | .string s :: _ :: _ => exact iff_of_false (not_exists_ok _) fun h => nomatch h
    | .null :: _ | .bool _ :: _ | .number _ :: _ | .array _ :: _ | .object _ :: _ =>
      exact iff_of_false (not_exists_ok _) fun h => nomatch h
  | null | bool | number | string =>
    exact iff_of_false (not_exists_ok _) fun h => nomatch h

/-! ### Contents -/

/-- The node that is read from a value. -/
def Node.IsRead (v : Json) (node : Node) : Prop :=
  Node.ofJson v = .ok node

/-- Nodes are read item by item. -/
theorem readNodes_eq_ok {items : List Json} {nodes : List Node} :
    readNodes items = .ok nodes ↔ List.Forall₂ Node.IsRead items nodes := by
  induction items generalizing nodes with
  | nil =>
    rw [readNodes, List.forall₂_nil_left_iff, Except.ok.injEq]
    exact eq_comm
  | cons v rest ih =>
    rw [readNodes, List.forall₂_cons_left_iff]
    unfold Node.IsRead
    cases Node.ofJson v with
    | error e => exact iff_of_false (fun h => nomatch h) fun ⟨_, _, h, _⟩ => nomatch h
    | ok node =>
      cases hrest : readNodes rest with
      | error e =>
        refine iff_of_false (fun h => nomatch h) fun ⟨_, nodes', _, h, _⟩ => ?_
        have hnodes : readNodes rest = .ok nodes' := ih.mpr h
        rw [hrest] at hnodes
        cases hnodes
      | ok nodes' =>
        constructor
        · rintro h
          exact ⟨node, nodes', rfl, ih.mp hrest, (Except.ok.inj h).symm⟩
        · rintro ⟨_, nodes'', h, hforall, rfl⟩
          have hnodes : readNodes rest = .ok nodes'' := ih.mpr hforall
          rw [hrest, Except.ok.injEq] at hnodes
          rw [Except.ok.inj h, hnodes]

theorem exists_readNodes {items : List Json} :
    (∃ nodes, readNodes items = .ok nodes) ↔ ∀ v ∈ items, ∃ node, Node.IsRead v node := by
  induction items with
  | nil =>
    rw [readNodes]
    exact ⟨fun _ => List.forall_mem_nil _, fun _ => ⟨[], rfl⟩⟩
  | cons v rest ih =>
    rw [List.forall_mem_cons, ← ih, readNodes]
    unfold Node.IsRead
    cases Node.ofJson v with
    | error e => exact iff_of_false (not_exists_ok _) fun h => not_exists_ok _ h.1
    | ok node =>
      rw [and_iff_right ⟨node, rfl⟩]
      cases readNodes rest with
      | error e => exact iff_of_false (not_exists_ok _) (not_exists_ok _)
      | ok nodes => exact ⟨fun _ => ⟨nodes, rfl⟩, fun _ => ⟨node :: nodes, rfl⟩⟩

/-- A content is read exactly if it is a list all of whose items are. -/
theorem exists_readContent {tag : Tag} {v : Json} :
    (∃ nodes, readContent v = .ok nodes) ↔
      Slot.content.Fits tag v ∧ ∀ c ∈ Slot.content.items v, ∃ node, Node.IsRead c node := by
  cases v with
  | null =>
    rw [readContent]
    exact ⟨fun _ => ⟨Or.inl rfl, List.forall_mem_nil _⟩, fun _ => ⟨[], rfl⟩⟩
  | array items =>
    rw [readContent, exists_readNodes, Slot.items, and_iff_right]
    exact Or.inr ⟨items, rfl, fun _ _ => trivial⟩
  | bool | number | string | object =>
    rw [readContent]
    refine iff_of_false (not_exists_ok _) fun h => ?_
    rcases h.1 with hnull | ⟨_, hlist, _⟩
    · cases hnull
    · cases hlist

theorem forall₂_of_readContent {v : Json} {nodes : List Node} (h : readContent v = .ok nodes) :
    List.Forall₂ Node.IsRead (Slot.content.items v) nodes := by
  cases v with
  | null =>
    rw [readContent, Except.ok.injEq] at h
    rw [← h]
    exact .nil
  | array items =>
    rw [readContent] at h
    exact readNodes_eq_ok.mp h
  | bool | number | string | object =>
    rw [readContent] at h
    cases h

/-! ### Fields -/

/-- A field can be read exactly if it fits and all nodes in it can be read. -/
theorem Tag.exists_readValue {tag : Tag} {slot : Slot} (hslot : slot ∈ tag.slots) (v : Json) :
    (∃ x, tag.readValue slot v = .ok x) ↔
      slot.Fits tag v ∧ ∀ c ∈ slot.items v, ∃ node, Node.IsRead c node := by
  unfold readValue
  cases slot with
  | content =>
    rw [exists_map_ok]
    exact exists_readContent
  | attributes =>
    obtain ⟨name, readers, hreaders⟩ := Tag.attributes?_of_mem_slots hslot
    rw [hreaders, and_iff_left (by exact List.forall_mem_nil _)]
    dsimp only
    rw [exists_mapError_ok, exists_map_ok]
    unfold readAttributes
    rw [exists_bind_pure_ok]
    exact exists_readOptional (exists_readRecord (Tag.takes_attributes hreaders) {}) v
  | text =>
    rw [and_iff_left (by exact List.forall_mem_nil _)]
    dsimp only
    rw [exists_mapError_ok, exists_map_ok]
    exact exists_readOptional exists_readText v
  | marks =>
    rw [and_iff_left (by exact List.forall_mem_nil _)]
    dsimp only
    rw [exists_mapError_ok, exists_map_ok]
    exact exists_readOptional (exists_readList exists_readMark) v

/-- What is read has a node for each of the items. -/
theorem Tag.forall₂_of_readValue {tag : Tag} {slot : Slot} {v : Json} {x : SlotValue}
    (h : tag.readValue slot v = .ok x) : List.Forall₂ Node.IsRead (slot.items v) x.nodes := by
  by_cases hcontent : slot = .content
  · subst hcontent
    obtain ⟨nodes, hread, rfl⟩ := map_eq_ok.mp h
    exact forall₂_of_readContent hread
  · have hslot : x.slot ≠ .content := by
      rw [Tag.slot_of_readValue h]
      exact hcontent
    rw [Slot.items_of_ne hcontent, SlotValue.nodes_of_ne hslot]
    exact .nil

theorem Tag.contentItems_cons_none {tag : Tag} {key : String} (h : tag.slot? key = none) (v : Json)
    (rest : Fields) : tag.contentItems ((key, v) :: rest) = tag.contentItems rest := by
  unfold contentItems
  rw [List.flatMap_cons, h, List.nil_append]

theorem Tag.contentItems_cons_some {tag : Tag} {key : String} {slot : Slot}
    (h : tag.slot? key = some slot) (v : Json) (rest : Fields) :
    tag.contentItems ((key, v) :: rest) = slot.items v ++ tag.contentItems rest := by
  unfold contentItems
  rw [List.flatMap_cons, h]

theorem Tag.mem_contentItems {tag : Tag} {fields : Fields} {c : Json} :
    c ∈ tag.contentItems fields ↔
      ∃ f ∈ fields, ∃ slot, tag.slot? f.1 = some slot ∧ c ∈ slot.items f.2 := by
  unfold contentItems
  rw [List.mem_flatMap]
  refine exists_congr fun f => and_congr_right fun _ => ?_
  cases tag.slot? f.1 with
  | none => exact iff_of_false List.not_mem_nil fun ⟨_, h, _⟩ => nomatch h
  | some slot => simp only [Option.some.injEq, exists_eq_left']

/-- Fields can be read together exactly if they fit and all nodes in the content can be read. -/
theorem Tag.readable_iff {tag : Tag} {fields : Fields} :
    tag.Readable fields ↔
      tag.FieldsFit fields ∧ ∀ c ∈ tag.contentItems fields, ∃ node, Node.IsRead c node := by
  unfold Tag.Readable Tag.FieldsFit
  constructor
  · rintro ⟨honce, hread⟩
    have hboth : ∀ f ∈ fields, ∀ slot, tag.slot? f.1 = some slot →
        slot.Fits tag f.2 ∧ ∀ c ∈ slot.items f.2, ∃ node, Node.IsRead c node := by
      intro f hf slot hslot
      rw [← Tag.exists_readValue (Tag.mem_slots_of_slot? hslot)]
      exact hread f hf slot hslot
    refine ⟨⟨honce, fun f hf slot hslot => (hboth f hf slot hslot).1⟩, fun c hc => ?_⟩
    obtain ⟨f, hf, slot, hslot, hc⟩ := Tag.mem_contentItems.mp hc
    exact (hboth f hf slot hslot).2 c hc
  · rintro ⟨⟨honce, hfits⟩, hitems⟩
    refine ⟨honce, fun f hf slot hslot => ?_⟩
    rw [Tag.exists_readValue (Tag.mem_slots_of_slot? hslot)]
    exact ⟨hfits f hf slot hslot,
      fun c hc => hitems c (Tag.mem_contentItems.mpr ⟨f, hf, slot, hslot, hc⟩)⟩

/-- The content that is read has a node for each of its items, after those there were. -/
theorem content_of_readPayload {tag : Tag} {fields : Fields} {p q : Payload}
    (h : readPayload tag p fields = .ok q) :
    ∃ nodes, List.Forall₂ Node.IsRead (tag.contentItems fields) nodes ∧
      q.content.getD [] = p.content.getD [] ++ nodes := by
  induction fields generalizing p with
  | nil =>
    rw [readPayload_nil, Except.ok.injEq] at h
    exact ⟨[], .nil, by rw [h, List.append_nil]⟩
  | cons f rest ih =>
    obtain ⟨key, v⟩ := f
    cases hslot : tag.slot? key with
    | none =>
      rw [readPayload_cons_none hslot] at h
      rw [Tag.contentItems_cons_none hslot]
      exact ih h
    | some slot =>
      obtain ⟨hnew, x, hx, hrest⟩ := (readPayload_cons_eq_ok hslot).mp h
      have hput : (p.put x).content.getD [] = p.content.getD [] ++ x.nodes := by
        refine p.content_put ?_
        rw [Tag.slot_of_readValue hx]
        exact hnew
      obtain ⟨later, hlater, hall⟩ := ih hrest
      rw [Tag.contentItems_cons_some hslot]
      refine ⟨x.nodes ++ later, List.rel_append (Tag.forall₂_of_readValue hx) hlater, ?_⟩
      rw [hall, hput, List.append_assoc]

/-! ### Nodes -/

/-- Only an object names a type, in its field of that name. -/
theorem Json.of_typeName? {v : Json} {name : String} (h : v.typeName? = some name) :
    ∃ fields, v = .object fields ∧ Letterhead.field? "type" fields = some (.string name) := by
  unfold typeName? at h
  cases v with
  | object fields =>
    obtain ⟨w, hw, hname⟩ := Option.bind_eq_some_iff.mp h
    refine ⟨fields, rfl, hw.trans ?_⟩
    cases w with
    | string s => rw [Option.some.inj hname]
    | null | bool | number | array | object => cases hname
  | null | bool | number | string | array => cases h

theorem Node.ofJson_of_untyped {v : Json} (h : v.typeName? = none) (node : Node) :
    ¬ Node.IsRead v node := by
  unfold Node.IsRead
  intro hread
  cases v with
  | object fields =>
    rw [Node.ofJson] at hread
    split at hread
    · next name hfield =>
      have hname : (Json.object fields).typeName? = some name := by
        rw [Json.typeName?, Json.field?, hfield]
        rfl
      rw [h] at hname
      cases hname
    · cases hread
  | null | bool | number | string | array =>
    rw [Node.ofJson] at hread
    cases hread

/-- A node of a known type is what its fields give. -/
theorem Node.isRead_iff_of_tag {v : Json} {tag : Tag} (htag : v.tag? = some tag) {node : Node} :
    Node.IsRead v node ↔ ∃ q, readPayload tag {} v.entries = .ok q ∧ tag.node q = node := by
  obtain ⟨name, hname, hnamed⟩ := Option.bind_eq_some_iff.mp htag
  obtain ⟨fields, rfl, hfield⟩ := Json.of_typeName? hname
  unfold Node.IsRead
  rw [Node.ofJson, hfield, Json.entries]
  dsimp only
  rw [hnamed]
  dsimp only
  cases readPayload tag {} fields with
  | error e =>
    constructor
    · intro h
      cases h
    · rintro ⟨_, h, _⟩
      cases h
  | ok q => simp only [Except.ok.injEq, exists_eq_left']

/-- Every object of an unknown type is a wrapper. -/
theorem Node.exists_isRead_unknown {v : Json} {name : String} (hname : v.typeName? = some name)
    (htag : v.tag? = none) : ∃ content, Node.IsRead v (.unknown name content) := by
  obtain ⟨fields, rfl, hfield⟩ := Json.of_typeName? hname
  have hunknown : Tag.ofName? name = none := by
    rw [Json.tag?, hname, Option.bind_some] at htag
    exact htag
  exact ⟨_, Node.ofJson_wrapper hfield hunknown⟩

/-- Of a known type a node is well formed if its fields fit. -/
theorem not_malformed_iff_of_tag {v : Json} {tag : Tag} (htag : v.tag? = some tag) :
    ¬ Malformed v ↔ tag.FieldsFit v.entries := by
  constructor
  · intro hwell
    by_contra hbad
    exact hwell (.payload htag hbad)
  · rintro hfit (hbad | ⟨htag', hbad⟩)
    · rw [Json.tag?, hbad] at htag
      cases htag
    · rw [htag, Option.some.injEq] at htag'
      exact hbad (htag' ▸ hfit)

/-- Of an unknown type it is well formed, whatever it holds. -/
theorem not_malformed_of_unknown {v : Json} (hname : v.typeName? ≠ none) (htag : v.tag? = none) :
    ¬ Malformed v := by
  rintro (hbad | ⟨htag', -⟩)
  · exact hname hbad
  · rw [htag] at htag'
    cases htag'

/-- A value is a node exactly if nothing is wrong with it by itself and the items of its content are
nodes. -/
theorem Node.exists_isRead_iff (v : Json) :
    (∃ node, Node.IsRead v node) ↔
      ¬ Malformed v ∧ ∀ c ∈ v.contentItems, ∃ node, Node.IsRead c node := by
  cases htag : v.tag? with
  | some tag =>
    have hpayload : (∃ node, Node.IsRead v node) ↔ ∃ q, readPayload tag {} v.entries = .ok q := by
      simp only [Node.isRead_iff_of_tag htag]
      exact ⟨fun ⟨_, q, hq, _⟩ => ⟨q, hq⟩, fun ⟨q, hq⟩ => ⟨_, q, hq, rfl⟩⟩
    rw [hpayload, exists_readPayload, Tag.readable_iff, not_malformed_iff_of_tag htag,
      Json.contentItems, htag]
  | none =>
    -- without a known type, all that counts is whether there is a type
    cases hname : v.typeName? with
    | none =>
      constructor
      · rintro ⟨node, hnode⟩
        exact absurd hnode (Node.ofJson_of_untyped hname node)
      · rintro ⟨hwell, -⟩
        exact absurd (.untyped hname) hwell
    | some name =>
      have hsome : v.typeName? ≠ none := by
        rw [hname]
        exact Option.some_ne_none name
      obtain ⟨content, hread⟩ := Node.exists_isRead_unknown hname htag
      refine ⟨fun _ => ⟨not_malformed_of_unknown hsome htag, ?_⟩, fun _ => ⟨_, hread⟩⟩
      rw [Json.contentItems, htag]
      exact List.forall_mem_nil _

theorem Slot.sizeOf_lt_of_mem_items {slot : Slot} {v c : Json} (h : c ∈ slot.items v) :
    sizeOf c < sizeOf v := by
  unfold items at h
  split at h
  · have hmem := List.sizeOf_lt_of_mem h
    rw [Json.array.sizeOf_spec]
    omega
  · exact absurd h List.not_mem_nil

/-- The items of a content are smaller than the object. -/
theorem Tag.sizeOf_lt_of_mem_contentItems {tag : Tag} {fields : Fields} {c : Json}
    (h : c ∈ tag.contentItems fields) : sizeOf c < sizeOf (Json.object fields) := by
  obtain ⟨⟨key, w⟩, hf, hc⟩ := List.mem_flatMap.mp h
  have hfield := List.sizeOf_lt_of_mem hf
  have hitem : sizeOf c < sizeOf w := by
    split at hc
    · exact Slot.sizeOf_lt_of_mem_items hc
    · exact absurd hc List.not_mem_nil
  rw [Prod.mk.sizeOf_spec] at hfield
  rw [Json.object.sizeOf_spec]
  omega

/-- The items of a content are smaller than the value. -/
theorem Json.sizeOf_lt_of_mem_contentItems {v c : Json} (h : c ∈ v.contentItems) :
    sizeOf c < sizeOf v := by
  unfold contentItems at h
  split at h
  · next tag htag =>
    obtain ⟨name, hname, -⟩ := Option.bind_eq_some_iff.mp htag
    obtain ⟨fields, rfl, -⟩ := Json.of_typeName? hname
    exact Tag.sizeOf_lt_of_mem_contentItems h
  · exact absurd h List.not_mem_nil

/-- **The values that are nodes** are those from which no malformed one can be reached. -/
theorem Node.exists_ofJson (v : Json) :
    (∃ node, Node.IsRead v node) ↔ ∀ w, Reaches v w → ¬ Malformed w := by
  constructor
  · rintro hread w hw
    induction hw with
    | refl v => exact ((Node.exists_isRead_iff v).mp hread).1
    | @content v c w hc _ ih => exact ih (((Node.exists_isRead_iff v).mp hread).2 c hc)
  · -- below a value are only smaller ones
    induction hsize : sizeOf v using Nat.strongRecOn generalizing v with
    | ind n ih =>
      intro h
      rw [Node.exists_isRead_iff]
      refine ⟨h v (.refl v), fun c hc => ?_⟩
      have hlt := Json.sizeOf_lt_of_mem_contentItems hc
      exact ih (sizeOf c) (hsize ▸ hlt) c rfl fun w hw => h w (.content hc hw)

/-- The content is the children, and a type without one has none. -/
theorem Tag.children_node (tag : Tag) (q : Payload) :
    (tag.node q).children = if .content ∈ tag.slots then q.content.getD [] else [] := by
  cases tag <;> rfl

theorem Tag.contentItems_of_leaf {tag : Tag} (h : .content ∉ tag.slots) (fields : Fields) :
    tag.contentItems fields = [] := by
  induction fields with
  | nil => rfl
  | cons f rest ih =>
    obtain ⟨key, v⟩ := f
    cases hslot : tag.slot? key with
    | none => rw [contentItems_cons_none hslot, ih]
    | some slot =>
      have hne : slot ≠ .content := fun heq => h (heq ▸ mem_slots_of_slot? hslot)
      rw [contentItems_cons_some hslot, ih, Slot.items_of_ne hne, List.append_nil]

theorem Json.contentItems_of_leaf {v : Json} (h : ∀ tag ∈ v.tag?, .content ∉ tag.slots) :
    v.contentItems = [] := by
  unfold contentItems
  split
  · next tag htag => exact Tag.contentItems_of_leaf (h tag htag) _
  · rfl

/-- A node of a known type keeps its children: one for each item of its content, in order. -/
theorem Node.forall₂_children {v : Json} {node : Node} {tag : Tag} (hread : Node.IsRead v node)
    (htag : v.tag? = some tag) : List.Forall₂ Node.IsRead v.contentItems node.children := by
  have hitems : v.contentItems = tag.contentItems v.entries := by rw [Json.contentItems, htag]
  obtain ⟨q, hq, rfl⟩ := (Node.isRead_iff_of_tag htag).mp hread
  obtain ⟨nodes, hnodes, hcontent⟩ := content_of_readPayload hq
  rw [hitems, Tag.children_node]
  by_cases hleaf : .content ∈ tag.slots
  · rw [if_pos hleaf, hcontent]
    exact hnodes
  · rw [if_neg hleaf, Tag.contentItems_of_leaf hleaf]
    exact .nil

/-- A node is a document exactly if it is of that type. -/
theorem Node.tag?_eq_document_iff {v : Json} {node : Node} (hread : Node.IsRead v node) :
    v.tag? = some .document ↔ ∃ content, node = .document content := by
  cases htag : v.tag? with
  | some tag =>
    obtain ⟨q, -, rfl⟩ := (Node.isRead_iff_of_tag htag).mp hread
    cases tag <;> simp [Tag.node]
  | none =>
    cases hname : v.typeName? with
    | none => exact absurd hread (Node.ofJson_of_untyped hname node)
    | some name =>
      obtain ⟨content, hunknown⟩ := Node.exists_isRead_unknown hname htag
      have hnode : node = .unknown name content := Except.ok.inj (hread.symm.trans hunknown)
      rw [hnode]
      exact iff_of_false (fun h => nomatch h) fun ⟨_, h⟩ => nomatch h

/-! ### Templates -/

/-- What are the nodes of a template: the items of an array, those of the content of a document,
and any other value itself. -/
def Json.nodes : Json → List Json
  | .array items => items
  | v => if v.tag? = some .document then v.contentItems else [v]

/-- The nodes of an array are read as those of a content, but for where errors are reported. -/
theorem readElements_eq_ok {items : List Json} {index : Nat} {nodes : List Node} :
    readElements index items = .ok nodes ↔ readNodes items = .ok nodes := by
  induction items generalizing index nodes with
  | nil => rw [readElements, readNodes]
  | cons v rest ih =>
    rw [readElements, readNodes]
    cases Node.ofJson v with
    | error e => exact iff_of_false (fun h => nomatch h) fun h => nomatch h
    | ok node =>
      cases he : readElements (index + 1) rest with
      | ok nodes' =>
        rw [ih.mp he]
        exact Iff.rfl
      | error e =>
        cases hn : readNodes rest with
        | ok nodes' =>
          rw [ih.mpr hn] at he
          cases he
        | error e' => exact iff_of_false (fun h => nomatch h) fun h => nomatch h

namespace Template

/-- The nodes of an array are those of the template. -/
theorem ofJson_array_eq_ok {items : List Json} {t : Template} :
    Template.ofJson (.array items) = .ok t ↔ List.Forall₂ Node.IsRead items t.content := by
  rw [Template.ofJson, ← readNodes_eq_ok, ← @readElements_eq_ok items 0]
  cases readElements 0 items with
  | error e => exact iff_of_false (fun h => nomatch h) fun h => nomatch h
  | ok nodes =>
    obtain ⟨content⟩ := t
    constructor
    · intro h
      cases h
      rfl
    · intro h
      cases h
      rfl

/-- Any other value is a template if it is a node, which is taken for its content if it is a
document. -/
theorem ofJson_node {v : Json} (h : ∀ items, v ≠ .array items) :
    Template.ofJson v = (Node.ofJson v).map fun
      | .document content => ⟨content⟩
      | node => ⟨[node]⟩ := by
  cases v with
  | array items => exact absurd rfl (h items)
  | null | bool | number | string | object =>
    rw [Template.ofJson]
    · split
      · next heq => rw [heq]; rfl
      · next node hnode heq =>
        rw [heq]
        cases node <;> first | rfl | exact absurd rfl (hnode _)
      · next heq => rw [heq]; rfl
    · exact h

/-- A template is an array of nodes, or a node. -/
theorem exists_ofJson (v : Json) :
    (∃ t, Template.ofJson v = .ok t) ↔ ∀ root ∈ v.roots, ∃ node, Node.IsRead root node := by
  by_cases harray : ∃ items, v = .array items
  · obtain ⟨items, rfl⟩ := harray
    rw [Json.roots, ← exists_readNodes]
    constructor
    · rintro ⟨t, ht⟩
      exact ⟨t.content, readNodes_eq_ok.mpr (ofJson_array_eq_ok.mp ht)⟩
    · rintro ⟨nodes, hnodes⟩
      exact ⟨⟨nodes⟩, ofJson_array_eq_ok.mpr (readNodes_eq_ok.mp hnodes)⟩
  · have hother : ∀ items, v ≠ .array items := fun items h => harray ⟨items, h⟩
    rw [ofJson_node hother, exists_map_ok, Json.roots, List.forall_mem_singleton]
    · rfl
    · exact hother

/-- The nodes of a template that is read. -/
theorem forall₂_nodes {v : Json} {t : Template} (h : Template.ofJson v = .ok t) :
    List.Forall₂ Node.IsRead v.nodes t.content := by
  by_cases harray : ∃ items, v = .array items
  · obtain ⟨items, rfl⟩ := harray
    exact ofJson_array_eq_ok.mp h
  · have hother : ∀ items, v ≠ .array items := fun items h => harray ⟨items, h⟩
    rw [ofJson_node hother] at h
    cases hread : Node.ofJson v with
    | error e =>
      rw [hread] at h
      cases h
    | ok node =>
      rw [hread] at h
      have hdocument := Node.tag?_eq_document_iff hread
      rw [Json.nodes]
      · by_cases htag : v.tag? = some .document
        · obtain ⟨content, rfl⟩ := hdocument.mp htag
          cases h
          rw [if_pos htag]
          exact Node.forall₂_children hread htag
        · have hcontent : t.content = [node] := by
            cases node with
            | document content => exact absurd (hdocument.mpr ⟨content, rfl⟩) htag
            | _ =>
              cases h
              rfl
          rw [if_neg htag, hcontent]
          exact .cons hread .nil
      · exact hother

/-- **The grammar.** A value is a template exactly if it is an array or an object and no malformed
node can be reached from its roots. The template has a node for each value it stands for, and each
node of a known type a child for each item of its content, in order. Of a node whose type has no
content nothing but itself can be reached; and if it is of an unknown type, a rule or a line break,
it is well formed, whatever it holds. -/
theorem accepts_grammar (v : Json) :
    ((∃ t, Template.ofJson v = .ok t) ↔
        ((∃ items, v = .array items) ∨ IsObject v) ∧
          ∀ root ∈ v.roots, ∀ w, Reaches root w → ¬ Malformed w) ∧
      (∀ t, Template.ofJson v = .ok t → List.Forall₂ Node.IsRead v.nodes t.content) ∧
      (∀ w node tag, Node.IsRead w node → w.tag? = some tag →
        List.Forall₂ Node.IsRead w.contentItems node.children) ∧
      (∀ w, (∀ tag ∈ w.tag?, .content ∉ tag.slots) → ∀ u, Reaches w u → u = w) ∧
      ∀ w, w.typeName? ≠ none → (∀ tag ∈ w.tag?, tag = .horizontalRule ∨ tag = .hardBreak) →
        ¬ Malformed w := by
  refine ⟨?_, fun t => forall₂_nodes, fun w node tag => Node.forall₂_children,
    fun w hleaf u hu => ?_, fun w hname htags => ?_⟩
  · have hroots : (∀ root ∈ v.roots, ∀ w, Reaches root w → ¬ Malformed w) ↔
        ∃ t, Template.ofJson v = .ok t := by
      rw [exists_ofJson]
      exact forall₂_congr fun root _ => (Node.exists_ofJson root).symm
    rw [hroots, iff_and_self]
    rintro ⟨t, ht⟩
    cases v with
    | array items => exact Or.inl ⟨items, rfl⟩
    | object fields => exact Or.inr ⟨fields, rfl⟩
    | null | bool | number | string =>
      rw [ofJson_node (by exact fun _ => Json.noConfusion), Node.ofJson] at ht
      cases ht
  · -- the node itself is all that a leaf reaches
    cases hu with
    | refl => rfl
    | content hc =>
      rw [Json.contentItems_of_leaf hleaf] at hc
      exact absurd hc List.not_mem_nil
  · rintro (hbad | ⟨htag, hbad⟩)
    · exact hname hbad
    · apply hbad
      rcases htags _ htag with rfl | rfl <;> exact keyedFit_of_free fun _ => rfl

end Template

end Letterhead
