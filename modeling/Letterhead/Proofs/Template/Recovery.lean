import Letterhead.Proofs.Template.Alike

/-!
# What a wrapper keeps of its children

A node of an unknown type is a wrapper: whatever is wrong in it is no error of the template. Its
children are read as one list, so that they are kept or lost together: the wrapper has all its
items, in order, if nothing is wrong below any of them, and otherwise it has no children at all.
What is wrong may lie deep below an item, down to the next wrapper.

* `wrapperChildren_of_content` — the children of a wrapper with one list of items;
* `Node.wrapper_keeps_readable_iff` — when these are the items that can be read;
* `Node.malformed_child_drops_sibling` — when they are not.
-/

namespace Letterhead

open Json

section Fields

variable {tag : Tag}

/-- Fields that a type does not have are passed over. -/
theorem readPayload_of_free {fields : Fields} (h : ∀ f ∈ fields, tag.slot? f.1 = none)
    (p : Payload) : readPayload tag p fields = .ok p := by
  induction fields with
  | nil => exact readPayload_nil p
  | cons f rest ih =>
    obtain ⟨hf, hrest⟩ := List.forall_mem_cons.mp h
    rw [readPayload_cons_none hf]
    exact ih hrest

/-- A document has no field but its content. -/
theorem Tag.slot?_document {key : String} :
    Tag.document.slot? key = if key ∈ Slot.content.spellings then some .content else none := by
  unfold slot?
  rw [slots, List.find?_singleton]
  simp only [List.contains_iff_mem]

end Fields

section Wrapper

variable {before after : Fields} {key name : String} {items : List Json}

/-- A wrapper with one list of items has the nodes that this list is read as, or none. -/
theorem wrapperChildren_of_content (hkey : key ∈ Slot.content.spellings)
    (hother : ∀ f ∈ before ++ after, f.1 ∉ Slot.content.spellings) :
    wrapperChildren (before ++ (key, .array items) :: after) =
      (readNodes items).toOption.getD [] := by
  rw [List.forall_mem_append] at hother
  have hslot : Tag.document.slot? key = some .content := by
    rw [Tag.slot?_document, if_pos hkey]
  have hbefore : ∀ f ∈ before, Tag.document.slot? f.1 = none := by
    intro f hf
    rw [Tag.slot?_document, if_neg (hother.1 f hf)]
  have hafter : ∀ f ∈ after, Tag.document.slot? f.1 = none := by
    intro f hf
    rw [Tag.slot?_document, if_neg (hother.2 f hf)]
  -- the list is all that is read
  have hread : readPayload .document {} (before ++ (key, .array items) :: after) =
      (readNodes items).map fun nodes => Payload.put {} (.content nodes) := by
    rw [readPayload_append, readPayload_of_free hbefore]
    show readPayload .document {} ((key, .array items) :: after) = _
    rw [readPayload_cons_value hslot, if_neg (by decide), Tag.readValue, readContent]
    cases readNodes items with
    | error e => rfl
    | ok nodes => exact readPayload_of_free hafter _
  unfold wrapperChildren Tag.readNode
  rw [hread]
  cases readNodes items <;> rfl

/-- The items that can be read, as nodes. -/
def readableNodes (items : List Json) : List Node :=
  items.filterMap fun c => (Node.ofJson c).toOption

/-- If all items can be read, these are their nodes. -/
theorem readableNodes_of_forall₂ {nodes : List Node} (h : List.Forall₂ Node.IsRead items nodes) :
    readableNodes items = nodes := by
  unfold readableNodes
  induction h with
  | nil => rfl
  | @cons c node rest nodes hnode _ ih =>
    have hread : (Node.ofJson c).toOption = some node := congrArg Except.toOption hnode
    simp only [List.filterMap_cons, hread, ih]

theorem readableNodes_eq_nil_iff :
    readableNodes items = [] ↔ ∀ c ∈ items, ¬ ∃ node, Node.IsRead c node := by
  unfold readableNodes
  rw [List.filterMap_eq_nil_iff]
  refine forall₂_congr fun c _ => ?_
  unfold Node.IsRead
  cases Node.ofJson c with
  | error e => exact iff_of_true rfl (not_exists_ok e)
  | ok node => exact iff_of_false (fun h => nomatch h) fun h => h ⟨node, rfl⟩

end Wrapper

namespace Node

/-- Whether nothing is wrong with a value, nor with what can be reached from it through the content
of known types. -/
def IsSound (v : Json) : Prop :=
  ∀ w, Reaches v w → ¬ Malformed w

/-- **Wrappers keep all or nothing.** An object of an unknown type with one list of items is read as
a wrapper. Its children are the nodes of all its items, in order, if every item is sound, and there
are none if one is not. So they are the nodes of the items that can be read just if either all of
them can be or none. -/
theorem wrapper_keeps_readable_iff {before after : Fields} {key name : String} {items : List Json}
    (hname : field? "type" (before ++ (key, .array items) :: after) = some (.string name))
    (hunknown : Tag.ofName? name = none) (hkey : key ∈ Slot.content.spellings)
    (hother : ∀ f ∈ before ++ after, f.1 ∉ Slot.content.spellings) :
    ∃ children,
      Node.IsRead (.object (before ++ (key, .array items) :: after)) (.unknown name children) ∧
      ((∀ c ∈ items, IsSound c) → List.Forall₂ Node.IsRead items children) ∧
      ((∃ c ∈ items, ¬ IsSound c) → children = []) ∧
      (children = readableNodes items ↔
        (∀ c ∈ items, IsSound c) ∨ ∀ c ∈ items, ¬ IsSound c) := by
  have hsound : ∀ c, IsSound c ↔ ∃ node, Node.IsRead c node :=
    fun c => (Node.exists_ofJson c).symm
  refine ⟨_, Node.ofJson_wrapper hname hunknown, ?_⟩
  rw [wrapperChildren_of_content hkey hother]
  simp only [hsound]
  cases hread : readNodes items with
  | ok nodes =>
    have hnodes : List.Forall₂ Node.IsRead items nodes := readNodes_eq_ok.mp hread
    have hall : ∀ c ∈ items, ∃ node, Node.IsRead c node := exists_readNodes.mp ⟨nodes, hread⟩
    refine ⟨fun _ => hnodes, fun ⟨c, hc, hbad⟩ => absurd (hall c hc) hbad, ?_⟩
    exact iff_of_true (readableNodes_of_forall₂ hnodes).symm (Or.inl hall)
  | error e =>
    -- one item cannot be read, and the others are lost with it
    have hsome : ¬ ∀ c ∈ items, ∃ node, Node.IsRead c node := by
      rw [← exists_readNodes, hread]
      exact not_exists_ok e
    refine ⟨fun hall => absurd hall hsome, fun _ => rfl, ?_⟩
    rw [or_iff_right hsome, ← readableNodes_eq_nil_iff]
    exact eq_comm

/-- A wrapper with two items, nothing being wrong with either. -/
theorem wrapper_keeps_readable_iff_callout :
    let items : List Json :=
      [.object [("text", .string "a"), ("type", .string "text")],
        .object [("type", .string "horizontalRule")]]
    let fields : Fields := [("children", .array items), ("type", .string "callout")]
    field? "type" fields = some (.string "callout") ∧ Tag.ofName? "callout" = none ∧
      "children" ∈ Slot.content.spellings ∧
      (∀ f ∈ ([] ++ [("type", Json.string "callout")] : Fields), f.1 ∉ Slot.content.spellings) ∧
      Node.IsRead (.object fields) (.unknown "callout" [.text "a" [], .horizontalRule]) := by
  intro items fields
  have hname : field? "type" ([] ++ ("children", .array items) :: [("type", .string "callout")]) =
      some (.string "callout") := rfl
  have hunknown : Tag.ofName? "callout" = none := by decide
  have hkey : "children" ∈ Slot.content.spellings := by decide
  have hother : ∀ f ∈ ([] ++ [("type", Json.string "callout")] : Fields),
      f.1 ∉ Slot.content.spellings := by
    intro f hf
    rw [List.nil_append, List.mem_singleton] at hf
    rw [hf]
    decide
  obtain ⟨children, hread, hall, -, -⟩ :=
    wrapper_keeps_readable_iff hname hunknown hkey hother
  have hnodes : List.Forall₂ Node.IsRead items [.text "a" [], .horizontalRule] :=
    .cons (by rfl) (.cons (by rfl) .nil)
  have hsound : ∀ c ∈ items, IsSound c := by
    intro c hc
    exact (Node.exists_ofJson c).mp (exists_readNodes.mp ⟨_, readNodes_eq_ok.mpr hnodes⟩ c hc)
  -- the items are read in one way only
  have hchildren : Except.ok children = Except.ok [.text "a" [], .horizontalRule] :=
    (readNodes_eq_ok.mpr (hall hsound)).symm.trans (readNodes_eq_ok.mpr hnodes)
  rw [Except.ok.inj hchildren] at hread
  exact ⟨hname, hunknown, hkey, hother, hread⟩

/-- A child without a type takes its sibling along. -/
theorem malformed_child_drops_sibling :
    let items : List Json :=
      [.object [("text", .string "a"), ("type", .string "text")],
        .object [("text", .string "b")]]
    Node.IsRead (.object [("content", .array items), ("type", .string "callout")])
        (.unknown "callout" []) ∧
      readableNodes items = [.text "a" []] := by
  intro items
  exact ⟨by rfl, by rfl⟩

end Node

end Letterhead
