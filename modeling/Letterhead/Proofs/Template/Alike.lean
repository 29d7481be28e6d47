import Letterhead.Proofs.Template.Grammar

/-!
# Nodes that are alike

Two values are alike if they stand for the same node, or neither for one. Whatever is made of alike
values is alike.

* `Node.Alike` — alike values;
* `Node.alike_of_sameOutcome`, `Node.alike_of_readNode` — objects whose fields come out the same;
* `sameOutcome_readNodes` — contents with items that are alike;
* `Template.sameOutcome_of_elements`, `Template.sameOutcome_of_alike` — and templates.
-/

namespace Letterhead

open Json

/-- Values that stand for the same node, or both for none. -/
def Node.Alike (v w : Json) : Prop :=
  SameOutcome (Node.ofJson v) (Node.ofJson w)

theorem Node.Alike.refl (v : Json) : Node.Alike v v :=
  SameOutcome.refl _

/-! ### Types -/

/-- Names of the same type: a known type may be spelled in different ways. -/
inductive SameType : String → String → Prop
  | same (name : String) : SameType name name
  | spelled {tag : Tag} {a b : String} (ha : a ∈ tag.spellings) (hb : b ∈ tag.spellings) :
      SameType a b

theorem SameType.ofName?_eq {a b : String} (h : SameType a b) :
    Tag.ofName? a = Tag.ofName? b := by
  cases h with
  | same => rfl
  | spelled ha hb => rw [Tag.ofName?_spelling ha, Tag.ofName?_spelling hb]

/-- A name that is no known type has no other spelling. -/
theorem SameType.eq_of_unknown {a b : String} (h : SameType a b) (ha : Tag.ofName? a = none) :
    a = b := by
  cases h with
  | same => rfl
  | spelled ha' _ =>
    rw [Tag.ofName?_spelling ha'] at ha
    cases ha

/-- An object names its type in the field of that name. -/
theorem Json.typeName?_object (fields : Fields) :
    (Json.object fields).typeName? = (Letterhead.field? "type" fields).bind Json.text? := rfl

/-! ### Nodes -/

/-- Objects of the same type stand for the same node if their fields come out the same. -/
theorem Node.alike_of_sameOutcome {fields given : Fields} {a b : String}
    (ha : field? "type" fields = some (.string a)) (hb : field? "type" given = some (.string b))
    (htype : SameType a b)
    (h : SameOutcome ((Tag.ofTypeName a).readNode fields) ((Tag.ofTypeName a).readNode given)) :
    Node.Alike (.object fields) (.object given) := by
  unfold Tag.ofTypeName at h
  intro node
  cases htag : Tag.ofName? a with
  | none =>
    -- wrappers have the children of documents
    have hab : a = b := htype.eq_of_unknown htag
    rw [htag] at h
    rw [Node.ofJson_wrapper ha htag, Node.ofJson_wrapper hb (hab ▸ htag), hab,
      wrapperChildren_congr h]
  | some tag =>
    have hfields : (Json.object fields).tag? = some tag := by
      rw [Json.tag?, Json.typeName?_object, ha]
      exact htag
    have hgiven : (Json.object given).tag? = some tag := by
      rw [Json.tag?, Json.typeName?_object, hb]
      exact htype.ofName?_eq.symm.trans htag
    rw [htag] at h
    have hsame := h node
    rw [Option.getD_some, Tag.readNode_eq_ok, Tag.readNode_eq_ok] at hsame
    exact (Node.isRead_iff_of_tag hfields).trans (hsame.trans (Node.isRead_iff_of_tag hgiven).symm)

/-- Values without a type are no nodes. -/
theorem Node.alike_of_untyped {v w : Json} (hv : v.typeName? = none) (hw : w.typeName? = none) :
    Node.Alike v w :=
  .of_failures (fun ⟨node, h⟩ => Node.ofJson_of_untyped hv node h)
    fun ⟨node, h⟩ => Node.ofJson_of_untyped hw node h

/-- Objects with one type are alike if their fields come out the same for every type. -/
theorem Node.alike_of_readNode {fields given : Fields}
    (htype : field? "type" fields = field? "type" given)
    (h : ∀ tag : Tag, SameOutcome (tag.readNode fields) (tag.readNode given)) :
    Node.Alike (.object fields) (.object given) := by
  cases hname : (Json.object fields).typeName? with
  | none =>
    refine Node.alike_of_untyped hname ?_
    rw [Json.typeName?_object, ← htype]
    exact hname
  | some name =>
    obtain ⟨_, hobject, hfield⟩ := Json.of_typeName? hname
    cases hobject
    exact Node.alike_of_sameOutcome hfield (htype ▸ hfield) (.same name) (h _)

/-- An object is a node if another with its type is, and its fields can be read where those of the
other can. -/
theorem Node.exists_isRead_of_readable {fields given : Fields}
    (htype : field? "type" fields = field? "type" given)
    (h : ∀ tag : Tag, tag.Readable fields → tag.Readable given)
    (hread : ∃ node, Node.IsRead (.object fields) node) :
    ∃ node, Node.IsRead (.object given) node := by
  have hnames : (Json.object fields).typeName? = (Json.object given).typeName? := by
    rw [Json.typeName?_object, Json.typeName?_object, htype]
  cases hname : (Json.object given).typeName? with
  | none =>
    obtain ⟨node, hnode⟩ := hread
    exact absurd hnode (Node.ofJson_of_untyped (hnames.trans hname) node)
  | some name =>
    cases htag : (Json.object given).tag? with
    | none =>
      -- a wrapper is a node, whatever its fields are
      obtain ⟨content, hcontent⟩ := Node.exists_isRead_unknown hname htag
      exact ⟨_, hcontent⟩
    | some tag =>
      have htag' : (Json.object fields).tag? = some tag := by
        rw [Json.tag?, hnames]
        exact htag
      simp only [Node.isRead_iff_of_tag htag'] at hread
      simp only [Node.isRead_iff_of_tag htag]
      obtain ⟨_, q, hq, -⟩ := hread
      obtain ⟨q', hq'⟩ := exists_readPayload.mpr (h tag (exists_readPayload.mp ⟨q, hq⟩))
      exact ⟨_, q', hq', rfl⟩

/-- Contents whose items are alike one by one hold the same nodes. -/
theorem sameOutcome_readNodes {items items' : List Json}
    (h : List.Forall₂ Node.Alike items items') :
    SameOutcome (readNodes items) (readNodes items') := by
  intro nodes
  rw [readNodes_eq_ok, readNodes_eq_ok]
  induction h generalizing nodes with
  | nil => exact Iff.rfl
  | @cons v w rest rest' hv _ ih =>
    rw [List.forall₂_cons_left_iff, List.forall₂_cons_left_iff]
    constructor
    · rintro ⟨node, more, hnode, hmore, rfl⟩
      exact ⟨node, more, (hv node).mp hnode, (ih more).mp hmore, rfl⟩
    · rintro ⟨node, more, hnode, hmore, rfl⟩
      exact ⟨node, more, (hv node).mpr hnode, (ih more).mpr hmore, rfl⟩

/-! ### Templates -/

namespace Template

/-- Arrays whose elements are alike one by one are the same template. -/
theorem sameOutcome_of_elements {items items' : List Json}
    (h : List.Forall₂ Node.Alike items items') :
    SameOutcome (Template.ofJson (.array items)) (Template.ofJson (.array items')) := by
  intro t
  rw [ofJson_array_eq_ok, ofJson_array_eq_ok, ← readNodes_eq_ok, ← readNodes_eq_ok]
  exact sameOutcome_readNodes h t.content

/-- Objects that are alike are the same template. -/
theorem sameOutcome_of_alike {fields given : Fields}
    (h : Node.Alike (.object fields) (.object given)) :
    SameOutcome (Template.ofJson (.object fields)) (Template.ofJson (.object given)) := by
  rw [ofJson_node (by exact fun _ => Json.noConfusion),
    ofJson_node (by exact fun _ => Json.noConfusion)]
  exact h.map _

end Template

end Letterhead
