import Letterhead.Proofs.Document.Wrappers

/-!
# Rendering in parts

A template can be rendered part by part where no text runs across the cut. That is so where a block
node stands at the cut, or where one of the parts is empty. It is also so where nodes that flow
inline stand on both sides, if those on one side are wrappers without any text inside. Anywhere
else the text on both sides is one block of text, which the cut takes apart. A document inside a
template is a part by itself, whatever stands around it: it ends the text before it, and begins
with none pending.

* `IsBoundary` — where templates can be cut, as far as the nodes at the cut tell;
* `trailingRuns_of_getLast?`, `leadingRuns_of_head?`, `IsBoundary.seam` — there is no loose text on
  one of the sides;
* `Scope.render_append_iff` — all cuts that rendering does not show;
* `FlowPlace.rendered_document` — a document inside a template, at any place;
* `Scope.render_in_parts` — rendering part by part.
-/

namespace Letterhead

/-! ### Boundaries -/

/-- Whether one of two parts of a template is empty, or a block node stands where they meet. -/
def IsBoundary (before after : List Node) : Prop :=
  before = [] ∨ after = [] ∨
    (∃ node ∈ before.getLast?, node.flowsInline = false) ∨
      ∃ node ∈ after.head?, node.flowsInline = false

section Boundaries

variable {context : Context} {node : Node} {nodes before after : List Node}

/-- Nothing follows a block node at the end. -/
theorem trailingRuns_of_getLast? (hnode : node ∈ nodes.getLast?)
    (hblock : node.flowsInline = false) : trailingRuns context nodes = [] := by
  obtain ⟨rest, rfl⟩ := List.getLast?_eq_some_iff.mp (Option.mem_def.mp hnode)
  rw [trailingRuns_concat, if_neg (Bool.eq_false_iff.mp hblock)]

/-- Nothing comes before a block node at the beginning. -/
theorem leadingRuns_of_head? (hnode : node ∈ nodes.head?) (hblock : node.flowsInline = false) :
    leadingRuns context nodes = [] := by
  obtain ⟨rest, rfl⟩ := List.head?_eq_some_iff.mp (Option.mem_def.mp hnode)
  rw [leadingRuns_cons, if_neg (Bool.eq_false_iff.mp hblock)]

/-- At a boundary there is no loose text on one of the sides. -/
theorem IsBoundary.seam (h : IsBoundary before after) (context : Context) :
    trailingRuns context before = [] ∨ leadingRuns context after = [] := by
  rcases h with rfl | rfl | ⟨node, hnode, hblock⟩ | ⟨node, hnode, hblock⟩
  · exact Or.inl rfl
  · exact Or.inr rfl
  · exact Or.inl (trailingRuns_of_getLast? hnode hblock)
  · exact Or.inr (leadingRuns_of_head? hnode hblock)

theorem allFlowInline_eq_false (hnode : node ∈ nodes) (hblock : node.flowsInline = false) :
    allFlowInline nodes = false := by
  induction nodes with
  | nil => exact absurd hnode List.not_mem_nil
  | cons first rest ih =>
    rw [allFlowInline]
    rcases List.mem_cons.mp hnode with rfl | hrest
    · rw [hblock, Bool.false_and]
    · rw [ih hrest, Bool.and_false]

end Boundaries

/-! ### Two parts -/

/-- **Cuts.** Two parts render as one template does exactly if loose text does not meet loose
text. -/
theorem Scope.render_append_iff (scope : Scope) (before after : List Node) :
    scope.render (before ++ after) = scope.render before ++ scope.render after ↔
      trailingRuns scope.context before = [] ∨ leadingRuns scope.context after = [] := by
  constructor
  · intro h
    -- two blocks of text are one element more than one
    have hlength := congrArg List.length h
    rw [List.length_append] at hlength
    exact (length_flow_append_le scope (scope.paragraph .left) before after).2 hlength.ge
  · intro h
    exact flow_append h

/-! ### Documents inside templates -/

namespace FlowPlace

/-- Wherever a document stands among siblings, the siblings flow. -/
theorem flows_of_document {nodes content : List Node} (h : .document content ∈ nodes)
    (place : FlowPlace) : place.Flows nodes := by
  have hblock : (Node.document content).flowsInline = false := by rw [Node.flowsInline]
  unfold Flows
  split
  · -- a single paragraph is no document
    exact absurd (List.mem_singleton.mp h) Node.noConfusion
  · exact allFlowInline_eq_false h hblock
  · trivial

/-- **Documents.** A document among siblings is rendered as the template that it is, between the
siblings before it and those after it. -/
theorem rendered_document (scope : Scope) (place : FlowPlace) (before content after : List Node) :
    place.rendered scope (before ++ .document content :: after) =
      place.around (scope.flow (scope.paragraph place.align) [] before ++
        (scope.render content ++ scope.flow (scope.paragraph place.align) [] after)) := by
  have hmem : Node.document content ∈ before ++ .document content :: after :=
    List.mem_append_right _ List.mem_cons_self
  have hblock : ¬ (Node.document content).flowsInline = true := by
    rw [Node.flowsInline]
    exact Bool.false_ne_true
  have hcontent : scope.elements (.document content) = scope.render content := by
    rw [Scope.elements, Scope.render]
  rw [rendered_of_flows (flows_of_document hmem place), Scope.flow_append_block hblock, hcontent]

end FlowPlace

/-- **Rendering in parts.** At a boundary, two parts of a template render one after the other as
they do together. More exactly, this is so wherever loose text does not meet loose text. And a
document inside a template renders as it does alone, at the top level and at any other place,
whatever stands around it. -/
theorem Scope.render_in_parts (scope : Scope) :
    (∀ before after, IsBoundary before after →
      scope.render (before ++ after) = scope.render before ++ scope.render after) ∧
    (∀ before after,
      scope.render (before ++ after) = scope.render before ++ scope.render after ↔
        trailingRuns scope.context before = [] ∨ leadingRuns scope.context after = []) ∧
    ∀ (place : FlowPlace) (before content after : List Node),
      place.rendered scope (before ++ .document content :: after) =
        place.around (scope.flow (scope.paragraph place.align) [] before ++
          (scope.render content ++ scope.flow (scope.paragraph place.align) [] after)) := by
  refine ⟨?_, scope.render_append_iff, FlowPlace.rendered_document scope⟩
  intro before after h
  exact (scope.render_append_iff before after).mpr (h.seam scope.context)

/-- A rule between a text and a wrapper without text. -/
theorem Scope.render_in_parts_rule :
    let scope : Scope := { context := {}, style := {}, place := .margin }
    let before : List Node := [.text "a" [.bold], .horizontalRule]
    let after : List Node := [.unknown "callout" [], .text "b" []]
    IsBoundary before after ∧
      scope.render (before ++ after) = scope.render before ++ scope.render after := by
  intro scope before after
  have hboundary : IsBoundary before after := Or.inr (Or.inr (Or.inl ⟨.horizontalRule, rfl, rfl⟩))
  exact ⟨hboundary, scope.render_in_parts.1 before after hboundary⟩

end Letterhead
