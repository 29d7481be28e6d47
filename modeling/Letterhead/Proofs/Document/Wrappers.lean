import Mathlib.Data.List.DropRight
import Letterhead.Document.Flow

/-!
# Where wrappers are transparent

A node of an unknown type is a wrapper around its children. If they all flow inline it vanishes into
the line of text around it. If not, it is a flow of its own, which begins and ends blocks of text of
its own and sets them to the left. What this shows is where the loose text of siblings, that is the
text outside of block nodes, meets the loose text of a wrapper among them.

* `leadingRuns`, `trailingRuns`, `looseRuns` — the loose text of siblings: before the first block
  node, after the last, and all of it;
* `Scope.exists_flow_seam`, `Scope.flow_append`, `Scope.length_flow_append` — the seam of two flows,
  which is invisible unless loose text stands on both sides of it;
* `Scope.flow_congr`, `Scope.eq_or_of_placements_flow` — a flow tells its placement only by loose
  text;
* `FlowPlace` — the places where siblings flow;
* `FlowPlace.rendered_unwrap_iff` — the wrappers that could be replaced by their children;
* `centered_wrapper_left` — one that could not: it takes a text out of its centred paragraph.
-/

namespace Letterhead

/-! ### Loose text -/

section Loose

variable (context : Context)

/-- The runs before the first block node of some siblings. -/
def leadingRuns (nodes : List Node) : List Run :=
  runsOf context (nodes.takeWhile (·.flowsInline))

/-- The runs after the last block node of some siblings. -/
def trailingRuns (nodes : List Node) : List Run :=
  runsOf context (nodes.rtakeWhile (·.flowsInline))

/-- All runs of some siblings that stand in no block node. -/
def looseRuns (nodes : List Node) : List Run :=
  runsOf context (nodes.filter (·.flowsInline))

variable {context}

theorem runsOf_append (xs ys : List Node) :
    runsOf context (xs ++ ys) = runsOf context xs ++ runsOf context ys := by
  induction xs with
  | nil => rfl
  | cons node rest ih => rw [List.cons_append, runsOf, runsOf, ih, List.append_assoc]

theorem leadingRuns_cons (node : Node) (rest : List Node) :
    leadingRuns context (node :: rest) =
      if node.flowsInline then node.runs context ++ leadingRuns context rest else [] := by
  unfold leadingRuns
  rw [List.takeWhile_cons]
  split
  · rw [runsOf]
  · rfl

theorem looseRuns_cons (node : Node) (rest : List Node) :
    looseRuns context (node :: rest) =
      (if node.flowsInline then node.runs context else []) ++ looseRuns context rest := by
  unfold looseRuns
  rw [List.filter_cons]
  split
  · rw [runsOf]
  · rfl

theorem trailingRuns_concat (xs : List Node) (node : Node) :
    trailingRuns context (xs ++ [node]) =
      if node.flowsInline then trailingRuns context xs ++ node.runs context else [] := by
  unfold trailingRuns
  split
  · next h =>
    rw [List.rtakeWhile_concat_pos _ _ _ h, runsOf_append, runsOf, runsOf, List.append_nil]
  · next h =>
    rw [List.rtakeWhile_concat_neg _ _ _ h]
    rfl

/-- What follows siblings among which there is a block node is not before the first one. -/
theorem leadingRuns_append (context : Context) {xs : List Node}
    (h : ¬ allFlowInline xs = true) (ys : List Node) :
    leadingRuns context (xs ++ ys) = leadingRuns context xs := by
  induction xs with
  | nil => exact absurd rfl h
  | cons node rest ih =>
    rw [List.cons_append, leadingRuns_cons, leadingRuns_cons]
    split
    · next hnode =>
      rw [allFlowInline, hnode, Bool.true_and] at h
      rw [ih h]
    · rfl

end Loose

/-! ### Flows -/

namespace Scope

variable {scope : Scope} {base : TextBlock} {pending : List Run}

@[simp] theorem textOfRuns_nil (base : TextBlock) : textOfRuns base [] = [] := rfl

theorem length_textOfRuns {runs : List Run} (h : runs ≠ []) (base : TextBlock) :
    (textOfRuns base runs).length = 1 := by
  rw [textOfRuns, if_neg (by simpa using h)]
  rfl

/-- What a block of text looks like does not decide whether there is one. -/
theorem length_textOfRuns_congr (base base' : TextBlock) (runs : List Run) :
    (textOfRuns base runs).length = (textOfRuns base' runs).length := by
  by_cases h : runs = []
  · rw [h, textOfRuns_nil, textOfRuns_nil]
  · rw [length_textOfRuns h, length_textOfRuns h]

theorem flow_cons_inline {node : Node} (h : node.flowsInline = true) (rest : List Node) :
    scope.flow base pending (node :: rest) =
      scope.flow base (pending ++ node.runs scope.context) rest := by
  rw [flow, if_pos h]

theorem flow_cons_block {node : Node} (h : ¬ node.flowsInline = true) (rest : List Node) :
    scope.flow base pending (node :: rest) =
      textOfRuns base pending ++ (scope.elements node ++ scope.flow base [] rest) := by
  rw [flow, if_neg h]

/-- Inline siblings add their runs to those that are pending. -/
theorem flow_append_inline {xs : List Node} (h : allFlowInline xs = true) (ys : List Node) :
    scope.flow base pending (xs ++ ys) =
      scope.flow base (pending ++ runsOf scope.context xs) ys := by
  induction xs generalizing pending with
  | nil => rw [List.nil_append, runsOf, List.append_nil]
  | cons node rest ih =>
    rw [allFlowInline, Bool.and_eq_true] at h
    rw [List.cons_append, flow_cons_inline h.1, ih h.2, runsOf, List.append_assoc]

/-- A block node ends what is before it. -/
theorem flow_append_block {node : Node} (h : ¬ node.flowsInline = true) (xs ys : List Node) :
    scope.flow base pending (xs ++ node :: ys) =
      scope.flow base pending xs ++ (scope.elements node ++ scope.flow base [] ys) := by
  induction xs generalizing pending with
  | nil => rw [List.nil_append, flow_cons_block h, flow]
  | cons first rest ih =>
    by_cases hfirst : first.flowsInline = true
    · rw [List.cons_append, flow_cons_inline hfirst, flow_cons_inline hfirst, ih]
    · rw [List.cons_append, flow_cons_block hfirst, flow_cons_block hfirst, ih,
        List.append_assoc, List.append_assoc]

theorem length_flow_congr (base base' : TextBlock) (pending : List Run) (nodes : List Node) :
    (scope.flow base pending nodes).length = (scope.flow base' pending nodes).length := by
  induction nodes generalizing pending with
  | nil => rw [flow, flow, length_textOfRuns_congr]
  | cons node rest ih =>
    by_cases h : node.flowsInline = true
    · rw [flow_cons_inline h, flow_cons_inline h, ih]
    · rw [flow_cons_block h, flow_cons_block h, List.length_append, List.length_append,
        List.length_append, List.length_append, length_textOfRuns_congr base base', ih]

/-- **How a flow begins.** What is pending forms one block of text with the leading runs. -/
theorem flow_eq_leading (scope : Scope) (base : TextBlock) (pending : List Run)
    (nodes : List Node) :
    scope.flow base pending nodes =
      textOfRuns base (pending ++ leadingRuns scope.context nodes) ++
        scope.flow base [] (nodes.dropWhile (·.flowsInline)) := by
  induction nodes generalizing pending with
  | nil =>
    have hleading : leadingRuns scope.context [] = [] := rfl
    rw [hleading, List.append_nil, List.dropWhile_nil, flow, flow, textOfRuns_nil,
      List.append_nil]
  | cons node rest ih =>
    by_cases h : node.flowsInline = true
    · rw [flow_cons_inline h, ih, leadingRuns_cons, if_pos h, List.dropWhile_cons_of_pos h,
        List.append_assoc]
    · rw [leadingRuns_cons, if_neg h, List.append_nil, List.dropWhile_cons_of_neg h,
        flow_cons_block h, flow_cons_block h, textOfRuns_nil, List.nil_append]

/-- **How a flow goes on.** Whatever follows some siblings finds their trailing runs pending, and
the elements before these already put out. -/
theorem exists_flow_append (scope : Scope) (base : TextBlock) (xs : List Node) :
    ∃ before, ∀ ys, scope.flow base [] (xs ++ ys) =
      before ++ scope.flow base (trailingRuns scope.context xs) ys := by
  -- from the end, as the trailing runs are read off from there
  induction xs using List.reverseRecOn with
  | nil => exact ⟨[], fun ys => rfl⟩
  | append_singleton xs node ih =>
    obtain ⟨before, hbefore⟩ := ih
    rw [trailingRuns_concat]
    by_cases h : node.flowsInline = true
    · refine ⟨before, fun ys => ?_⟩
      rw [if_pos h, List.append_assoc, hbefore, List.singleton_append, flow_cons_inline h]
    · refine ⟨before ++ (textOfRuns base (trailingRuns scope.context xs) ++ scope.elements node),
        fun ys => ?_⟩
      rw [if_neg h, List.append_assoc, hbefore, List.singleton_append, flow_cons_block h,
        List.append_assoc, List.append_assoc]

/-! ### Seams -/

section Seams

variable {xs ys : List Node}

/-- **A seam.** The loose text on both sides of a cut is one block of text where siblings flow
together, and what stands on each side is a block of its own where they do not. -/
theorem exists_flow_seam (scope : Scope) (base : TextBlock) (xs ys : List Node) :
    ∃ before after,
      scope.flow base [] (xs ++ ys) = before ++ (textOfRuns base
          (trailingRuns scope.context xs ++ leadingRuns scope.context ys) ++ after) ∧
        scope.flow base [] xs = before ++ textOfRuns base (trailingRuns scope.context xs) ∧
        scope.flow base [] ys = textOfRuns base (leadingRuns scope.context ys) ++ after := by
  obtain ⟨before, hbefore⟩ := exists_flow_append scope base xs
  refine ⟨before, scope.flow base [] (ys.dropWhile (·.flowsInline)), ?_, ?_, ?_⟩
  · rw [hbefore, flow_eq_leading]
  · have hnil := hbefore []
    rwa [List.append_nil, flow] at hnil
  · rw [flow_eq_leading, List.nil_append]

/-- A flow can be cut where no loose text stands on one of the sides. -/
theorem flow_append (h : trailingRuns scope.context xs = [] ∨ leadingRuns scope.context ys = []) :
    scope.flow base [] (xs ++ ys) = scope.flow base [] xs ++ scope.flow base [] ys := by
  obtain ⟨before, after, hboth, hxs, hys⟩ := exists_flow_seam scope base xs ys
  rw [hboth, hxs, hys, List.append_assoc]
  rcases h with h | h
  · rw [h, textOfRuns_nil, List.nil_append, List.nil_append]
  · rw [h, textOfRuns_nil, List.append_nil, List.nil_append]

/-- Where loose text stands on both sides of a cut, it takes a block of text apart. -/
theorem length_flow_append (base : TextBlock) (hxs : trailingRuns scope.context xs ≠ [])
    (hys : leadingRuns scope.context ys ≠ []) :
    (scope.flow base [] (xs ++ ys)).length + 1 =
      (scope.flow base [] xs).length + (scope.flow base [] ys).length := by
  obtain ⟨before, after, hboth, hleft, hright⟩ := exists_flow_seam scope base xs ys
  have hruns : trailingRuns scope.context xs ++ leadingRuns scope.context ys ≠ [] :=
    List.append_ne_nil_of_left_ne_nil hxs _
  rw [hboth, hleft, hright]
  simp only [List.length_append, length_textOfRuns hxs, length_textOfRuns hys,
    length_textOfRuns hruns]
  omega

/-- Two flows put out no fewer elements than the flow of both, and as many only if the seam is
invisible. -/
theorem length_flow_append_le (scope : Scope) (base : TextBlock) (xs ys : List Node) :
    (scope.flow base [] (xs ++ ys)).length ≤
        (scope.flow base [] xs).length + (scope.flow base [] ys).length ∧
      ((scope.flow base [] xs).length + (scope.flow base [] ys).length ≤
          (scope.flow base [] (xs ++ ys)).length →
        trailingRuns scope.context xs = [] ∨ leadingRuns scope.context ys = []) := by
  by_cases h : trailingRuns scope.context xs = [] ∨ leadingRuns scope.context ys = []
  · rw [flow_append h, List.length_append]
    exact ⟨Nat.le_refl _, fun _ => h⟩
  · rw [not_or] at h
    have hlength := length_flow_append base h.1 h.2
    exact ⟨by omega, fun hle => by omega⟩

end Seams

/-! ### Placements -/

/-- The placement of a block of text. -/
def placement? : Element → Option Align
  | .text block => some block.align
  | _ => none

/-- The placements of elements one by one; none for what is no block of text. -/
def placements (es : List Element) : List (Option Align) :=
  es.map placement?

theorem placements_append (es fs : List Element) :
    placements (es ++ fs) = placements es ++ placements fs :=
  List.map_append

theorem length_placements (es : List Element) : (placements es).length = es.length :=
  List.length_map _

/-- A quotation moves nothing. -/
theorem placements_quotedElements (es : List Element) :
    placements (quotedElements es) = placements es := by
  induction es with
  | nil => rfl
  | cons e es ih =>
    have hfirst : placement? e.quoted = placement? e := by
      cases e <;> rw [Element.quoted] <;> rfl
    rw [quotedElements, placements, placements, List.map_cons, List.map_cons, hfirst]
    exact congrArg _ ih

/-- Without loose text it does not matter what block of text a flow would put it in. -/
theorem flow_congr {nodes : List Node} (h : looseRuns scope.context nodes = [])
    (base base' : TextBlock) : scope.flow base [] nodes = scope.flow base' [] nodes := by
  induction nodes with
  | nil => rw [flow, flow, textOfRuns_nil, textOfRuns_nil]
  | cons node rest ih =>
    rw [looseRuns_cons, List.append_eq_nil_iff] at h
    obtain ⟨hnode, hrest⟩ := h
    by_cases hinline : node.flowsInline = true
    · rw [if_pos hinline] at hnode
      rw [flow_cons_inline hinline, flow_cons_inline hinline, hnode, List.append_nil, ih hrest]
    · rw [flow_cons_block hinline, flow_cons_block hinline, textOfRuns_nil, textOfRuns_nil,
        ih hrest]

/-- Two flows that differ in their placement differ wherever there is loose text. -/
theorem eq_or_of_placements_flow {a b : Align} {nodes : List Node}
    (h : placements (scope.flow (scope.paragraph a) pending nodes) =
      placements (scope.flow (scope.paragraph b) pending nodes)) :
    a = b ∨ pending ++ looseRuns scope.context nodes = [] := by
  -- a block of pending text tells its placement
  have htext : ∀ {runs : List Run}, placements (textOfRuns (scope.paragraph a) runs) =
      placements (textOfRuns (scope.paragraph b) runs) → a = b ∨ runs = [] := by
    intro runs heq
    by_cases hruns : runs = []
    · exact Or.inr hruns
    · rw [textOfRuns, textOfRuns, if_neg (by simpa using hruns),
        if_neg (by simpa using hruns)] at heq
      exact Or.inl (Option.some.inj (List.cons.inj heq).1)
  induction nodes generalizing pending with
  | nil =>
    have hloose : looseRuns scope.context [] = [] := rfl
    rw [flow, flow] at h
    rw [hloose, List.append_nil]
    exact htext h
  | cons node rest ih =>
    rw [looseRuns_cons]
    by_cases hinline : node.flowsInline = true
    · rw [flow_cons_inline hinline, flow_cons_inline hinline] at h
      rw [if_pos hinline, ← List.append_assoc]
      exact ih h
    · have hlength : (placements (textOfRuns (scope.paragraph a) pending)).length =
          (placements (textOfRuns (scope.paragraph b) pending)).length := by
        rw [length_placements, length_placements, length_textOfRuns_congr]
      rw [flow_cons_block hinline, flow_cons_block hinline] at h
      simp only [placements_append] at h
      obtain ⟨hbefore, hafter⟩ := List.append_inj h hlength
      rw [if_neg hinline, List.nil_append]
      rcases htext hbefore with hab | hpending
      · exact Or.inl hab
      · rw [hpending]
        exact ih (List.append_cancel_left hafter)

/-! ### Wrappers -/

/-- Whether the siblings `before` and `after` see a wrapper around `content` only as its children,
in a flow that sets text to `align`. A wrapper that flows inline is seen so. Any other must have no
loose text next to loose text outside of it, and none at all unless text is set to the left. -/
def IsTransparent (context : Context) (align : Align) (before content after : List Node) : Prop :=
  allFlowInline content = true ∨
    (trailingRuns context before = [] ∨ leadingRuns context content = []) ∧
    (trailingRuns context content = [] ∨ leadingRuns context after = []) ∧
    (align = .left ∨ looseRuns context content = [])

section Wrappers

variable {name : String} {align : Align} {before content after : List Node}

/-- A wrapper with a block node inside is a flow to the left between two other flows. -/
theorem flow_wrapper (hblock : ¬ allFlowInline content = true) :
    scope.flow base [] (before ++ .unknown name content :: after) =
      scope.flow base [] before ++
        (scope.flow (scope.paragraph .left) [] content ++ scope.flow base [] after) := by
  have hwrapper : ¬ (Node.unknown name content).flowsInline = true := by
    rw [Node.flowsInline]
    exact hblock
  rw [flow_append_block hwrapper, elements]

/-- Its children are a flow of their own if both seams are invisible. -/
theorem flow_children (hblock : ¬ allFlowInline content = true)
    (hbefore : trailingRuns scope.context before = [] ∨ leadingRuns scope.context content = [])
    (hafter : trailingRuns scope.context content = [] ∨ leadingRuns scope.context after = []) :
    scope.flow base [] (before ++ (content ++ after)) =
      scope.flow base [] before ++
        (scope.flow base [] content ++ scope.flow base [] after) := by
  have hleading := leadingRuns_append scope.context hblock after
  rw [flow_append (by rwa [hleading]), flow_append hafter]

theorem flow_unwrap (h : IsTransparent scope.context align before content after) :
    scope.flow (scope.paragraph align) [] (before ++ .unknown name content :: after) =
      scope.flow (scope.paragraph align) [] (before ++ (content ++ after)) := by
  by_cases hblock : allFlowInline content = true
  · -- the runs of the wrapper are those of its children
    obtain ⟨out, hout⟩ := exists_flow_append scope (scope.paragraph align) before
    have hwrapper : (Node.unknown name content).flowsInline = true := by
      rw [Node.flowsInline]
      exact hblock
    rw [hout, hout, flow_cons_inline hwrapper, flow_append_inline hblock, Node.runs]
  · obtain hinline | ⟨hbefore, hafter, hplaced⟩ := h
    · exact absurd hinline hblock
    · rw [flow_wrapper hblock, flow_children hblock hbefore hafter]
      rcases hplaced with rfl | hloose
      · rfl
      · rw [flow_congr hloose (scope.paragraph .left) (scope.paragraph align)]

/-- The placements alone tell a wrapper that is not transparent. -/
theorem isTransparent_of_placements
    (h : placements (scope.flow (scope.paragraph align) []
        (before ++ .unknown name content :: after)) =
      placements (scope.flow (scope.paragraph align) [] (before ++ (content ++ after)))) :
    IsTransparent scope.context align before content after := by
  by_cases hblock : allFlowInline content = true
  · exact Or.inl hblock
  -- both seams are invisible, or there would be fewer blocks of text without the wrapper
  have hlength := congrArg List.length h
  have hleading := leadingRuns_append scope.context hblock after
  obtain ⟨hle, hseam⟩ :=
    length_flow_append_le scope (scope.paragraph align) before (content ++ after)
  obtain ⟨hle', hseam'⟩ := length_flow_append_le scope (scope.paragraph align) content after
  rw [flow_wrapper hblock] at h hlength
  simp only [length_placements, List.length_append] at hlength
  rw [length_flow_congr (scope.paragraph .left) (scope.paragraph align)] at hlength
  rw [hleading] at hseam
  have hbefore := hseam (by omega)
  have hafter := hseam' (by omega)
  -- what is left is the flow of the children at two placements
  rw [flow_children hblock hbefore hafter] at h
  simp only [placements_append] at h
  have hcontent := List.append_cancel_right (List.append_cancel_left h)
  have hplaced := eq_or_of_placements_flow hcontent
  rw [List.nil_append] at hplaced
  exact Or.inr ⟨hbefore, hafter, hplaced.imp_left Eq.symm⟩

end Wrappers

end Scope

/-! ### The places where siblings flow -/

/-- A place where siblings are rendered one after another. -/
inductive FlowPlace where
  /-- The top level of a template. -/
  | top
  | document
  | quotation
  | listItem
  /-- A paragraph with the alignment written in it. -/
  | paragraph (align : Option String)
  | wrapper (name : String)

namespace FlowPlace

/-- The placement of loose text. -/
def align : FlowPlace → Align
  | .paragraph align => .ofName align
  | .top | .document | .quotation | .listItem | .wrapper _ => .left

/-- Whether siblings flow at a place: in a list item, if they are not a single paragraph of inline
nodes, and in a paragraph, if there is a block node among them. -/
def Flows : FlowPlace → List Node → Prop
  | .listItem, [.paragraph _ content] => allFlowInline content = false
  | .paragraph _, nodes => allFlowInline nodes = false
  | _, _ => True

/-- What is rendered of siblings at a place. -/
def rendered (scope : Scope) (place : FlowPlace) (nodes : List Node) : List Element :=
  match place with
  | .top => scope.render nodes
  | .document => scope.elements (.document nodes)
  | .quotation => scope.elements (.blockquote nodes)
  | .listItem => scope.elements (.listItem nodes)
  | .paragraph align => scope.elements (.paragraph align nodes)
  | .wrapper name => scope.elements (.unknown name nodes)

/-- What a place puts around the elements of its siblings. -/
def around (place : FlowPlace) (es : List Element) : List Element :=
  match place with
  | .quotation => [.box quotationStyle (quotedElements es)]
  | .paragraph _ => [.box {} es]
  | .top | .document | .listItem | .wrapper _ => es

variable {scope : Scope} {place : FlowPlace} {nodes : List Node}

theorem soleParagraph?_of_flows (h : listItem.Flows nodes) :
    scope.soleParagraph? nodes = none := by
  unfold Scope.soleParagraph?
  split
  · rw [Flows] at h
    rw [if_neg (by rw [h]; exact Bool.false_ne_true)]
  · rfl

/-- Every place renders its siblings by the same flow. -/
theorem rendered_of_flows (h : place.Flows nodes) :
    place.rendered scope nodes =
      place.around (scope.flow (scope.paragraph place.align) [] nodes) := by
  cases place with
  | top => rfl
  | document => rw [rendered, Scope.elements, around, align]
  | quotation => rw [rendered, Scope.elements, around, align]
  | listItem =>
    rw [rendered, Scope.elements, soleParagraph?_of_flows h, around, align]
  | paragraph a =>
    rw [Flows] at h
    rw [rendered, Scope.elements, if_neg (by rw [h]; exact Bool.false_ne_true), around, align]
  | wrapper name => rw [rendered, Scope.elements, around, align]

/-- What is put around elements lets their placements be seen. -/
theorem placements_of_around {es fs : List Element} (h : place.around es = place.around fs) :
    Scope.placements es = Scope.placements fs := by
  cases place with
  | top => exact congrArg _ h
  | document => exact congrArg _ h
  | quotation =>
    have hchildren := (Element.box.inj (List.cons.inj h).1).2
    rw [← Scope.placements_quotedElements es, hchildren, Scope.placements_quotedElements]
  | listItem => exact congrArg _ h
  | paragraph a => exact congrArg _ (Element.box.inj (List.cons.inj h).1).2
  | wrapper name => exact congrArg _ h

/-- **Wrappers.** Wherever siblings flow, a wrapper among them can be replaced by its children
exactly if it flows inline or keeps its loose text apart: no loose text of its own next to loose
text of its neighbours, and none at all where text is not set to the left. -/
theorem rendered_unwrap_iff (scope : Scope) (place : FlowPlace) (name : String)
    (before content after : List Node)
    (hwrapped : place.Flows (before ++ .unknown name content :: after))
    (hbare : place.Flows (before ++ (content ++ after))) :
    place.rendered scope (before ++ .unknown name content :: after) =
        place.rendered scope (before ++ (content ++ after)) ↔
      Scope.IsTransparent scope.context place.align before content after := by
  rw [rendered_of_flows hwrapped, rendered_of_flows hbare]
  constructor
  · intro h
    exact Scope.isTransparent_of_placements (placements_of_around h)
  · intro h
    rw [Scope.flow_unwrap h]

theorem rendered_unwrap_iff_centered :
    let place : FlowPlace := .paragraph (some "center")
    let rule : List Node := [.horizontalRule]
    let before : List Node := [.text "a" []]
    let after : List Node := [.text "b" []]
    let scope : Scope := { context := {}, style := {}, place := .body }
    place.Flows (before ++ .unknown "callout" rule :: after) ∧
      place.Flows (before ++ (rule ++ after)) ∧
      place.rendered scope (before ++ .unknown "callout" rule :: after) =
        place.rendered scope (before ++ (rule ++ after)) := by
  intro place rule before after scope
  have hwrapped : place.Flows (before ++ .unknown "callout" rule :: after) := rfl
  have hbare : place.Flows (before ++ (rule ++ after)) := rfl
  refine ⟨hwrapped, hbare, ?_⟩
  refine (rendered_unwrap_iff scope place "callout" before rule after hwrapped hbare).mpr ?_
  exact Or.inr ⟨Or.inr rfl, Or.inl rfl, Or.inr rfl⟩

/-- A wrapper takes its loose text out of a centred paragraph. -/
theorem centered_wrapper_left :
    let scope : Scope := { context := {}, style := {}, place := .body }
    let children : List Node := [.text "a" [], .horizontalRule]
    let place : FlowPlace := .paragraph (some "center")
    place.Flows [.unknown "callout" children] ∧ place.Flows children ∧
      place.rendered scope [.unknown "callout" children] ≠ place.rendered scope children := by
  intro scope children place
  have hwrapped : place.Flows [.unknown "callout" children] := rfl
  have hbare : place.Flows children := rfl
  refine ⟨hwrapped, hbare, fun h => ?_⟩
  rw [rendered_of_flows hwrapped, rendered_of_flows hbare] at h
  have hplacements : [some Align.left, none] = [some Align.center, none] :=
    placements_of_around h
  exact absurd hplacements (by decide)

end FlowPlace

end Letterhead
