import Letterhead.Document.Stationery

/-!
# The parts of rendered elements

Elements nest, but most of what holds for all of them holds for their parts: blocks of text, frames,
markers, rules and cells. The walk over a template puts out parts of a few kinds only. They are
listed once, as the cases of a predicate, and what holds in each case holds throughout a document.

* `Part`, `Element.parts`, `partsOf` — the parts of elements, in order;
* `partsOf_quotedElements` — a quotation changes part by part;
* `Scope.Emits` — the parts that the walk can put out;
* `Scope.emits_of_mem_render` — it puts out no others;
* `isMarker_of_mem_render`, `isMarker_of_mem_header`, `isMarker_of_mem_footer` — so every marker of
  a document is a bullet or a number.
-/

namespace Letterhead

/-! ### Parts -/

/-- A part of an element that is no element itself. -/
inductive Part where
  | text (block : TextBlock)
  | frame (style : BoxStyle)
  | marker (text : String)
  | rule (color : Color)
  | cell (cell : Cell)

mutual

/-- The parts of an element, in document order. -/
def Element.parts : Element → List Part
  | .text block => [.text block]
  | .box style children => .frame style :: partsOf children
  | .list _ items => itemParts items
  | .divider color _ => [.rule color]
  | .table _ rows => rows.flatMap (·.map .cell)
  | .spacer _ => []

/-- Element by element. -/
def partsOf : List Element → List Part
  | [] => []
  | e :: es => e.parts ++ partsOf es

/-- Item by item. -/
def itemParts : List Item → List Part
  | [] => []
  | .mk marker children :: items => .marker marker :: (partsOf children ++ itemParts items)

end

@[simp] theorem partsOf_nil : partsOf [] = [] := by
  rw [partsOf]

@[simp] theorem partsOf_cons (e : Element) (es : List Element) :
    partsOf (e :: es) = e.parts ++ partsOf es := by
  rw [partsOf]

@[simp] theorem partsOf_append (es fs : List Element) :
    partsOf (es ++ fs) = partsOf es ++ partsOf fs := by
  induction es with
  | nil => rw [List.nil_append, partsOf_nil, List.nil_append]
  | cons e es ih => rw [List.cons_append, partsOf_cons, partsOf_cons, ih, List.append_assoc]

@[simp] theorem itemParts_nil : itemParts [] = [] := by
  rw [itemParts]

@[simp] theorem itemParts_cons (marker : String) (children : List Element) (items : List Item) :
    itemParts (.mk marker children :: items) =
      .marker marker :: (partsOf children ++ itemParts items) := by
  rw [itemParts]

/-- The parts of the elements that a function gives for some values. -/
theorem mem_partsOf_map {α : Type} {f : α → Element} {xs : List α} {part : Part} :
    part ∈ partsOf (xs.map f) ↔ ∃ x ∈ xs, part ∈ (f x).parts := by
  induction xs with
  | nil => simp only [List.map_nil, partsOf_nil, List.not_mem_nil, false_and, exists_false]
  | cons x xs ih =>
    rw [List.map_cons, partsOf_cons, List.mem_append, ih]
    simp only [List.mem_cons, exists_eq_or_imp]

/-! ### Quotations -/

/-- A part as it is quoted. -/
def Part.quoted : Part → Part
  | .text b => .text b.quoted
  | .cell c => .cell c.quoted
  | .frame style => .frame style
  | .marker m => .marker m
  | .rule color => .rule color

mutual

theorem Element.parts_quoted : (e : Element) → e.quoted.parts = e.parts.map Part.quoted
  | .text block => by
    rw [Element.quoted, Element.parts, Element.parts]
    rfl
  | .box style children => by
    rw [Element.quoted, Element.parts, Element.parts, partsOf_quotedElements children]
    rfl
  | .list ordered items => by
    rw [Element.quoted, Element.parts, Element.parts, itemParts_quotedItems items]
  | .divider .. => by
    rw [Element.quoted, Element.parts]
    rfl
  | .table columns rows => by
    rw [Element.quoted, Element.parts, Element.parts, List.flatMap_map, List.map_flatMap]
    congr 1
    funext row
    rw [List.map_map, List.map_map]
    rfl
  | .spacer _ => by
    rw [Element.quoted, Element.parts]
    rfl

/-- A quotation changes every part by itself. -/
theorem partsOf_quotedElements :
    (es : List Element) → partsOf (quotedElements es) = (partsOf es).map Part.quoted
  | [] => by
    rw [quotedElements, partsOf_nil, List.map_nil]
  | e :: es => by
    rw [quotedElements, partsOf_cons, partsOf_cons, List.map_append, Element.parts_quoted e,
      partsOf_quotedElements es]

theorem itemParts_quotedItems :
    (items : List Item) → itemParts (quotedItems items) = (itemParts items).map Part.quoted
  | [] => by
    rw [quotedItems, itemParts_nil, List.map_nil]
  | .mk marker children :: items => by
    rw [quotedItems, itemParts_cons, itemParts_cons, List.map_cons, List.map_append,
      partsOf_quotedElements children, itemParts_quotedItems items]
    rfl

end

/-! ### What the walk puts out -/

namespace Scope

/-- The parts that the walk over a template can put out. -/
inductive Emits (scope : Scope) : Part → Prop where
  | paragraph (align : Align) (runs : List Run)
      (hruns : ∀ r ∈ runs, ∃ node : Node, r ∈ node.runs scope.context) :
      Emits scope (.text { scope.paragraph align with runs })
  | heading (size : Float32) (align : Align) (runs : List Run)
      (hruns : ∀ r ∈ runs, ∃ node : Node, r ∈ node.runs scope.context) :
      Emits scope (.text { scope.heading size align with runs })
  | marker (first : Option Nat) (position : Nat) :
      Emits scope (.marker (listMarker first position))
  | container : Emits scope (.frame {})
  | quotation : Emits scope (.frame quotationStyle)
  | rule : Emits scope (.rule scope.ruleColor)
  | block (name : String) (config : BlockConfig) {part : Part}
      (hpart : part ∈ partsOf (blockElements scope.style scope.context name config)) :
      Emits scope part
  | quoted {part : Part} (hpart : Emits scope part) : Emits scope part.quoted

variable {scope : Scope}

/-- The runs of inline nodes are each one of a node. -/
theorem exists_node_of_mem_runsOf {content : List Node} :
    ∀ r ∈ runsOf scope.context content, ∃ node : Node, r ∈ node.runs scope.context := by
  induction content with
  | nil =>
    intro r hr
    rw [runsOf] at hr
    exact absurd hr List.not_mem_nil
  | cons node rest ih =>
    intro r hr
    rw [runsOf] at hr
    rcases List.mem_append.mp hr with hr | hr
    · exact ⟨node, hr⟩
    · exact ih r hr

theorem emits_of_mem_textOfRuns {align : Align} {runs : List Run}
    (hruns : ∀ r ∈ runs, ∃ node : Node, r ∈ node.runs scope.context) :
    ∀ part ∈ partsOf (textOfRuns (scope.paragraph align) runs), scope.Emits part := by
  intro part hpart
  rw [textOfRuns] at hpart
  split at hpart
  · rw [partsOf_nil] at hpart
    exact absurd hpart List.not_mem_nil
  · rw [partsOf_cons, partsOf_nil, List.append_nil, Element.parts, List.mem_singleton] at hpart
    rw [hpart]
    exact .paragraph align runs hruns

theorem emits_of_mem_soleParagraph {content : List Node} {e : Element}
    (h : scope.soleParagraph? content = some e) : ∀ part ∈ e.parts, scope.Emits part := by
  intro part hpart
  unfold soleParagraph? at h
  split at h
  · split at h
    · rw [Option.some.injEq] at h
      rw [← h, Element.parts, List.mem_singleton] at hpart
      rw [hpart]
      exact .paragraph _ _ exists_node_of_mem_runsOf
    · cases h
  · cases h

theorem emits_of_mem_inlineParagraph {align : Align} {content : List Node} :
    ∀ part ∈ (scope.inlineParagraph align content).parts, scope.Emits part := by
  intro part hpart
  rw [inlineParagraph] at hpart
  split at hpart
  · rw [Element.parts] at hpart
    exact absurd hpart List.not_mem_nil
  · rw [Element.parts, List.mem_singleton] at hpart
    rw [hpart]
    exact .paragraph align _ exists_node_of_mem_runsOf

mutual

theorem emits_of_mem_elements :
    (node : Node) → ∀ part ∈ partsOf (scope.elements node), scope.Emits part
  | .document content => by
    rw [elements]
    exact emits_of_mem_flow (List.forall_mem_nil _) content
  | .paragraph align content => by
    rw [elements]
    split
    · rw [partsOf_cons, partsOf_nil, List.append_nil]
      exact emits_of_mem_inlineParagraph
    · rw [partsOf_cons, partsOf_nil, List.append_nil, Element.parts, List.forall_mem_cons]
      exact ⟨.container, emits_of_mem_flow (List.forall_mem_nil _) content⟩
  | .heading level align content => by
    rw [elements, partsOf_cons, partsOf_nil, List.append_nil, Element.parts,
      List.forall_mem_singleton]
    exact .heading _ _ _ exists_node_of_mem_runsOf
  | .bulletList items => by
    rw [elements, partsOf_cons, partsOf_nil, List.append_nil, Element.parts]
    exact emits_of_mem_listItems items
  | .orderedList start items => by
    rw [elements, partsOf_cons, partsOf_nil, List.append_nil, Element.parts]
    exact emits_of_mem_listItems items
  | .listItem content => by
    rw [elements]
    split
    · next e h =>
      rw [partsOf_cons, partsOf_nil, List.append_nil]
      exact emits_of_mem_soleParagraph h
    · exact emits_of_mem_flow (List.forall_mem_nil _) content
  | .blockquote content => by
    rw [elements, partsOf_cons, partsOf_nil, List.append_nil, Element.parts, List.forall_mem_cons,
      partsOf_quotedElements, List.forall_mem_map]
    -- the parts of the quotation are those of what is quoted, each as it is quoted
    refine ⟨.quotation, fun part hpart => .quoted ?_⟩
    exact emits_of_mem_flow (List.forall_mem_nil _) content part hpart
  | .horizontalRule => by
    rw [elements, partsOf_cons, partsOf_nil, List.append_nil, Element.parts,
      List.forall_mem_singleton]
    exact .rule
  | .dynamicBlock name config => by
    rw [elements]
    exact fun part hpart => .block name config hpart
  | .unknown _ content => by
    rw [elements]
    exact emits_of_mem_flow (List.forall_mem_nil _) content
  | .text text marks => by
    rw [elements]
    refine emits_of_mem_textOfRuns fun r hr => ⟨.text text marks, ?_⟩
    rw [Node.runs]
    exact hr
  | .hardBreak => by
    rw [elements]
    refine emits_of_mem_textOfRuns fun r hr => ⟨.hardBreak, ?_⟩
    rw [Node.runs]
    exact hr
  | .variable id label => by
    rw [elements]
    refine emits_of_mem_textOfRuns fun r hr => ⟨.variable id label, ?_⟩
    rw [Node.runs]
    exact hr

theorem emits_of_mem_flow {align : Align} {pending : List Run}
    (hpending : ∀ r ∈ pending, ∃ node : Node, r ∈ node.runs scope.context) :
    (nodes : List Node) →
      ∀ part ∈ partsOf (scope.flow (scope.paragraph align) pending nodes), scope.Emits part
  | [] => by
    rw [flow]
    exact emits_of_mem_textOfRuns hpending
  | node :: rest => by
    rw [flow]
    split
    · -- the node flows inline: its runs are pending with those before it
      refine emits_of_mem_flow ?_ rest
      exact List.forall_mem_append.mpr ⟨hpending, fun r hr => ⟨node, hr⟩⟩
    · rw [partsOf_append, partsOf_append, List.forall_mem_append, List.forall_mem_append]
      exact ⟨emits_of_mem_textOfRuns hpending, emits_of_mem_elements node,
        emits_of_mem_flow (List.forall_mem_nil _) rest⟩

theorem emits_of_mem_listItems {first : Option Nat} {position : Nat} :
    (nodes : List Node) →
      ∀ part ∈ itemParts (scope.listItems first position nodes), scope.Emits part
  | [] => by
    rw [listItems, itemParts_nil]
    exact List.forall_mem_nil _
  | node :: rest => by
    rw [listItems, itemParts_cons, List.forall_mem_cons, List.forall_mem_append]
    refine ⟨.marker first position, ?_, emits_of_mem_listItems rest⟩
    split
    · exact emits_of_mem_textOfRuns fun r hr => ⟨node, hr⟩
    · exact emits_of_mem_elements node

end

/-- **The walk puts out nothing else.** Whatever the template, every part of its elements is of one
of the kinds listed. -/
theorem emits_of_mem_render {nodes : List Node} :
    ∀ part ∈ partsOf (scope.render nodes), scope.Emits part := by
  rw [render]
  exact emits_of_mem_flow (List.forall_mem_nil _) nodes

end Scope

/-! ### Markers -/

/-- A marker that the library writes: a bullet, or a number and a point. -/
def IsMarker (m : String) : Prop :=
  m = "•" ∨ ∃ n : Nat, m = toString n ++ "."

theorem isMarker_listMarker (first : Option Nat) (position : Nat) :
    IsMarker (listMarker first position) := by
  cases first with
  | none => exact Or.inl rfl
  | some n => exact Or.inr ⟨n + position, rfl⟩

section Blocks

variable {m : String}

@[simp] theorem marker_not_mem_text (b : TextBlock) : Part.marker m ∉ (Element.text b).parts := by
  rw [Element.parts, List.mem_singleton]
  exact Part.noConfusion

@[simp] theorem marker_mem_box (style : BoxStyle) (children : List Element) :
    Part.marker m ∈ (Element.box style children).parts ↔ Part.marker m ∈ partsOf children := by
  rw [Element.parts, List.mem_cons, or_iff_right Part.noConfusion]

@[simp] theorem marker_not_mem_table (columns : List Column) (rows : List (List Cell)) :
    Part.marker m ∉ (Element.table columns rows).parts := by
  rw [Element.parts, List.mem_flatMap]
  rintro ⟨row, -, h⟩
  obtain ⟨cell, -, h⟩ := List.mem_map.mp h
  cases h

@[simp] theorem marker_not_mem_divider (color : Color) (thickness : Float32) :
    Part.marker m ∉ (Element.divider color thickness).parts := by
  rw [Element.parts, List.mem_singleton]
  exact Part.noConfusion

/-- The parts of an element that may be missing. -/
theorem mem_partsOf_toList {α : Type} {part : Part} {build : α → Element} {x : Option α} :
    part ∈ partsOf (x.map build).toList ↔ ∃ a, x = some a ∧ part ∈ (build a).parts := by
  cases x with
  | none => simp only [Option.map_none, Option.toList_none, partsOf_nil, List.not_mem_nil,
      reduceCtorEq, false_and, exists_false]
  | some a => simp only [Option.map_some, Option.toList_some, partsOf_cons, partsOf_nil,
      List.append_nil, Option.some.injEq, exists_eq_left']

/-- The summaries have no markers. -/
theorem marker_not_mem_summaryElements {style : BrandStyle} {captionText : String} {s : Summary} :
    Part.marker m ∉ partsOf (summaryElements style captionText s) := by
  rw [summaryElements]
  split
  · exact List.not_mem_nil
  · simp [mem_partsOf_map, mem_partsOf_toList, caption, brandedLine, SummaryLine.element,
      textElement]

theorem marker_not_mem_companyElements {style : BrandStyle} {s : Summary} :
    Part.marker m ∉ partsOf (companyElements style s) := by
  rw [companyElements]
  split
  · exact List.not_mem_nil
  · simp [mem_partsOf_map, mem_partsOf_toList, brandedLine, SummaryLine.element, textElement]

/-- The services have no markers: neither their table nor the panels. -/
theorem marker_not_mem_serviceElements {style : BrandStyle} {t : ServiceTable} :
    Part.marker m ∉ partsOf (serviceElements style t) := by
  have hlaunch : ∀ line, Part.marker m ∉ (launchPanel style line).parts := by
    intro line
    simp [launchPanel, mem_partsOf_toList, textElement, extraText]
  have hfee : ∀ line, Part.marker m ∉ (feePanel style line).parts := by
    intro line
    simp [feePanel, mem_partsOf_toList, textElement, extraText]
  rw [serviceElements]
  split
  · simp [textElement]
  · split <;> simp [mem_partsOf_map, hlaunch, hfee, caption, brandedLine, setupTable]

theorem isMarker_of_mem_clauseItems {first : Nat} {clauses : List String}
    (h : Part.marker m ∈ itemParts (clauseItems first clauses)) : IsMarker m := by
  induction clauses generalizing first with
  | nil =>
    rw [clauseItems, itemParts_nil] at h
    exact absurd h List.not_mem_nil
  | cons clause rest ih =>
    rw [clauseItems, itemParts_cons, List.mem_cons, List.mem_append, Part.marker.injEq] at h
    rcases h with h | h | h
    · exact Or.inr ⟨first, h⟩
    · simp [textElement] at h
    · exact ih h

/-- Of the dynamic blocks only the terms have markers, and these are numbers. -/
theorem isMarker_of_mem_data {style : BrandStyle} {data : BlockData}
    (h : Part.marker m ∈ partsOf (data.elements style)) : IsMarker m := by
  cases data with
  | company s => exact absurd h marker_not_mem_companyElements
  | client s => exact absurd h marker_not_mem_summaryElements
  | property s => exact absurd h marker_not_mem_summaryElements
  | services t => exact absurd h marker_not_mem_serviceElements
  | totals t => simp [BlockData.elements, mem_partsOf_toList, totalsTable] at h
  | validity v => simp [BlockData.elements, textElement] at h
  | terms clauses =>
    rw [BlockData.elements, termElements, partsOf_cons, partsOf_cons, partsOf_nil, List.append_nil,
      List.mem_append, Element.parts.eq_3] at h
    rcases h with h | h
    · simp [caption, brandedLine] at h
    · exact isMarker_of_mem_clauseItems h
  | signatures s => simp [BlockData.elements, signatureTable] at h
  | note n =>
    rw [BlockData.elements, noteElements] at h
    split at h
    · simp [textElement] at h
    · exact absurd h List.not_mem_nil
  | separator => simp [BlockData.elements] at h

/-- The usual header has no list, and neither has the usual footer. -/
theorem marker_not_mem_companyHeader {style : BrandStyle} {c : Company} :
    Part.marker m ∉ partsOf (companyHeader style c) := by
  rw [companyHeader, partsOf_append, List.mem_append, mem_partsOf_toList, mem_partsOf_toList]
  simp [brandedLine, textElement]

theorem marker_not_mem_companyFooter {style : BrandStyle} {c : Company} :
    Part.marker m ∉ partsOf (companyFooter style c) := by
  rw [companyFooter, mem_partsOf_toList]
  simp

end Blocks

namespace Scope

variable {scope : Scope} {m : String}

theorem isMarker_of_emits (h : scope.Emits (.marker m)) : IsMarker m := by
  -- the part is an index of `Emits`, so that it must be a variable for the induction
  generalize hpart : Part.marker m = part at h
  induction h with
  | paragraph => cases hpart
  | heading => cases hpart
  | marker first position =>
    rw [Part.marker.inj hpart]
    exact isMarker_listMarker first position
  | container => cases hpart
  | quotation => cases hpart
  | rule => cases hpart
  | block name config hmem =>
    rw [← hpart, blockElements] at hmem
    split at hmem
    · exact isMarker_of_mem_data hmem
    · exact absurd hmem List.not_mem_nil
  | @quoted part _ ih =>
    -- a part that is a marker when it is quoted is the same marker before
    cases part with
    | marker text => exact ih hpart
    | text b => cases hpart
    | frame style => cases hpart
    | rule color => cases hpart
    | cell c => cases hpart

theorem isMarker_of_mem_render {nodes : List Node}
    (h : Part.marker m ∈ partsOf (scope.render nodes)) : IsMarker m :=
  isMarker_of_emits (emits_of_mem_render _ h)

theorem isMarker_of_mem_header (h : Part.marker m ∈ partsOf scope.header) : IsMarker m := by
  rw [header] at h
  split at h
  · exact isMarker_of_mem_render h
  · cases hc : scope.context.company <;>
      simp [hc, brandRule, marker_not_mem_companyHeader] at h

theorem isMarker_of_mem_footer (h : Part.marker m ∈ partsOf scope.footer) : IsMarker m := by
  rw [footer] at h
  split at h
  · exact isMarker_of_mem_render h
  · cases hc : scope.context.company <;>
      simp [hc, brandRule, marker_not_mem_companyFooter] at h

end Scope

end Letterhead
