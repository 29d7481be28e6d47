import Letterhead.Document.Flow

/-!
# Rendering keeps the content

What a reader meets in the elements of a template is what stands in its leaves, in the same order.
The leaves are read off the tree without rendering it: nothing there is collected, ended or
flattened, so that the two agree only if every run that is pending is put out at its place.

* `BlockData.runs` — the runs that the data of a dynamic block shows;
* `Node.leafRuns`, `leafRunsOf` — the runs of the leaves, in order;
* `Node.leafRuns_inHeading`, `Node.leafRuns_of_flowsInline` — where nodes are inline;
* `elementRuns_blockElements`, `elementRuns_quotedElements` — dynamic blocks and quotations;
* `textsOf_render` — the elements of a template show the runs of its leaves.
-/

namespace Letterhead

/-! ### What dynamic blocks show -/

/-- A line of a summary. -/
def SummaryLine.runs (line : SummaryLine) : List Run :=
  [{ text := line.label ++ ": ", bold := true }, { text := line.value }]

/-- The lines of a summary below its title. -/
def Summary.runs (title : String → Run) (s : Summary) : List Run :=
  (s.title.map title).toList ++ s.lines.flatMap SummaryLine.runs

/-- The row of a setup service, cell by cell. -/
def ServiceLine.setupRuns (line : ServiceLine) : List Run :=
  setupName line ++ (.plain (numberText line.quantity) ::
    .plain ((line.unitPrice.map currencyText).getD "") :: setupTotal line)

/-- The panel of a launch. -/
def ServiceLine.launchRuns (style : BrandStyle) (line : ServiceLine) : List Run :=
  boldRun line.name :: ((line.description.map Run.plain).toList ++ launchPrice style line ++
    (line.note.map italicRun).toList)

/-- The panel of a management service. -/
def ServiceLine.feeRuns (style : BrandStyle) (line : ServiceLine) : List Run :=
  boldRun line.name :: (feeText style line ++ (line.description.map Run.plain).toList ++
    (line.note.map Run.plain).toList)

/-- The table of the services that set up, under its caption. -/
def ServiceTable.setupRuns (t : ServiceTable) : List Run :=
  .plain "Setup services" :: (["Service", "Qty", "Price", "Total"].map boldRun ++
    t.setup.flatMap ServiceLine.setupRuns ++
    [boldRun "Subtotal", boldRun (currencyText t.setupSubtotal)])

/-- The services of a proposal. -/
def ServiceTable.runs (style : BrandStyle) (t : ServiceTable) : List Run :=
  if t.isEmpty then [italicRun "No services included in this proposal."]
  else
    (if t.setup.isEmpty then [] else t.setupRuns) ++
      t.launch.flatMap (ServiceLine.launchRuns style) ++
      t.management.flatMap (ServiceLine.feeRuns style)

/-- The totals, row by row. -/
def Totals.runs (style : BrandStyle) (t : Totals) : List Run :=
  .plain "Subtotal" :: .plain t.subtotal ::
    ((t.discount.map fun d => [Run.plain "Discount", Run.plain d]).getD [] ++
      [{ text := "Total", bold := true, color := some style.primary },
        { text := t.total, bold := true, color := some style.primary }])

/-- The runs that the data of a dynamic block shows. -/
def BlockData.runs (style : BrandStyle) : BlockData → List Run
  | .company s => s.runs Run.plain
  | .client s => if s.isEmpty then [] else .plain "Client" :: s.runs boldRun
  | .property s => if s.isEmpty then [] else .plain "Property" :: s.runs boldRun
  | .services t => t.runs style
  | .totals t => (t.map (Totals.runs style)).getD []
  | .validity v => [italicRun v.sentence]
  | .terms clauses => .plain "Terms and conditions" :: clauses.map Run.plain
  | .signatures s => [.plain "\n\n", .plain "\n\n", boldRun s.left, boldRun s.right]
  | .note n => (n.text.map Run.plain).toList
  | .separator => []

/-! ### The leaves of a template -/

/-- The run of a variable: its value without a style, or its label or path in brackets. -/
def variableLeaf (context : Context) (id : String) (label : Option String) : Run :=
  match context.resolve? id with
  | some value => { text := value }
  | none =>
    { text := "[" ++ Node.placeholderLabel id label ++ "]", background := some "#fff3cd" }

/-- What a block node shows: nothing, if it stands in a heading. -/
def unlessHeading (inHeading : Bool) (runs : List Run) : List Run :=
  if inHeading then [] else runs

mutual

/-- The runs of the leaves of a node in document order. `inHeading` says that the node stands in a
heading, directly or in wrappers: block nodes are left out there, and nowhere else. -/
def Node.leafRuns (scope : Scope) (inHeading : Bool) : Node → List Run
  | .text text marks =>
    [{ text, bold := marks.contains .bold, italic := marks.contains .italic,
       underline := marks.contains .underline, strike := marks.contains .strike }]
  | .hardBreak => [{ text := "\n" }]
  | .variable id label => [variableLeaf scope.context id label]
  | .unknown _ content => leafRunsOf scope inHeading content
  | .document content => unlessHeading inHeading (leafRunsOf scope false content)
  | .paragraph _ content => unlessHeading inHeading (leafRunsOf scope false content)
  | .heading _ _ content => unlessHeading inHeading (leafRunsOf scope true content)
  | .bulletList items => unlessHeading inHeading (leafRunsOf scope false items)
  | .orderedList _ items => unlessHeading inHeading (leafRunsOf scope false items)
  | .listItem content => unlessHeading inHeading (leafRunsOf scope false content)
  | .blockquote content =>
    unlessHeading inHeading ((leafRunsOf scope false content).map ({ · with italic := true }))
  | .horizontalRule => []
  | .dynamicBlock name config =>
    unlessHeading inHeading
      (((BlockData.resolve name config scope.context).map (BlockData.runs scope.style)).getD [])

/-- Node by node. -/
def leafRunsOf (scope : Scope) (inHeading : Bool) : List Node → List Run
  | [] => []
  | node :: rest => node.leafRuns scope inHeading ++ leafRunsOf scope inHeading rest

end

/-! ### Inline places -/

theorem variableLeaf_eq (context : Context) (id : String) (label : Option String) :
    variableLeaf context id label = variableRun context id label := by
  rw [variableLeaf, variableRun]
  cases context.resolve? id <;> rfl

mutual

/-- In a heading, the leaves are the runs of inline nodes. -/
theorem Node.leafRuns_inHeading (scope : Scope) :
    (node : Node) → node.leafRuns scope true = node.runs scope.context
  | .text .. => rfl
  | .hardBreak => rfl
  | .variable id label => by
    rw [Node.leafRuns, Node.runs, variableLeaf_eq]
  | .unknown _ content => by
    rw [Node.leafRuns, Node.runs, leafRunsOf_inHeading scope content]
  | .document _ => rfl
  | .paragraph .. => rfl
  | .heading .. => rfl
  | .bulletList _ => rfl
  | .orderedList .. => rfl
  | .listItem _ => rfl
  | .blockquote _ => rfl
  | .horizontalRule => rfl
  | .dynamicBlock .. => rfl

theorem leafRunsOf_inHeading (scope : Scope) :
    (nodes : List Node) → leafRunsOf scope true nodes = runsOf scope.context nodes
  | [] => rfl
  | node :: rest => by
    rw [leafRunsOf, runsOf, Node.leafRuns_inHeading scope node, leafRunsOf_inHeading scope rest]

end

mutual

/-- A node that flows inline has no block node that a heading could leave out. -/
theorem Node.leafRuns_of_flowsInline (scope : Scope) :
    (node : Node) → node.flowsInline = true →
      node.leafRuns scope false = node.runs scope.context
  | .text .., _ => rfl
  | .hardBreak, _ => rfl
  | .variable id label, _ => by
    rw [Node.leafRuns, Node.runs, variableLeaf_eq]
  | .unknown _ content, h => by
    rw [Node.flowsInline] at h
    rw [Node.leafRuns, Node.runs, leafRunsOf_of_allFlowInline scope content h]
  | .document _, h => absurd h Bool.false_ne_true
  | .paragraph .., h => absurd h Bool.false_ne_true
  | .heading .., h => absurd h Bool.false_ne_true
  | .bulletList _, h => absurd h Bool.false_ne_true
  | .orderedList .., h => absurd h Bool.false_ne_true
  | .listItem _, h => absurd h Bool.false_ne_true
  | .blockquote _, h => absurd h Bool.false_ne_true
  | .horizontalRule, h => absurd h Bool.false_ne_true
  | .dynamicBlock .., h => absurd h Bool.false_ne_true

theorem leafRunsOf_of_allFlowInline (scope : Scope) :
    (nodes : List Node) → allFlowInline nodes = true →
      leafRunsOf scope false nodes = runsOf scope.context nodes
  | [], _ => rfl
  | node :: rest, h => by
    rw [allFlowInline, Bool.and_eq_true] at h
    obtain ⟨hnode, hrest⟩ := h
    rw [leafRunsOf, runsOf, Node.leafRuns_of_flowsInline scope node hnode,
      leafRunsOf_of_allFlowInline scope rest hrest]

end

/-! ### Elements in reading order -/

/-- The runs of elements, in reading order. -/
def elementRuns (elements : List Element) : List Run :=
  (textsOf elements).flatten

@[simp] theorem elementRuns_nil : elementRuns [] = [] := rfl

@[simp] theorem elementRuns_cons (e : Element) (es : List Element) :
    elementRuns (e :: es) = e.runs ++ elementRuns es := by
  rw [elementRuns, textsOf, List.flatten_append]
  rfl

@[simp] theorem elementRuns_append (es fs : List Element) :
    elementRuns (es ++ fs) = elementRuns es ++ elementRuns fs := by
  induction es with
  | nil => rfl
  | cons e es ih => rw [List.cons_append, elementRuns_cons, elementRuns_cons, ih, List.append_assoc]

@[simp] theorem Element.runs_text (b : TextBlock) : (Element.text b).runs = b.runs := by
  rw [Element.runs, Element.texts, List.flatten_singleton]

@[simp] theorem Element.runs_box (style : BoxStyle) (children : List Element) :
    (Element.box style children).runs = elementRuns children := by
  rw [Element.runs, Element.texts, elementRuns]

@[simp] theorem Element.runs_table (columns : List Column) (rows : List (List Cell)) :
    (Element.table columns rows).runs = rows.flatMap fun row => row.flatMap (·.runs) := by
  rw [Element.runs, Element.texts]
  induction rows with
  | nil => rfl
  | cons row rows ih =>
    rw [List.flatMap_cons, List.flatMap_cons, List.flatten_append, ih, ← List.flatMap_def]

@[simp] theorem Element.runs_divider (color : Color) (thickness : Float32) :
    (Element.divider color thickness).runs = [] := rfl

@[simp] theorem Element.runs_spacer (height : Float32) : (Element.spacer height).runs = [] := rfl

/-- The runs of list items, in reading order. -/
def itemRuns (items : List Item) : List Run :=
  (itemTexts items).flatten

@[simp] theorem Element.runs_list (ordered : Bool) (items : List Item) :
    (Element.list ordered items).runs = itemRuns items := by
  rw [Element.runs, Element.texts, itemRuns]

@[simp] theorem itemRuns_nil : itemRuns [] = [] := rfl

@[simp] theorem itemRuns_cons (marker : String) (children : List Element) (items : List Item) :
    itemRuns (.mk marker children :: items) = elementRuns children ++ itemRuns items := by
  rw [itemRuns, itemTexts, List.flatten_append]
  rfl

@[simp] theorem elementRuns_textOfRuns (base : TextBlock) (runs : List Run) :
    elementRuns (textOfRuns base runs) = runs := by
  rw [textOfRuns]
  split
  · next h => rw [List.isEmpty_iff.mp h, elementRuns_nil]
  · rw [elementRuns_cons, Element.runs_text, elementRuns_nil, List.append_nil]

theorem elementRuns_map {α : Type} (f : α → Element) (xs : List α) :
    elementRuns (xs.map f) = xs.flatMap fun x => (f x).runs := by
  induction xs with
  | nil => rfl
  | cons x xs ih => rw [List.map_cons, elementRuns_cons, ih, List.flatMap_cons]

/-- An element for a text that may be missing. -/
theorem elementRuns_extraText (build : String → Element) (run : String → Run)
    (h : ∀ t, (build t).runs = [run t]) (text : Option String) :
    elementRuns (extraText text build) = (text.map run).toList := by
  rw [extraText]
  cases text with
  | none => rfl
  | some t =>
    rw [Option.map_some, Option.toList_some, elementRuns_cons, elementRuns_nil, h]
    rfl

/-! ### Dynamic blocks -/

theorem SummaryLine.runs_element (line : SummaryLine) : line.element.runs = line.runs := by
  rw [SummaryLine.element, textElement, Element.runs_text]
  rfl

theorem Summary.runs_of_isEmpty {s : Summary} (h : s.isEmpty = true) (title : String → Run) :
    s.runs title = [] := by
  rw [Summary.isEmpty, Bool.and_eq_true, Option.isNone_iff_eq_none, List.isEmpty_iff] at h
  rw [Summary.runs, h.1, h.2]
  rfl

/-- A summary below its title, however the title looks. -/
theorem elementRuns_summary (s : Summary) (build : String → Element) (title : String → Run)
    (h : ∀ name, (build name).runs = [title name]) :
    elementRuns ((s.title.map build).toList ++ s.lines.map SummaryLine.element) = s.runs title := by
  have htitle := elementRuns_extraText build title h s.title
  rw [extraText] at htitle
  rw [elementRuns_append, elementRuns_map, htitle, Summary.runs]
  simp only [SummaryLine.runs_element]

theorem elementRuns_companyElements (style : BrandStyle) (s : Summary) :
    elementRuns (companyElements style s) = s.runs Run.plain := by
  rw [companyElements]
  split
  · next h => rw [Summary.runs_of_isEmpty h, elementRuns_nil]
  · rw [elementRuns_cons, Element.runs_box, elementRuns_nil, List.append_nil]
    exact elementRuns_summary s _ _ fun name => Element.runs_text _

theorem elementRuns_summaryElements (style : BrandStyle) (captionText : String) (s : Summary) :
    elementRuns (summaryElements style captionText s) =
      if s.isEmpty then [] else .plain captionText :: s.runs boldRun := by
  rw [summaryElements]
  split
  · rfl
  · rw [elementRuns_cons, Element.runs_box, elementRuns_nil, List.append_nil, elementRuns_cons,
      elementRuns_summary s _ boldRun fun name => Element.runs_text _]
    rfl

theorem runs_setupRow (line : ServiceLine) :
    (setupRow line).flatMap (·.runs) = line.setupRuns := by
  simp only [setupRow, ruledCell, ServiceLine.setupRuns, List.flatMap_cons, List.flatMap_nil,
    List.append_nil, List.cons_append, List.nil_append]

theorem runs_setupTable (t : ServiceTable) :
    .plain "Setup services" :: (setupTable t).runs = t.setupRuns := by
  rw [setupTable, Element.runs_table, List.flatMap_cons, List.flatMap_append, List.flatMap_map,
    ServiceTable.setupRuns]
  simp only [runs_setupRow, List.append_assoc]
  rfl

theorem runs_launchPanel (style : BrandStyle) (line : ServiceLine) :
    (launchPanel style line).runs = line.launchRuns style := by
  rw [launchPanel, Element.runs_box, elementRuns_append, elementRuns_cons, elementRuns_cons,
    elementRuns_extraText _ Run.plain fun t => Element.runs_text _,
    elementRuns_extraText _ italicRun fun t => Element.runs_text _, ServiceLine.launchRuns]
  simp only [textElement, Element.runs_text, List.cons_append, List.nil_append, List.append_assoc]

theorem runs_feePanel (style : BrandStyle) (line : ServiceLine) :
    (feePanel style line).runs = line.feeRuns style := by
  rw [feePanel, Element.runs_box, elementRuns_cons, elementRuns_cons, elementRuns_append,
    elementRuns_extraText _ Run.plain fun t => Element.runs_text _,
    elementRuns_extraText _ Run.plain fun t => Element.runs_text _, ServiceLine.feeRuns]
  simp only [textElement, Element.runs_text, List.cons_append, List.nil_append, List.append_assoc]

theorem elementRuns_serviceElements (style : BrandStyle) (t : ServiceTable) :
    elementRuns (serviceElements style t) = t.runs style := by
  rw [serviceElements, ServiceTable.runs]
  split
  · rfl
  · rw [elementRuns_append, elementRuns_append, elementRuns_map, elementRuns_map]
    simp only [runs_launchPanel, runs_feePanel]
    congr 2
    split
    · rfl
    · rw [elementRuns_cons, elementRuns_cons, elementRuns_nil, List.append_nil,
        ← runs_setupTable t]
      rfl

theorem runs_totalsTable (style : BrandStyle) (t : Totals) :
    (totalsTable style t).runs = t.runs style := by
  rw [totalsTable, Element.runs_table, Totals.runs]
  cases t.discount <;> rfl

theorem elementRuns_termElements (style : BrandStyle) (clauses : List String) :
    elementRuns (termElements style clauses) =
      .plain "Terms and conditions" :: clauses.map Run.plain := by
  have hitems : ∀ first, itemRuns (clauseItems first clauses) = clauses.map Run.plain := by
    induction clauses with
    | nil => intro first; rfl
    | cons clause rest ih =>
      intro first
      rw [clauseItems, itemRuns_cons, ih, List.map_cons]
      rfl
  rw [termElements, elementRuns_cons, elementRuns_cons, Element.runs_list, hitems,
    elementRuns_nil, List.append_nil]
  rfl

/-- A dynamic block shows its data. -/
theorem elementRuns_data (style : BrandStyle) (data : BlockData) :
    elementRuns (data.elements style) = data.runs style := by
  cases data with
  | company s => exact elementRuns_companyElements style s
  | client s => exact elementRuns_summaryElements style _ s
  | property s => exact elementRuns_summaryElements style _ s
  | services t => exact elementRuns_serviceElements style t
  | totals t =>
    cases t with
    | none => rfl
    | some t =>
      rw [BlockData.elements, Option.map_some, Option.toList_some, elementRuns_cons,
        elementRuns_nil, List.append_nil, runs_totalsTable]
      rfl
  | validity v => rfl
  | terms clauses => exact elementRuns_termElements style clauses
  | signatures s => rfl
  | note n =>
    rw [BlockData.elements, noteElements, BlockData.runs]
    cases n.text <;> rfl
  | separator => rfl

theorem elementRuns_blockElements (scope : Scope) (name : String) (config : BlockConfig) :
    elementRuns (blockElements scope.style scope.context name config) =
      ((BlockData.resolve name config scope.context).map (BlockData.runs scope.style)).getD [] := by
  rw [blockElements]
  cases BlockData.resolve name config scope.context with
  | none => rfl
  | some data => exact elementRuns_data scope.style data

/-! ### Quotations -/

theorem runs_quoted_cells (rows : List (List Cell)) :
    ((rows.map (·.map Cell.quoted)).flatMap fun row => row.flatMap (·.runs)) =
      (rows.flatMap fun row => row.flatMap (·.runs)).map Run.quoted := by
  rw [List.flatMap_map, List.map_flatMap]
  congr 1
  funext row
  rw [List.flatMap_map, List.map_flatMap]
  rfl

mutual

/-- A quotation changes nothing in the runs but that all are in italics. -/
theorem Element.runs_quoted : (e : Element) → e.quoted.runs = e.runs.map Run.quoted
  | .text block => by
    rw [Element.quoted, Element.runs_text, Element.runs_text]
    rfl
  | .box style children => by
    rw [Element.quoted, Element.runs_box, Element.runs_box, elementRuns_quotedElements children]
  | .list ordered items => by
    rw [Element.quoted, Element.runs_list, Element.runs_list, itemRuns_quotedItems items]
  | .divider .. => rfl
  | .table columns rows => by
    rw [Element.quoted, Element.runs_table, Element.runs_table, runs_quoted_cells]
  | .spacer _ => rfl

theorem elementRuns_quotedElements :
    (es : List Element) → elementRuns (quotedElements es) = (elementRuns es).map Run.quoted
  | [] => rfl
  | e :: es => by
    rw [quotedElements, elementRuns_cons, elementRuns_cons, List.map_append,
      Element.runs_quoted e, elementRuns_quotedElements es]

theorem itemRuns_quotedItems :
    (items : List Item) → itemRuns (quotedItems items) = (itemRuns items).map Run.quoted
  | [] => rfl
  | .mk marker children :: items => by
    rw [quotedItems, itemRuns_cons, itemRuns_cons, List.map_append,
      elementRuns_quotedElements children, itemRuns_quotedItems items]

end

/-! ### The walk -/

namespace Scope

variable (scope : Scope)

/-- A list item of a single paragraph keeps what the paragraph holds. -/
theorem runs_soleParagraph {content : List Node} {e : Element}
    (h : scope.soleParagraph? content = some e) : e.runs = leafRunsOf scope false content := by
  unfold soleParagraph? at h
  split at h
  · next align inner =>
    split at h
    · next hinline =>
      rw [Option.some.injEq] at h
      rw [← h, Element.runs_text, leafRunsOf, leafRunsOf, List.append_nil, Node.leafRuns,
        leafRunsOf_of_allFlowInline scope inner hinline]
      rfl
    · cases h
  · cases h

theorem runs_inlineParagraph (align : Align) (content : List Node) :
    (scope.inlineParagraph align content).runs = runsOf scope.context content := by
  rw [inlineParagraph]
  split
  · next h => rw [Element.runs_spacer, List.isEmpty_iff.mp h]
  · rw [Element.runs_text]

mutual

theorem elementRuns_elements :
    (node : Node) → elementRuns (scope.elements node) = node.leafRuns scope false
  | .document content => by
    rw [elements, elementRuns_flow content, Node.leafRuns]
    rfl
  | .paragraph align content => by
    rw [elements, Node.leafRuns]
    split
    · next h =>
      rw [elementRuns_cons, runs_inlineParagraph, elementRuns_nil, List.append_nil,
        leafRunsOf_of_allFlowInline scope content h]
      rfl
    · -- a paragraph around block nodes is a box
      rw [elementRuns_cons, Element.runs_box, elementRuns_flow content, elementRuns_nil,
        List.append_nil]
      rfl
  | .heading level align content => by
    rw [elements, elementRuns_cons, Element.runs_text, elementRuns_nil, List.append_nil,
      Node.leafRuns, leafRunsOf_inHeading]
    rfl
  | .bulletList items => by
    rw [elements, elementRuns_cons, Element.runs_list, itemRuns_listItems _ _ items,
      elementRuns_nil, List.append_nil]
    rfl
  | .orderedList start items => by
    rw [elements, elementRuns_cons, Element.runs_list, itemRuns_listItems _ _ items,
      elementRuns_nil, List.append_nil]
    rfl
  | .listItem content => by
    rw [elements, Node.leafRuns]
    split
    · next e h =>
      rw [elementRuns_cons, runs_soleParagraph scope h, elementRuns_nil, List.append_nil]
      rfl
    · rw [elementRuns_flow content]
      rfl
  | .blockquote content => by
    rw [elements, elementRuns_cons, Element.runs_box, elementRuns_quotedElements,
      elementRuns_flow content, elementRuns_nil, List.append_nil]
    rfl
  | .horizontalRule => rfl
  | .dynamicBlock name config => by
    rw [elements, elementRuns_blockElements]
    rfl
  | .unknown _ content => by
    rw [elements, elementRuns_flow content]
    rfl
  | .text text marks => by
    rw [elements, elementRuns_textOfRuns]
    rfl
  | .hardBreak => by
    rw [elements, elementRuns_textOfRuns]
    rfl
  | .variable id label => by
    rw [elements, elementRuns_textOfRuns, Node.leafRuns, variableLeaf_eq]

/-- Siblings put out what is pending before their own content, and nothing is left pending. -/
theorem elementRuns_flow {base : TextBlock} {pending : List Run} :
    (nodes : List Node) →
      elementRuns (scope.flow base pending nodes) = pending ++ leafRunsOf scope false nodes
  | [] => by
    rw [flow, elementRuns_textOfRuns, leafRunsOf, List.append_nil]
  | node :: rest => by
    rw [flow, leafRunsOf]
    split
    · -- the runs of an inline node stay pending: they are put out later, but in the same order
      next h =>
      rw [elementRuns_flow rest, Node.leafRuns_of_flowsInline scope node h, List.append_assoc]
    · -- any other node first puts out what is pending
      rw [elementRuns_append, elementRuns_append, elementRuns_textOfRuns,
        elementRuns_elements node, elementRuns_flow rest, List.nil_append]

theorem itemRuns_listItems (first : Option Nat) (position : Nat) :
    (nodes : List Node) →
      itemRuns (scope.listItems first position nodes) = leafRunsOf scope false nodes
  | [] => rfl
  | node :: rest => by
    rw [listItems, itemRuns_cons, itemRuns_listItems first (position + 1) rest, leafRunsOf]
    split
    · next h => rw [elementRuns_textOfRuns, Node.leafRuns_of_flowsInline scope node h]
    · rw [elementRuns_elements node]

end

end Scope

end Letterhead
