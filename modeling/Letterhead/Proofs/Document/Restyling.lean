import Letterhead.Document.Stationery

/-!
# Documents in another style

A change of style maps the parts of elements and leaves their structure alone. A quotation is such a
change; so is the one that takes all colours and fonts away. What the walk over a template puts out
in one style, or in one place of the page, is after that change what it puts out in any other.

* `Restyling`, `Element.restyled`, `restyledElements` — changes of style;
* `Restyling.quotation`, `quotedElements_eq_restyled` — the change that quoting is;
* `Restyling.unbranding`, `SameButBrand` — the change that takes colours and fonts away, and
  elements that are the same after it;
* `sameButBrand_data` — a dynamic block in two styles;
* `Scope.sameButBrand_render` — a template in two styles and places;
* `Scope.sameButBrand_header`, `Scope.sameButBrand_footer` — a header and a footer in two styles.
-/

namespace Letterhead

/-! ### Changes of style -/

/-- A change of style, by what it does to the parts of elements. -/
structure Restyling where
  text : TextBlock → TextBlock
  frame : BoxStyle → BoxStyle
  ruleColor : Color → Color
  thickness : Float32 → Float32
  cell : Cell → Cell

mutual

/-- An element in another style. -/
def Element.restyled (s : Restyling) : Element → Element
  | .text block => .text (s.text block)
  | .box style children => .box (s.frame style) (restyledElements s children)
  | .list ordered items => .list ordered (restyledItems s items)
  | .divider color thickness => .divider (s.ruleColor color) (s.thickness thickness)
  | .table columns rows => .table columns (rows.map (·.map s.cell))
  | .spacer height => .spacer height

/-- Element by element. -/
def restyledElements (s : Restyling) : List Element → List Element
  | [] => []
  | e :: es => e.restyled s :: restyledElements s es

/-- Item by item. -/
def restyledItems (s : Restyling) : List Item → List Item
  | [] => []
  | .mk marker children :: items =>
    .mk marker (restyledElements s children) :: restyledItems s items

end

section Restyled

variable (s t : Restyling)

@[simp] theorem Element.restyled_text (b : TextBlock) :
    (Element.text b).restyled s = .text (s.text b) := by
  rw [Element.restyled]

@[simp] theorem Element.restyled_box (style : BoxStyle) (children : List Element) :
    (Element.box style children).restyled s =
      .box (s.frame style) (restyledElements s children) := by
  rw [Element.restyled]

@[simp] theorem Element.restyled_list (ordered : Bool) (items : List Item) :
    (Element.list ordered items).restyled s = .list ordered (restyledItems s items) := by
  rw [Element.restyled]

@[simp] theorem Element.restyled_divider (color : Color) (thickness : Float32) :
    (Element.divider color thickness).restyled s =
      .divider (s.ruleColor color) (s.thickness thickness) := by
  rw [Element.restyled]

@[simp] theorem Element.restyled_table (columns : List Column) (rows : List (List Cell)) :
    (Element.table columns rows).restyled s = .table columns (rows.map (·.map s.cell)) := by
  rw [Element.restyled]

@[simp] theorem Element.restyled_spacer (height : Float32) :
    (Element.spacer height).restyled s = .spacer height := by
  rw [Element.restyled]

@[simp] theorem restyledElements_nil : restyledElements s [] = [] := by
  rw [restyledElements]

@[simp] theorem restyledElements_cons (e : Element) (es : List Element) :
    restyledElements s (e :: es) = e.restyled s :: restyledElements s es := by
  rw [restyledElements]

@[simp] theorem restyledElements_append (es fs : List Element) :
    restyledElements s (es ++ fs) = restyledElements s es ++ restyledElements s fs := by
  induction es with
  | nil => rw [List.nil_append, restyledElements_nil, List.nil_append]
  | cons e es ih =>
    rw [List.cons_append, restyledElements_cons, restyledElements_cons, ih, List.cons_append]

@[simp] theorem restyledItems_nil : restyledItems s [] = [] := by
  rw [restyledItems]

@[simp] theorem restyledItems_cons (marker : String) (children : List Element)
    (items : List Item) :
    restyledItems s (.mk marker children :: items) =
      .mk marker (restyledElements s children) :: restyledItems s items := by
  rw [restyledItems]

/-- One change of style, and then another. -/
def Restyling.andThen : Restyling where
  text := t.text ∘ s.text
  frame := t.frame ∘ s.frame
  ruleColor := t.ruleColor ∘ s.ruleColor
  thickness := t.thickness ∘ s.thickness
  cell := t.cell ∘ s.cell

end Restyled

mutual

theorem Element.restyled_restyled (s t : Restyling) :
    (e : Element) → (e.restyled s).restyled t = e.restyled (s.andThen t)
  | .text block => by
    rw [Element.restyled_text, Element.restyled_text, Element.restyled_text]
    rfl
  | .box style children => by
    rw [Element.restyled_box, Element.restyled_box, Element.restyled_box,
      restyledElements_restyledElements s t children]
    rfl
  | .list ordered items => by
    rw [Element.restyled_list, Element.restyled_list, Element.restyled_list,
      restyledItems_restyledItems s t items]
  | .divider color thickness => by
    rw [Element.restyled_divider, Element.restyled_divider, Element.restyled_divider]
    rfl
  | .table columns rows => by
    rw [Element.restyled_table, Element.restyled_table, Element.restyled_table, List.map_map]
    congr 2
    funext row
    exact List.map_map ..
  | .spacer _ => by
    rw [Element.restyled_spacer, Element.restyled_spacer, Element.restyled_spacer]

/-- Two changes of style are one. -/
theorem restyledElements_restyledElements (s t : Restyling) :
    (es : List Element) →
      restyledElements t (restyledElements s es) = restyledElements (s.andThen t) es
  | [] => by
    rw [restyledElements, restyledElements, restyledElements]
  | e :: es => by
    rw [restyledElements, restyledElements, restyledElements, Element.restyled_restyled s t e,
      restyledElements_restyledElements s t es]

theorem restyledItems_restyledItems (s t : Restyling) :
    (items : List Item) →
      restyledItems t (restyledItems s items) = restyledItems (s.andThen t) items
  | [] => by
    rw [restyledItems_nil, restyledItems_nil, restyledItems_nil]
  | .mk marker children :: items => by
    rw [restyledItems_cons, restyledItems_cons, restyledItems_cons,
      restyledElements_restyledElements s t children, restyledItems_restyledItems s t items]

end

/-! ### Quotations -/

/-- The change of style that quoting is. -/
def Restyling.quotation : Restyling where
  text := TextBlock.quoted
  frame := id
  ruleColor := id
  thickness := id
  cell := Cell.quoted

mutual

theorem Element.quoted_eq_restyled : (e : Element) → e.quoted = e.restyled .quotation
  | .text block => by
    rw [Element.quoted, Element.restyled_text]
    rfl
  | .box style children => by
    rw [Element.quoted, Element.restyled_box, quotedElements_eq_restyled children]
    rfl
  | .list ordered items => by
    rw [Element.quoted, Element.restyled_list, quotedItems_eq_restyled items]
  | .divider color thickness => by
    rw [Element.quoted, Element.restyled_divider]
    rfl
  | .table columns rows => by
    rw [Element.quoted, Element.restyled_table]
    rfl
  | .spacer _ => by
    rw [Element.quoted, Element.restyled_spacer]

/-- Quoting changes the style of elements and nothing else. -/
theorem quotedElements_eq_restyled :
    (es : List Element) → quotedElements es = restyledElements .quotation es
  | [] => by
    rw [quotedElements, restyledElements]
  | e :: es => by
    rw [quotedElements, restyledElements, Element.quoted_eq_restyled e,
      quotedElements_eq_restyled es]

theorem quotedItems_eq_restyled :
    (items : List Item) → quotedItems items = restyledItems .quotation items
  | [] => by
    rw [quotedItems, restyledItems_nil]
  | .mk marker children :: items => by
    rw [quotedItems, restyledItems_cons, quotedElements_eq_restyled children,
      quotedItems_eq_restyled items]

end

/-! ### Without colours and fonts -/

/-- What stands for any colour and any font once they are taken away. -/
def blankName : String := ""

/-- A run whose colours are blank. -/
def Run.unbranded (r : Run) : Run :=
  { r with
    color := r.color.map fun _ => blankName
    background := r.background.map fun _ => blankName }

/-- The change of style that makes all colours and fonts blank, where there are any. -/
def Restyling.unbranding : Restyling where
  text b :=
    { b with
      runs := b.runs.map Run.unbranded, color := blankName, font := b.font.map fun _ => blankName }
  frame s :=
    { s with
      borderLeft := s.borderLeft.map fun _ => blankName
      border := s.border.map fun _ => blankName
      background := s.background.map fun _ => blankName }
  ruleColor _ := blankName
  thickness := id
  cell c :=
    { c with runs := c.runs.map Run.unbranded, background := c.background.map fun _ => blankName }

/-- Elements that differ in nothing but colours and fonts. -/
def SameButBrand (es fs : List Element) : Prop :=
  restyledElements .unbranding es = restyledElements .unbranding fs

/-- A quotation is the same whether colours and fonts are taken away before it too or only after
it. -/
theorem Restyling.quotation_andThen_unbranding :
    quotation.andThen unbranding = unbranding.andThen (quotation.andThen unbranding) := by
  have hruns : ∀ runs : List Run, (runs.map Run.quoted).map Run.unbranded =
      ((runs.map Run.unbranded).map Run.quoted).map Run.unbranded := by
    intro runs
    rw [List.map_map, List.map_map, List.map_map]
    apply List.map_congr_left
    intro r _
    simp [Run.quoted, Run.unbranded, Function.comp_def]
  unfold andThen unbranding quotation
  congr 1
  · funext b
    simp only [Function.comp_apply, TextBlock.quoted, Option.map_map]
    rw [hruns]
    rfl
  · funext s
    simp [Function.comp_def]
  · funext c
    simp only [Function.comp_apply, Cell.quoted, Option.map_map]
    rw [hruns]
    rfl

namespace SameButBrand

variable {e e' : Element} {es es' fs fs' : List Element}

theorem refl (es : List Element) : SameButBrand es es := rfl

theorem cons (h : e.restyled .unbranding = e'.restyled .unbranding) (h' : SameButBrand es es') :
    SameButBrand (e :: es) (e' :: es') := by
  unfold SameButBrand at *
  rw [restyledElements_cons, restyledElements_cons, h, h']

theorem append (h : SameButBrand es es') (h' : SameButBrand fs fs') :
    SameButBrand (es ++ fs) (es' ++ fs') := by
  unfold SameButBrand at *
  rw [restyledElements_append, restyledElements_append, h, h']

/-- Elements that are built in two ways. -/
theorem map {α : Type} {build build' : α → Element}
    (h : ∀ x, (build x).restyled .unbranding = (build' x).restyled .unbranding) (xs : List α) :
    SameButBrand (xs.map build) (xs.map build') := by
  induction xs with
  | nil => exact refl []
  | cons x xs ih => exact cons (h x) ih

theorem toList {α : Type} {build build' : α → Element}
    (h : ∀ x, (build x).restyled .unbranding = (build' x).restyled .unbranding) (x : Option α) :
    SameButBrand (x.map build).toList (x.map build').toList := by
  cases x with
  | none => exact refl []
  | some a => exact cons (h a) (refl [])

theorem box {style style' : BoxStyle}
    (hstyle : Restyling.unbranding.frame style = Restyling.unbranding.frame style')
    (h : SameButBrand es es') :
    (Element.box style es).restyled .unbranding =
      (Element.box style' es').restyled .unbranding := by
  rw [Element.restyled_box, Element.restyled_box, hstyle, h]

/-- What is the same but for colours and fonts is so when it is quoted. -/
theorem quoted (h : SameButBrand es fs) : SameButBrand (quotedElements es) (quotedElements fs) := by
  -- colours and fonts can be taken away before quoting, where the two are the same
  have hquoted : ∀ es, restyledElements .unbranding (quotedElements es) =
      restyledElements (.andThen .quotation .unbranding) (restyledElements .unbranding es) := by
    intro es
    rw [quotedElements_eq_restyled, restyledElements_restyledElements,
      restyledElements_restyledElements, ← Restyling.quotation_andThen_unbranding]
  unfold SameButBrand at *
  rw [hquoted, hquoted, h]

end SameButBrand

/-! ### Dynamic blocks -/

section Blocks

variable (style style' : BrandStyle)

theorem restyled_brandedLine (size : Float32) (text : String) :
    (brandedLine style size text).restyled .unbranding =
      (brandedLine style' size text).restyled .unbranding := by
  rw [brandedLine, brandedLine, Element.restyled_text, Element.restyled_text]
  rfl

theorem restyled_textElement (runs : List Run) (color color' : Color) (size : Float32) :
    (textElement runs color size).restyled .unbranding =
      (textElement runs color' size).restyled .unbranding := by
  rw [textElement, textElement, Element.restyled_text, Element.restyled_text]
  rfl

theorem sameButBrand_companyElements (s : Summary) :
    SameButBrand (companyElements style s) (companyElements style' s) := by
  unfold companyElements
  split
  · exact .refl []
  · have htitle := SameButBrand.toList (restyled_brandedLine style style' Size.heading) s.title
    exact .cons (SameButBrand.box rfl (htitle.append (.refl _))) (.refl [])

theorem sameButBrand_summaryElements (captionText : String) (s : Summary) :
    SameButBrand (summaryElements style captionText s) (summaryElements style' captionText s) := by
  unfold summaryElements
  split
  · exact .refl []
  · have hcaption := restyled_brandedLine style style' Size.subheading captionText
    exact .cons (SameButBrand.box rfl (.cons hcaption (.refl _))) (.refl [])

theorem restyled_launchPanel (line : ServiceLine) :
    (launchPanel style line).restyled .unbranding =
      (launchPanel style' line).restyled .unbranding := by
  have hprice : (textElement (launchPrice style line) .ink Size.subheading).restyled .unbranding =
      (textElement (launchPrice style' line) .ink Size.subheading).restyled .unbranding := by
    rw [textElement, textElement, Element.restyled_text, Element.restyled_text]
    unfold launchPrice
    cases line.discount <;> rfl
  refine SameButBrand.box rfl ?_
  exact .append (.cons (restyled_textElement _ _ _ _) (.refl _)) (.cons hprice (.refl _))

theorem restyled_feePanel (line : ServiceLine) :
    (feePanel style line).restyled .unbranding = (feePanel style' line).restyled .unbranding := by
  have hfee : (textElement (feeText style line) .ink Size.subheading).restyled .unbranding =
      (textElement (feeText style' line) .ink Size.subheading).restyled .unbranding := by
    rw [textElement, textElement, Element.restyled_text, Element.restyled_text]
    unfold feeText
    cases line.feeRate <;> rfl
  exact SameButBrand.box rfl (.cons rfl (.cons hfee (.refl _)))

theorem sameButBrand_serviceElements (t : ServiceTable) :
    SameButBrand (serviceElements style t) (serviceElements style' t) := by
  have hcaption := restyled_brandedLine style style' Size.subheading "Setup services"
  unfold serviceElements
  split
  · exact .refl _
  · refine .append (.append ?_ (.map (restyled_launchPanel style style') t.launch))
      (.map (restyled_feePanel style style') t.management)
    split
    · exact .refl []
    · exact .cons hcaption (.refl _)

theorem restyled_totalsTable (t : Totals) :
    (totalsTable style t).restyled .unbranding = (totalsTable style' t).restyled .unbranding := by
  rw [totalsTable, totalsTable, Element.restyled_table, Element.restyled_table]
  cases t.discount <;> rfl

/-- A dynamic block in two styles: its structure and its texts depend on its data only. -/
theorem sameButBrand_data (data : BlockData) :
    SameButBrand (data.elements style) (data.elements style') := by
  cases data with
  | company s => exact sameButBrand_companyElements style style' s
  | client s => exact sameButBrand_summaryElements style style' _ s
  | property s => exact sameButBrand_summaryElements style style' _ s
  | services t => exact sameButBrand_serviceElements style style' t
  | totals t => exact .toList (restyled_totalsTable style style') t
  | validity v => exact .refl _
  | terms clauses => exact .cons (restyled_brandedLine style style' _ _) (.refl _)
  | signatures s => exact .refl _
  | note n => exact .refl _
  | separator => exact .refl _

theorem sameButBrand_blockElements (context : Context) (name : String) (config : BlockConfig) :
    SameButBrand (blockElements style context name config)
      (blockElements style' context name config) := by
  unfold blockElements
  split
  · exact sameButBrand_data style style' _
  · exact .refl []

theorem restyled_brandRule :
    (brandRule style).restyled .unbranding = (brandRule style').restyled .unbranding := by
  rw [brandRule, brandRule, Element.restyled_divider, Element.restyled_divider]
  rfl

theorem sameButBrand_companyHeader (c : Company) :
    SameButBrand (companyHeader style c) (companyHeader style' c) := by
  unfold companyHeader
  exact .append (.toList (restyled_brandedLine style style' _) _)
    (.toList (fun t => restyled_textElement _ _ _ _) _)

theorem sameButBrand_companyFooter (c : Company) :
    SameButBrand (companyFooter style c) (companyFooter style' c) := by
  refine .toList (fun t => ?_) _
  rw [Element.restyled_text, Element.restyled_text]
  rfl

end Blocks

/-! ### Templates -/

theorem sameButBrand_text {b b' : TextBlock}
    (h : Restyling.unbranding.text b = Restyling.unbranding.text b') :
    SameButBrand [.text b] [.text b'] := by
  refine .cons ?_ (.refl [])
  rw [Element.restyled_text, Element.restyled_text, h]

namespace Scope

variable {s t : Scope}

theorem sameButBrand_textOfRuns (align : Align) (runs : List Run) :
    SameButBrand (textOfRuns (s.paragraph align) runs) (textOfRuns (t.paragraph align) runs) := by
  unfold textOfRuns
  split
  · exact .refl []
  · exact sameButBrand_text rfl

theorem sameButBrand_inlineParagraph (h : s.context = t.context) (align : Align)
    (content : List Node) :
    SameButBrand [s.inlineParagraph align content] [t.inlineParagraph align content] := by
  unfold inlineParagraph
  rw [h]
  dsimp only
  split
  · exact .refl _
  · exact sameButBrand_text rfl

/-- A list item is a single paragraph in every style or in none. -/
theorem sameButBrand_soleParagraph (h : s.context = t.context) (content : List Node) :
    s.soleParagraph? content = none ∧ t.soleParagraph? content = none ∨
      ∃ e e', s.soleParagraph? content = some e ∧ t.soleParagraph? content = some e' ∧
        SameButBrand [e] [e'] := by
  unfold soleParagraph?
  rw [h]
  split
  · split
    · exact Or.inr ⟨_, _, rfl, rfl, sameButBrand_text rfl⟩
    · exact Or.inl ⟨rfl, rfl⟩
  · exact Or.inl ⟨rfl, rfl⟩

mutual

theorem sameButBrand_elements (h : s.context = t.context) :
    (node : Node) → SameButBrand (s.elements node) (t.elements node)
  | .document content => by
    rw [elements, elements]
    exact sameButBrand_flow h .left [] content
  | .paragraph align content => by
    rw [elements, elements]
    split
    · exact sameButBrand_inlineParagraph h _ content
    · exact .cons (SameButBrand.box rfl (sameButBrand_flow h _ [] content)) (.refl [])
  | .heading level align content => by
    rw [elements, elements, h]
    exact sameButBrand_text rfl
  | .bulletList items => by
    rw [elements, elements]
    refine .cons ?_ (.refl [])
    rw [Element.restyled_list, Element.restyled_list, restyled_listItems h none 0 items]
  | .orderedList start items => by
    rw [elements, elements]
    refine .cons ?_ (.refl [])
    rw [Element.restyled_list, Element.restyled_list, restyled_listItems h _ 0 items]
  | .listItem content => by
    rw [elements, elements]
    rcases sameButBrand_soleParagraph h content with ⟨hs, ht⟩ | ⟨e, e', hs, ht, hsame⟩
    · rw [hs, ht]
      exact sameButBrand_flow h .left [] content
    · rw [hs, ht]
      exact hsame
  | .blockquote content => by
    rw [elements, elements]
    exact .cons (SameButBrand.box rfl (sameButBrand_flow h .left [] content).quoted) (.refl [])
  | .horizontalRule => by
    rw [elements, elements]
    refine .cons ?_ (.refl [])
    rw [Element.restyled_divider, Element.restyled_divider]
    rfl
  | .dynamicBlock name config => by
    rw [elements, elements, h]
    exact sameButBrand_blockElements s.style t.style t.context name config
  | .unknown _ content => by
    rw [elements, elements]
    exact sameButBrand_flow h .left [] content
  | .text text marks => by
    rw [elements, elements]
    exact sameButBrand_textOfRuns .left _
  | .hardBreak => by
    rw [elements, elements]
    exact sameButBrand_textOfRuns .left _
  | .variable id label => by
    rw [elements, elements, h]
    exact sameButBrand_textOfRuns .left _

theorem sameButBrand_flow (h : s.context = t.context) (align : Align) (pending : List Run) :
    (nodes : List Node) →
      SameButBrand (s.flow (s.paragraph align) pending nodes)
        (t.flow (t.paragraph align) pending nodes)
  | [] => by
    rw [flow, flow]
    exact sameButBrand_textOfRuns align pending
  | node :: rest => by
    rw [flow, flow, h]
    -- whether a node flows inline, and its runs, are the same in every style
    split
    · exact sameButBrand_flow h align _ rest
    · exact (sameButBrand_textOfRuns align pending).append
        ((sameButBrand_elements h node).append (sameButBrand_flow h align [] rest))

theorem restyled_listItems (h : s.context = t.context) (first : Option Nat) (position : Nat) :
    (nodes : List Node) →
      restyledItems .unbranding (s.listItems first position nodes) =
        restyledItems .unbranding (t.listItems first position nodes)
  | [] => by
    rw [listItems, listItems]
  | node :: rest => by
    rw [listItems, listItems, restyledItems_cons, restyledItems_cons, h,
      restyled_listItems h first (position + 1) rest]
    congr 2
    split
    · exact sameButBrand_textOfRuns .left _
    · exact sameButBrand_elements h node

end

/-- **Style shows in colours and fonts only.** In one context, nodes give the same elements in any
two styles and in any two places of the page, but for their colours and fonts. -/
theorem sameButBrand_render (h : s.context = t.context) (nodes : List Node) :
    SameButBrand (s.render nodes) (t.render nodes) := by
  unfold render
  exact sameButBrand_flow h .left [] nodes

theorem sameButBrand_header (h : s.context = t.context) : SameButBrand s.header t.header := by
  unfold header
  rw [h]
  split
  · exact sameButBrand_render h _
  · refine .append ?_ (.cons (restyled_brandRule _ _) (.refl []))
    cases t.context.company with
    | none => exact .refl []
    | some company => exact sameButBrand_companyHeader _ _ company

theorem sameButBrand_footer (h : s.context = t.context) : SameButBrand s.footer t.footer := by
  unfold footer
  rw [h]
  split
  · exact sameButBrand_render h _
  · refine .cons (restyled_brandRule _ _) ?_
    cases t.context.company with
    | none => exact .refl []
    | some company => exact sameButBrand_companyFooter _ _ company

end Scope

end Letterhead
