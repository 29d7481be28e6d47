import Letterhead.Page.Sheets
import Letterhead.Proofs.Document.Restyling

/-!
# Plain text shows no brand

The lines of a document show its structure, the sizes of its texts, and which boxes have borders.
What they do not show can be taken away, and the pages stay the same. So the pages of a template do
not depend on the brand of the company.

* `Restyling.bare`, `Document.bare` — what is left when all is taken away that lines do not show;
* `Element.lines_bare`, `Document.pages_bare` — the lines and the pages stay;
* `Document.pages_congr` — documents that differ in nothing else have the same pages;
* `Template.pages_renderIn` — in any two styles a template has the same pages.
-/

namespace Letterhead

/-! ### What lines show -/

/-- What lines show of a run. -/
def Run.bare (r : Run) : Run :=
  { text := r.text, strike := r.strike }

/-- The change of style that takes away what lines do not show: colours, fonts, fills, paddings, the
thickness of rules, and of runs all but the strokes. A border loses its colour but stays. -/
def Restyling.bare : Restyling where
  text b := { b with runs := b.runs.map Run.bare, color := blankName, font := none }
  frame s :=
    { borderLeft := s.borderLeft.map fun _ => blankName
      border := s.border.map fun _ => blankName }
  ruleColor _ := blankName
  thickness _ := 0.0
  cell c := { c with runs := c.runs.map Run.bare, background := none }

/-- A region in another style. -/
def Region.restyled (s : Restyling) (r : Region) : Region :=
  { r with children := restyledElements s r.children }

/-- What lines show of a document: the setup of its page is taken away too. -/
def Document.bare (d : Document) : Document where
  page := { font := blankName, fontSize := 0.0, color := blankName }
  header := d.header.map (·.restyled .bare)
  body := d.body.restyled .bare
  footer := d.footer.map (·.restyled .bare)

/-! ### Lines -/

theorem struckText_bare (runs : List Run) : struckText (runs.map Run.bare) = struckText runs := by
  unfold struckText
  rw [List.flatMap_map]
  rfl

theorem TextBlock.lines_bare (b : TextBlock) (width : Nat) (above : Line) :
    (Restyling.bare.text b).lines width above = b.lines width above := by
  have hshown : (Restyling.bare.text b).shownText = b.shownText := by
    have htext : struckText (Restyling.bare.text b).runs = struckText b.runs :=
      struckText_bare b.runs
    unfold shownText
    rw [htext]
    rfl
  unfold lines
  rw [hshown]
  rfl

theorem BoxStyle.innerWidth_bare (s : BoxStyle) (width : Nat) :
    (Restyling.bare.frame s).innerWidth width = s.innerWidth width := by
  unfold innerWidth Restyling.bare
  rw [Option.isSome_map, Option.isSome_map]

theorem BoxStyle.around_bare (s : BoxStyle) (width : Nat) (lines : List Line) :
    (Restyling.bare.frame s).around width lines = s.around width lines := by
  unfold around
  rw [innerWidth_bare]
  unfold Restyling.bare
  rw [Option.isSome_map, Option.isSome_map]

theorem GridCell.ofCell_bare (width : Nat) (align : Align) (c : Cell) :
    GridCell.ofCell width align (Restyling.bare.cell c) = GridCell.ofCell width align c := by
  have htext : struckText (Restyling.bare.cell c).runs = struckText c.runs := struckText_bare c.runs
  unfold ofCell
  rw [htext]
  rfl

theorem slotsOf_bare (widths : List Nat) (columns : List Column) (cells : List Cell) :
    slotsOf widths columns (cells.map Restyling.bare.cell) = slotsOf widths columns cells := by
  induction widths generalizing columns cells with
  | nil => cases cells <;> rfl
  | cons w ws ih =>
    cases columns with
    | nil => cases cells <;> rfl
    | cons c cs =>
      cases cells with
      | nil => rfl
      | cons cell cells =>
        rw [List.map_cons, slotsOf, slotsOf, GridCell.ofCell_bare, ih]

theorem tableLines_bare (width : Nat) (columns : List Column) (rows : List (List Cell)) :
    tableLines width columns (rows.map (·.map Restyling.bare.cell)) =
      tableLines width columns rows := by
  have hcolumns : gridColumns columns (rows.map (·.map Restyling.bare.cell)) =
      gridColumns columns rows := by
    unfold gridColumns columnCount
    simp only [List.foldl_map, List.length_map]
  unfold tableLines
  rw [hcolumns, List.flatMap_map]
  simp only [slotsOf_bare]

mutual

theorem Element.lines_bare (width : Nat) (above : Line) :
    (e : Element) → (e.restyled .bare).lines width above = e.lines width above
  | .text block => by
    rw [Element.restyled_text, Element.lines, Element.lines, TextBlock.lines_bare]
  | .box style children => by
    rw [Element.restyled_box, Element.lines, Element.lines, BoxStyle.innerWidth_bare,
      linesFrom_bare _ _ children, BoxStyle.around_bare]
  | .list ordered items => by
    rw [Element.restyled_list, Element.lines, Element.lines, itemLines_bare width items]
  | .divider color thickness => by
    rw [Element.restyled_divider, Element.lines, Element.lines]
  | .table columns rows => by
    rw [Element.restyled_table, Element.lines, Element.lines, tableLines_bare]
  | .spacer height => by
    rw [Element.restyled_spacer]

/-- Taking away what lines do not show leaves the lines as they are. -/
theorem linesFrom_bare (width : Nat) (above : Line) :
    (es : List Element) →
      linesFrom width above (restyledElements .bare es) = linesFrom width above es
  | [] => by
    rw [restyledElements_nil]
  | e :: es => by
    rw [restyledElements_cons, linesFrom, linesFrom, Element.lines_bare width above e,
      linesFrom_bare width _ es]

theorem itemLines_bare (width : Nat) :
    (items : List Item) → itemLines width (restyledItems .bare items) = itemLines width items
  | [] => by
    rw [restyledItems_nil]
  | .mk marker children :: items => by
    rw [restyledItems_cons, itemLines, itemLines, linesFrom_bare _ _ children,
      itemLines_bare width items]

end

/-! ### Pages -/

theorem Region.lines_bare (width : Nat) (r : Region) :
    (r.restyled .bare).lines width = r.lines width :=
  linesFrom_bare width [] r.children

namespace Document

/-- Taking away what lines do not show leaves the pages as they are. -/
theorem pages_bare (size : PageSize) (d : Document) : d.bare.pages size = d.pages size := by
  have hregion : ∀ r : Option Region,
      regionLines size.columns (r.map (·.restyled .bare)) = regionLines size.columns r := by
    intro r
    cases r with
    | none => rfl
    | some r => exact r.lines_bare size.columns
  have hbody : d.bare.body.lines size.columns = d.body.lines size.columns :=
    d.body.lines_bare size.columns
  have hheader : regionLines size.columns d.bare.header = regionLines size.columns d.header :=
    hregion d.header
  have hfooter : regionLines size.columns d.bare.footer = regionLines size.columns d.footer :=
    hregion d.footer
  unfold pages
  rw [hbody, hheader, hfooter]

/-- Documents that differ in nothing that lines show have the same pages, or the same error. -/
theorem pages_congr {d d' : Document} (h : d.bare = d'.bare) (size : PageSize) :
    d.pages size = d'.pages size := by
  rw [← pages_bare size d, h, pages_bare]

end Document

/-! ### Brands -/

/-- What lines do not show comprises all colours and fonts. -/
theorem Restyling.unbranding_andThen_bare : unbranding.andThen bare = bare := by
  have hruns : ∀ runs : List Run, (runs.map Run.unbranded).map Run.bare = runs.map Run.bare := by
    intro runs
    rw [List.map_map]
    rfl
  unfold andThen unbranding bare
  congr 1
  · funext b
    simp only [Function.comp_apply]
    rw [hruns]
  · funext s
    simp [Function.comp_def]
  · funext c
    simp only [Function.comp_apply]
    rw [hruns]

theorem SameButBrand.bare {es fs : List Element} (h : SameButBrand es fs) :
    restyledElements .bare es = restyledElements .bare fs := by
  rw [← Restyling.unbranding_andThen_bare, ← restyledElements_restyledElements, h,
    restyledElements_restyledElements]

namespace Template

/-- A template has the same pages in any two styles. -/
theorem pages_renderIn (style style' : BrandStyle) (t : Template) (context : Context)
    (margins : Bool) (size : PageSize) :
    (t.renderIn style context margins).pages size =
      (t.renderIn style' context margins).pages size := by
  have hbody := (Scope.sameButBrand_render (s := ⟨context, style, .body⟩)
    (t := ⟨context, style', .body⟩) rfl t.content).bare
  have hheader := (Scope.sameButBrand_header (s := ⟨context, style, .margin⟩)
    (t := ⟨context, style', .margin⟩) rfl).bare
  have hfooter := (Scope.sameButBrand_footer (s := ⟨context, style, .margin⟩)
    (t := ⟨context, style', .margin⟩) rfl).bare
  apply Document.pages_congr
  unfold renderIn Document.bare
  cases margins with
  | false => simp [Region.restyled, hbody]
  | true => simp [Region.restyled, hbody, hheader, hfooter]

end Template

/-- **Plain text shows no brand.** In one context, nodes give the same elements in any two styles
and in any two places of the page, but for their colours and fonts; and documents that differ in
nothing that lines show have the same pages, or the same error, on pages of every size. -/
theorem layout_ignores_brand :
    (∀ (context : Context) (style style' : BrandStyle) (place place' : Place) (nodes : List Node),
      SameButBrand (Scope.render ⟨context, style, place⟩ nodes)
        (Scope.render ⟨context, style', place'⟩ nodes)) ∧
      ∀ d d' : Document, d.bare = d'.bare → ∀ size, d.pages size = d'.pages size := by
  constructor
  · intro context style style' place place' nodes
    apply Scope.sameButBrand_render
    rfl
  · intro d d' h size
    exact Document.pages_congr h size

end Letterhead
