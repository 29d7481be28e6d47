import Letterhead.Block.Data
import Letterhead.Document.Basic

/-!
# The elements of dynamic blocks

* `BlockData.elements` — the elements that show the data of a dynamic block, in the colours and
  fonts of a brand.

A block with nothing to show has no elements.
-/

namespace Letterhead

/-! ### Text -/

/-- A block of runs. -/
def textElement (runs : List Run) (color : Color := .ink) (size : Float32 := Size.body) :
    Element :=
  .text { runs, color, size }

/-- A run in bold. -/
def boldRun (text : String) : Run :=
  { text, bold := true }

/-- A run in italics. -/
def italicRun (text : String) : Run :=
  { text, italic := true }

/-- A price that is struck through. -/
def struckPrice (price : Float) : Run :=
  { text := currencyText price, strike := true, color := some .muted }

/-- A line in the brand's colour and heading font. -/
def brandedLine (style : BrandStyle) (size : Float32) (text : String) : Element :=
  .text
    { runs := [.plain text], size, color := style.primary, font := some style.headingFont,
      bold := true }

/-- The caption of a section. -/
def caption (style : BrandStyle) (text : String) : Element :=
  brandedLine style Size.subheading text

/-! ### Summaries -/

/-- A labelled line. -/
def SummaryLine.element (line : SummaryLine) : Element :=
  textElement [boldRun (line.label ++ ": "), .plain line.value]

/-- The company: its name in the brand's colour above its lines. -/
def companyElements (style : BrandStyle) (s : Summary) : List Element :=
  if s.isEmpty then []
  else
    let title := s.title.map fun name => brandedLine style Size.heading name
    [.box {} (title.toList ++ s.lines.map SummaryLine.element)]

/-- Client or property: a caption, the name and the lines. -/
def summaryElements (style : BrandStyle) (captionText : String) (s : Summary) : List Element :=
  if s.isEmpty then []
  else
    let title := s.title.map fun name => textElement [boldRun name]
    [.box { padding := 6.0 }
      (caption style captionText :: (title.toList ++ s.lines.map SummaryLine.element))]

/-! ### Services -/

/-- A cell with a rule below it. -/
def ruledCell (runs : List Run) : Cell :=
  { runs, border := { bottom := true } }

/-- A cell of the head of a table. -/
def headCell (text : String) : Cell :=
  { runs := [boldRun text], border := { bottom := true }, background := some .panel }

/-- The columns of the table of setup services. -/
def setupColumns : List Column :=
  [⟨4.0, .left⟩, ⟨1.0, .right⟩, ⟨2.0, .right⟩, ⟨2.5, .right⟩]

/-- The head of the table of setup services. -/
def setupHead : List Cell :=
  ["Service", "Qty", "Price", "Total"].map headCell

/-- What stands in the first cell of a setup service: its name, and its description on a line of
its own. -/
def setupName (line : ServiceLine) : List Run :=
  .plain line.name :: (match line.description with
    | some d => [.lineBreak, { text := d, italic := true, color := some .muted }]
    | none => [])

/-- What stands in the last cell of a setup service: its total, after the struck list price if it
has a discount. -/
def setupTotal (line : ServiceLine) : List Run :=
  (if line.discount.isSome then [struckPrice line.listPrice, .plain " "] else []) ++
    [.plain (currencyText line.total)]

/-- The row of a setup service. -/
def setupRow (line : ServiceLine) : List Cell :=
  [ruledCell (setupName line), ruledCell [.plain (numberText line.quantity)],
    ruledCell [.plain ((line.unitPrice.map currencyText).getD "")], ruledCell (setupTotal line)]

/-- The last row of the table of setup services. -/
def subtotalRow (subtotal : Float) : List Cell :=
  [{ runs := [boldRun "Subtotal"] }, {}, {}, { runs := [boldRun (currencyText subtotal)] }]

/-- The table of setup services. -/
def setupTable (t : ServiceTable) : Element :=
  .table setupColumns (setupHead :: (t.setup.map setupRow ++ [subtotalRow t.setupSubtotal]))

/-- A text of a service, if it has one. -/
def extraText (text : Option String) (build : String → Element) : List Element :=
  (text.map build).toList

/-- The price of a launch: with a discount, the struck list price, the price, and the saving. -/
def launchPrice (style : BrandStyle) (line : ServiceLine) : List Run :=
  match line.discount with
  | some discount =>
    [struckPrice line.listPrice, .plain "  ", boldRun (currencyText line.total), .plain "  ",
      { text := "-" ++ percentText discount, bold := true, color := some style.primary }]
  | none => [boldRun (currencyText line.total)]

/-- The panel of a launch. -/
def launchPanel (style : BrandStyle) (line : ServiceLine) : Element :=
  .box { border := some style.primary, background := some .promotion, padding := 10.0 }
    (textElement [boldRun line.name] style.primary ::
      (extraText line.description fun d => textElement [.plain d]) ++
      textElement (launchPrice style line) .ink Size.subheading ::
      (extraText line.note fun n => textElement [italicRun n] .muted Size.small))

/-- The fee of a management service: a rate, never an amount. -/
def feeText (style : BrandStyle) (line : ServiceLine) : List Run :=
  match line.feeRate with
  | some rate =>
    [{ text := percentText rate, bold := true, color := some style.primary },
      .plain " of net booking revenue"]
  | none => [italicRun "Fee to be agreed"]

/-- The panel of a management service. -/
def feePanel (style : BrandStyle) (line : ServiceLine) : Element :=
  .box { borderLeft := some style.primary, background := some .panel, padding := 10.0 }
    (textElement [boldRun line.name] ::
      textElement (feeText style line) .ink Size.subheading ::
      ((extraText line.description fun d => textElement [.plain d] .muted) ++
        extraText line.note fun n => textElement [.plain n] .muted))

/-- The services: the table of those that set up, then a panel for each other one. -/
def serviceElements (style : BrandStyle) (t : ServiceTable) : List Element :=
  if t.isEmpty then [textElement [italicRun "No services included in this proposal."] .muted]
  else
    (if t.setup.isEmpty then [] else [caption style "Setup services", setupTable t]) ++
      t.launch.map (launchPanel style) ++ t.management.map (feePanel style)

/-! ### The other blocks -/

/-- A plain row of the totals. -/
def totalsRow (label amount : String) : List Cell :=
  [.plain label, .plain amount]

/-- The totals: the last row in the brand's colour under a rule. -/
def totalsTable (style : BrandStyle) (t : Totals) : Element :=
  let last (text : String) : Cell :=
    { runs := [{ text, bold := true, color := some style.primary }], border := { top := true } }
  .table [⟨3.0, .right⟩, ⟨1.5, .right⟩]
    (totalsRow "Subtotal" t.subtotal ::
      ((t.discount.map (totalsRow "Discount")).toList ++ [[last "Total", last t.total]]))

/-- The numbered clauses of the terms. -/
def clauseItems (first : Nat) : List String → List Item
  | [] => []
  | clause :: rest =>
    .mk (toString first ++ ".") [textElement [.plain clause] .ink Size.clause]
      :: clauseItems (first + 1) rest

/-- The terms. -/
def termElements (style : BrandStyle) (clauses : List String) : List Element :=
  [caption style "Terms and conditions", .list true (clauseItems 1 clauses)]

/-- Two lines to sign on, with their labels below. -/
def signatureTable (s : Signatures) : Element :=
  let signing := ruledCell [.plain "\n\n"]
  let label (text : String) : Cell := { runs := [boldRun text] }
  .table [⟨2.0, .center⟩, ⟨1.0, .center⟩, ⟨2.0, .center⟩]
    [[signing, {}, signing], [label s.left, {}, label s.right]]

/-- A note in its frame, if it has a text. -/
def noteElements (n : Note) : List Element :=
  match n.text with
  | some text =>
    let palette := n.style.palette
    [.box { border := some palette.border, background := some palette.background, padding := 10.0 }
      [textElement [.plain text] palette.text]]
  | none => []

/-- The elements that show the data of a dynamic block. -/
def BlockData.elements (style : BrandStyle) : BlockData → List Element
  | .company s => companyElements style s
  | .client s => summaryElements style "Client" s
  | .property s => summaryElements style "Property" s
  | .services t => serviceElements style t
  | .totals t => (t.map (totalsTable style)).toList
  | .validity v => [textElement [italicRun v.sentence] .muted]
  | .terms clauses => termElements style clauses
  | .signatures s => [signatureTable s]
  | .note n => noteElements n
  | .separator => [.divider .rule 1.0]

/-- The elements of a dynamic block; none if its kind is not known. -/
def blockElements (style : BrandStyle) (context : Context) (name : String)
    (config : BlockConfig) : List Element :=
  match BlockData.resolve name config context with
  | some data => data.elements style
  | none => []

end Letterhead
