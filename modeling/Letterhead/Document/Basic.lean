import Letterhead.Brand.Style

/-!
# Rendered documents

A rendered document is what is left to lay out: a body, and perhaps a header and a footer that
repeat on every page, each a list of elements. The elements are few: blocks of styled text, boxes,
lists, rules, tables and vertical space.

* `Run`, `TextBlock` — styled text;
* `Element`, `Item` — the elements, which nest through boxes and lists;
* `Region`, `PageSetup`, `Document` — the whole;
* `Element.runs`, `Region.plainText` — the text in reading order.

Sizes are in points, as 32-bit floating-point numbers. Column widths are weights.
-/

namespace Letterhead

/-! ### Colours and sizes -/

namespace Color

/-- The colour of text. -/
def ink : Color := "#1a1a1a"

/-- The colour of text that stands back: quotes and captions. -/
def muted : Color := "#666666"

/-- The colour of rules in the body. -/
def rule : Color := "#d0d0d0"

/-- The fill behind a placeholder. -/
def placeholder : Color := "#fff3cd"

/-- The fill behind table headers and fee panels. -/
def panel : Color := "#f5f5f5"

/-- The fill behind a promotion. -/
def promotion : Color := "#fdf6e3"

end Color

namespace Size

/-- The size of text. -/
def body : Float32 := 10.0

/-- The size of small print. -/
def small : Float32 := 8.0

/-- The size of a clause of the terms. -/
def clause : Float32 := 9.0

/-- The size of a title. -/
def title : Float32 := 20.0

/-- The size of a section's heading. -/
def heading : Float32 := 16.0

/-- The size of the headings below. -/
def subheading : Float32 := 13.0

/-- The height of an empty paragraph. -/
def emptyParagraph : Float32 := 12.0

end Size

/-! ### Text -/

/-- A span of text in one style. A line feed in it ends a line. -/
structure Run where
  text : String
  bold : Bool := false
  italic : Bool := false
  underline : Bool := false
  strike : Bool := false
  color : Option Color := none
  background : Option Color := none
deriving DecidableEq, Repr

/-- Text without a style. -/
def Run.plain (text : String) : Run :=
  { text }

/-- The run that ends a line. -/
def Run.lineBreak : Run :=
  .plain "\n"

/-- The text of some runs. -/
def runsText (runs : List Run) : String :=
  String.join (runs.map (·.text))

/-- How lines are placed between the margins. -/
inductive Align where
  | left
  | center
  | right
deriving DecidableEq, Repr, Inhabited

/-- The placement of a name; to the left if it names none. -/
def Align.ofName (name : Option String) : Align :=
  match name.map Text.trimmed with
  | some "center" => .center
  | some "right" => .right
  | _ => .left

/-- A block of text: runs with one placement, size, colour and font. -/
structure TextBlock where
  runs : List Run := []
  align : Align := .left
  size : Float32 := Size.body
  color : Color := .ink
  /-- The font, if it is not that of the page. -/
  font : Option String := none
  /-- Whether the whole block is bold, as headings are. -/
  bold : Bool := false

/-! ### Boxes, tables and lists -/

/-- The frame of a box. -/
structure BoxStyle where
  /-- The bar along the left side. -/
  borderLeft : Option Color := none
  /-- The frame around all sides. -/
  border : Option Color := none
  background : Option Color := none
  padding : Float32 := 0.0

/-- The sides of a cell that have a border. -/
structure Borders where
  top : Bool := false
  bottom : Bool := false
  left : Bool := false
  right : Bool := false
deriving DecidableEq, Repr

/-- A cell of a table. -/
structure Cell where
  runs : List Run := []
  border : Borders := {}
  background : Option Color := none
deriving DecidableEq, Repr

/-- A cell of plain text. -/
def Cell.plain (text : String) : Cell :=
  { runs := [.plain text] }

/-- A column of a table. -/
structure Column where
  width : Float32
  align : Align

mutual

/-- An element of a document. -/
inductive Element where
  | text (block : TextBlock)
  | box (style : BoxStyle) (children : List Element)
  | list (ordered : Bool) (items : List Item)
  | divider (color : Color) (thickness : Float32)
  | table (columns : List Column) (rows : List (List Cell))
  | spacer (height : Float32)

/-- An item of a list: its marker, and what stands beside it. -/
inductive Item where
  | mk (marker : String) (children : List Element)

end

instance : Inhabited Element := ⟨.spacer 0.0⟩

/-! ### The whole -/

/-- The elements of a header, a footer or a body. -/
structure Region where
  /-- Whether the region repeats on every page. -/
  fixed : Bool
  children : List Element

/-- What holds for a whole document. -/
structure PageSetup where
  font : String
  fontSize : Float32 := Size.body
  color : Color := .ink

/-- A rendered document. -/
structure Document where
  page : PageSetup
  header : Option Region := none
  body : Region
  footer : Option Region := none

/-! ### Text in reading order -/

mutual

/-- The runs of every text block and every cell, one entry for each. -/
def Element.texts : Element → List (List Run)
  | .text block => [block.runs]
  | .box _ children => textsOf children
  | .list _ items => itemTexts items
  | .table _ rows => rows.flatMap fun row => row.map (·.runs)
  | .divider .. => []
  | .spacer _ => []

/-- Element by element. -/
def textsOf : List Element → List (List Run)
  | [] => []
  | e :: es => e.texts ++ textsOf es

/-- Item by item. -/
def itemTexts : List Item → List (List Run)
  | [] => []
  | .mk _ children :: items => textsOf children ++ itemTexts items

end

/-- The runs of an element. -/
def Element.runs (e : Element) : List Run :=
  e.texts.flatten

/-- The text of a region: a line for each text block and each cell. -/
def Region.plainText (r : Region) : String :=
  "\n".intercalate ((textsOf r.children).map runsText)

end Letterhead
