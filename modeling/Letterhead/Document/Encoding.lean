import Letterhead.Document.Basic
import Letterhead.Json.Printer

/-!
# Documents as JSON

The JSON form of a document is for a typesetter. Every element says its kind; what is not set is
left out.

* `Element.toJson`, `Document.toJson` — the values;
* `Document.compact`, `Document.pretty` — their texts.
-/

namespace Letterhead

/-! ### Fields -/

/-- A size. -/
def sizeJson (x : Float32) : Json :=
  .number (.single x)

/-- A field that is there when it is set. -/
def optionalField (key : String) (value : Option String) : Fields :=
  match value with
  | some s => [(key, .string s)]
  | none => []

/-- A field that is there when it is true. -/
def flagField (key : String) (value : Bool) : Fields :=
  if value then [(key, .bool true)] else []

/-! ### Parts -/

/-- A run. -/
def Run.toJson (r : Run) : Json :=
  .object (("text", .string r.text) :: (flagField "bold" r.bold ++ flagField "italic" r.italic ++
    flagField "underline" r.underline ++ flagField "strike" r.strike ++
    optionalField "color" r.color ++ optionalField "background" r.background))

/-- Runs. -/
def runsJson (runs : List Run) : Json :=
  .array (runs.map Run.toJson)

/-- The name of a placement. -/
def Align.name : Align → String
  | .left => "left"
  | .center => "center"
  | .right => "right"

/-- A placement. -/
def Align.toJson (a : Align) : Json :=
  .string a.name

/-- The fields of a block of text. -/
def TextBlock.fields (b : TextBlock) : Fields :=
  [("runs", runsJson b.runs), ("align", b.align.toJson), ("size", sizeJson b.size),
    ("color", .string b.color)] ++ optionalField "font" b.font ++ [("bold", .bool b.bold)]

/-- The frame of a box. -/
def BoxStyle.toJson (s : BoxStyle) : Json :=
  .object (optionalField "borderLeft" s.borderLeft ++ optionalField "border" s.border ++
    optionalField "background" s.background ++ [("padding", sizeJson s.padding)])

/-- The borders of a cell. -/
def Borders.toJson (b : Borders) : Json :=
  .object [("top", .bool b.top), ("bottom", .bool b.bottom), ("left", .bool b.left),
    ("right", .bool b.right)]

/-- A cell. -/
def Cell.toJson (c : Cell) : Json :=
  .object ([("runs", runsJson c.runs), ("border", c.border.toJson)] ++
    optionalField "background" c.background)

/-- A row of a table. -/
def rowJson (cells : List Cell) : Json :=
  .object [("cells", .array (cells.map Cell.toJson))]

/-- A column of a table. -/
def Column.toJson (c : Column) : Json :=
  .object [("width", sizeJson c.width), ("align", c.align.toJson)]

/-! ### Elements -/

mutual

/-- An element. -/
def Element.toJson : Element → Json
  | .text block => .object (("kind", .string "text") :: block.fields)
  | .box style children =>
    .object [("kind", .string "block"), ("style", style.toJson),
      ("children", .array (elementsJson children))]
  | .list ordered items =>
    .object [("kind", .string "list"), ("ordered", .bool ordered),
      ("items", .array (itemsJson items))]
  | .divider color thickness =>
    .object [("kind", .string "divider"), ("color", .string color),
      ("thickness", sizeJson thickness)]
  | .table columns rows =>
    .object [("kind", .string "table"), ("columns", .array (columns.map Column.toJson)),
      ("rows", .array (rows.map rowJson))]
  | .spacer height => .object [("kind", .string "spacer"), ("height", sizeJson height)]

/-- Element by element. -/
def elementsJson : List Element → List Json
  | [] => []
  | e :: es => e.toJson :: elementsJson es

/-- Item by item. -/
def itemsJson : List Item → List Json
  | [] => []
  | .mk marker children :: items =>
    .object [("marker", .string marker), ("children", .array (elementsJson children))]
      :: itemsJson items

end

/-! ### The whole -/

/-- A region. -/
def Region.toJson (r : Region) : Json :=
  .object [("fixed", .bool r.fixed), ("children", .array (elementsJson r.children))]

/-- What holds for a whole document. -/
def PageSetup.toJson (p : PageSetup) : Json :=
  .object [("font", .string p.font), ("fontSize", sizeJson p.fontSize),
    ("color", .string p.color)]

/-- A region that is there when it is set. -/
def regionField (key : String) (region : Option Region) : Fields :=
  match region with
  | some r => [(key, r.toJson)]
  | none => []

/-- A document. -/
def Document.toJson (d : Document) : Json :=
  .object (("page", d.page.toJson) :: (regionField "header" d.header ++
    ("body", d.body.toJson) :: regionField "footer" d.footer))

/-- The JSON text on one line. -/
def Document.compact (d : Document) : String :=
  d.toJson.compact

/-- The JSON text over several lines. -/
def Document.pretty (d : Document) : String :=
  d.toJson.pretty

end Letterhead
