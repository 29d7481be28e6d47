import Letterhead.Document.Inline
import Letterhead.Document.Section

/-!
# From nodes to elements

Sibling nodes become elements in order. Neighbours that flow inline are collected into one block of
text; a node that does not ends the block and gives elements of its own.

* `Element.quoted` — how a quotation looks: muted, and in italics;
* `Node.elements`, `flow`, `listItems` — the elements of a node, of siblings, and of list items;
* `Scope.render` — the elements of a template's nodes.
-/

namespace Letterhead

/-! ### Quotations -/

/-- A run in italics. -/
def Run.quoted (r : Run) : Run :=
  { r with italic := true }

/-- A block of text as it is quoted. -/
def TextBlock.quoted (b : TextBlock) : TextBlock :=
  { b with color := .muted, runs := b.runs.map Run.quoted }

/-- A cell as it is quoted. -/
def Cell.quoted (c : Cell) : Cell :=
  { c with runs := c.runs.map Run.quoted }

mutual

/-- An element as it is quoted: all text in italics, and blocks of text muted. -/
def Element.quoted : Element → Element
  | .text block => .text block.quoted
  | .box style children => .box style (quotedElements children)
  | .list ordered items => .list ordered (quotedItems items)
  | .divider color thickness => .divider color thickness
  | .table columns rows => .table columns (rows.map (·.map Cell.quoted))
  | .spacer height => .spacer height

/-- Element by element. -/
def quotedElements : List Element → List Element
  | [] => []
  | e :: es => e.quoted :: quotedElements es

/-- Item by item. -/
def quotedItems : List Item → List Item
  | [] => []
  | .mk marker children :: items => .mk marker (quotedElements children) :: quotedItems items

end

/-! ### Blocks of text -/

/-- The block of text that some runs end in; none if there are no runs. -/
def textOfRuns (base : TextBlock) (runs : List Run) : List Element :=
  if runs.isEmpty then [] else [.text { base with runs }]

/-- The size of a heading of a level: titles, sections, and all below. -/
def headingSize (level : Option Nat) : Float32 :=
  match level.getD 1 with
  | 0 => Size.title
  | 1 => Size.title
  | 2 => Size.heading
  | _ => Size.subheading

/-- The marker of the item at a position: a number that counts from the first, or a bullet. -/
def listMarker (first : Option Nat) (position : Nat) : String :=
  match first with
  | some n => toString (n + position) ++ "."
  | none => "•"

/-- The frame of a quotation. -/
def quotationStyle : BoxStyle :=
  { borderLeft := some .rule, padding := 8.0 }

namespace Scope

/-- The text of a list item that holds a single paragraph of inline nodes. -/
def soleParagraph? (scope : Scope) : List Node → Option Element
  | [.paragraph align content] =>
    if allFlowInline content then
      some (.text { scope.paragraph (.ofName align) with runs := runsOf scope.context content })
    else none
  | _ => none

/-- A paragraph of inline nodes: space if it is empty. -/
def inlineParagraph (scope : Scope) (align : Align) (content : List Node) : Element :=
  let runs := runsOf scope.context content
  if runs.isEmpty then .spacer Size.emptyParagraph
  else .text { scope.paragraph align with runs }

/-! ### The walk -/

mutual

/-- The elements of a node. -/
def elements (scope : Scope) : Node → List Element
  | .document content => flow scope (scope.paragraph .left) [] content
  | .paragraph align content =>
    if allFlowInline content then [scope.inlineParagraph (.ofName align) content]
    else [.box {} (flow scope (scope.paragraph (.ofName align)) [] content)]
  | .heading level align content =>
    [.text { scope.heading (headingSize level) (.ofName align) with
      runs := runsOf scope.context content }]
  | .bulletList items => [.list false (listItems scope none 0 items)]
  | .orderedList start items => [.list true (listItems scope (some (start.getD 1)) 0 items)]
  | .listItem content =>
    match scope.soleParagraph? content with
    | some e => [e]
    | none => flow scope (scope.paragraph .left) [] content
  | .blockquote content =>
    [.box quotationStyle (quotedElements (flow scope (scope.paragraph .left) [] content))]
  | .horizontalRule => [.divider scope.ruleColor 1.0]
  | .dynamicBlock name config => blockElements scope.style scope.context name config
  | .unknown _ content => flow scope (scope.paragraph .left) [] content
  | .text text marks => textOfRuns (scope.paragraph .left) [textRun text marks]
  | .hardBreak => textOfRuns (scope.paragraph .left) [.lineBreak]
  | .variable id label =>
    textOfRuns (scope.paragraph .left) [variableRun scope.context id label]

/-- The elements of siblings, `pending` being the runs since the last element. -/
def flow (scope : Scope) (base : TextBlock) (pending : List Run) : List Node → List Element
  | [] => textOfRuns base pending
  | node :: rest =>
    if node.flowsInline then flow scope base (pending ++ node.runs scope.context) rest
    else textOfRuns base pending ++ (elements scope node ++ flow scope base [] rest)

/-- The items of a list from a position on. An item that is no list item is one around the node. -/
def listItems (scope : Scope) (first : Option Nat) (position : Nat) : List Node → List Item
  | [] => []
  | node :: rest =>
    .mk (listMarker first position)
      (if node.flowsInline then textOfRuns (scope.paragraph .left) (node.runs scope.context)
      else elements scope node)
      :: listItems scope first (position + 1) rest

end

/-- The elements of sibling nodes. -/
def render (scope : Scope) (nodes : List Node) : List Element :=
  flow scope (scope.paragraph .left) [] nodes

end Scope

end Letterhead
