import Letterhead.Decimal.Fixed
import Letterhead.Page.Wrap

/-!
# Tables on a grid

A table is laid out on a grid of columns of fixed widths. A row is as high as its highest cell; a
rule goes over or under a row where its cells have borders.

* `shares`, `columnWidths` — a width split by the weights of the columns;
* `GridCell`, `rowLines`, `tableLines` — a cell wrapped in its column, the lines of a row and of a
  table;
* `columnWidths?`, `tableLines?` — the same within the numbers and texts of a machine, which are not
  as great as one likes.
-/

namespace Letterhead

open Decimal

/-! ### Column widths -/

/-- A kind of number that can weigh columns. -/
class Weight (α : Type) extends Add α, Mul α, Div α where
  ofNat : Nat → α
  /-- Whether a weight is greater than zero. -/
  isPositive : α → Bool
  /-- The natural number that a weight is rounded down to; the nearest one there is, if there is
  none. -/
  floor : α → Nat

instance : Weight Float32 where
  ofNat := Float32.ofNat
  isPositive w := 0.0 < w
  -- what is greater than all words becomes the greatest, and what is no number becomes zero
  floor w := w.toUInt64.toNat

/-- What each column gets of a width by its weight, rounded down, but at least one. -/
def shares {α : Type} [Weight α] (available : Nat) (weights : List α) : List Nat :=
  let total := weights.foldl (· + ·) (Weight.ofNat 0)
  weights.map fun w => max (Weight.floor (Weight.ofNat available * w / total)) 1

/-- The widths of columns: their shares, and for the first what is left over. -/
def columnWidths {α : Type} [Weight α] (available : Nat) (weights : List α) : List Nat :=
  let widths := shares available weights
  match widths with
  | [] => []
  | first :: rest => (first + (available - widths.foldr (· + ·) 0)) :: rest

/-- The weight of a column: one, unless it has a positive one. -/
def Column.weight (c : Column) : Float32 :=
  if Weight.isPositive c.width then c.width else 1.0

/-! ### Rows -/

/-- A cell in its column. -/
structure GridCell where
  width : Nat
  align : Align
  border : Borders
  /-- The text of the cell, broken into lines. -/
  lines : List Line

/-- A cell wrapped in a column. -/
def GridCell.ofCell (width : Nat) (align : Align) (cell : Cell) : GridCell where
  width := width
  align := align
  border := cell.border
  lines := wrapAll width (struckText cell.runs)

/-- What a cell shows on a line of its row. -/
def GridCell.line (s : GridCell) (row : Nat) : Line :=
  pad s.width s.align (s.lines.getD row [])

/-- The columns between two cells. -/
def gapWidth : Nat := 3

/-- What stands between two cells: a bar if either has a border there. -/
def gap (left right : GridCell) : Line :=
  if left.border.right || right.border.left then [' ', '│', ' '] else blanks gapWidth

/-- A line of a row. -/
def slotsLine (row : Nat) : List GridCell → Line
  | [] => []
  | [s] => s.line row
  | s :: t :: rest => s.line row ++ (gap s t ++ slotsLine row (t :: rest))

/-- A stretch of a rule, or of blanks. -/
def stroke (drawn : Bool) (n : Nat) : Line :=
  List.replicate n (if drawn then '─' else ' ')

/-- The rule over or under a row: under or over the cells that have that border, and on between two
that have it. -/
def slotsRule (side : Borders → Bool) : List GridCell → Line
  | [] => []
  | [s] => stroke (side s.border) s.width
  | s :: t :: rest =>
    stroke (side s.border) s.width ++
      (stroke (side s.border && side t.border) gapWidth ++ slotsRule side (t :: rest))

/-- The rule over or under a row, if any cell has that border. -/
def ruleLines (side : Borders → Bool) (slots : List GridCell) : List Line :=
  if slots.any fun s => side s.border then [slotsRule side slots] else []

/-- The number of lines of the highest cell. -/
def slotsHeight (slots : List GridCell) : Nat :=
  slots.foldl (fun h s => max h s.lines.length) 0

/-- The lines of a row. -/
def rowLines (slots : List GridCell) : List Line :=
  ruleLines Borders.top slots ++
    ((List.range (slotsHeight slots)).map fun row => slotsLine row slots) ++
    ruleLines Borders.bottom slots

/-! ### Tables -/

/-- The number of columns: those of the table, or the cells of a longer row. -/
def columnCount (columns : List Column) (rows : List (List Cell)) : Nat :=
  rows.foldl (fun n cells => max n cells.length) columns.length

/-- The columns of a table, those that it does not describe added. -/
def gridColumns (columns : List Column) (rows : List (List Cell)) : List Column :=
  columns ++ List.replicate (columnCount columns rows - columns.length) ⟨1.0, .left⟩

/-- What there is for columns when the gaps are taken off a width: one for each at least. -/
def columnRoom (width count : Nat) : Nat :=
  max (width - gapWidth * (count - 1)) count

/-- The widths of the columns of a grid by their weights, gaps taken off. -/
def widthsByWeight {α : Type} [Weight α] (width : Nat) (weights : List α) : List Nat :=
  columnWidths (columnRoom width weights.length) weights

/-- The widths of the columns of a grid. -/
def gridWidths (width : Nat) (columns : List Column) : List Nat :=
  widthsByWeight width (columns.map Column.weight)

/-- The cells of a row in their columns; those that are missing are empty. -/
def slotsOf : List Nat → List Column → List Cell → List GridCell
  | w :: ws, c :: cs, [] => GridCell.ofCell w c.align {} :: slotsOf ws cs []
  | w :: ws, c :: cs, cell :: cells => GridCell.ofCell w c.align cell :: slotsOf ws cs cells
  | _, _, _ => []

/-- The lines of a table. Numbers and texts are as great here as they come to be. -/
def tableLines (width : Nat) (columns : List Column) (rows : List (List Cell)) : List Line :=
  let columns := gridColumns columns rows
  let widths := gridWidths width columns
  rows.flatMap fun cells => rowLines (slotsOf widths columns cells)

/-! ### Tables on a machine -/

/-- A sum of words, if it is a word. -/
def addWords? (m n : Nat) : Option Nat :=
  if m + n ≤ greatestWord then some (m + n) else none

/-- The widths of columns, if the sums that they take are words. -/
def columnWidths? {α : Type} [Weight α] (available : Nat) (weights : List α) :
    Option (List Nat) := do
  let widths := shares available weights
  let used ← widths.foldlM addWords? 0
  match widths with
  | [] => return []
  | first :: rest => return (← addWords? first (available - used)) :: rest

/-- The widths of the columns of a grid, as far as a machine can compute them. -/
def gridWidths? (width : Nat) (columns : List Column) : Option (List Nat) :=
  columnWidths? (columnRoom width columns.length) (columns.map Column.weight)

/-- The most bytes that a text may have. -/
def longestText : Nat :=
  Nat.pow 2 63 - 1

/-- The bytes of a line. -/
def byteSize : Line → Nat
  | [] => 0
  | c :: rest => c.utf8Size + byteSize rest

/-- Whether a line is no longer than a text may be. -/
def isText (line : Line) : Bool :=
  byteSize line ≤ longestText

/-- The lines of a table, as far as a machine can lay it out: none if it cannot compute the widths,
or if a line would be too long for a text. -/
def tableLines? (width : Nat) (columns : List Column) (rows : List (List Cell)) :
    Option (List Line) := do
  let columns := gridColumns columns rows
  let widths ← gridWidths? width columns
  let lines := rows.flatMap fun cells => rowLines (slotsOf widths columns cells)
  if lines.all isText then return lines else none

end Letterhead
