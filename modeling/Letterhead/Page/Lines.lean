import Letterhead.Decimal.Fixed
import Letterhead.Page.Grid
import Letterhead.Text.Casing

/-!
# The lines of elements

Plain text shows little of a style. A title is in capitals over a double rule, a section's heading
over a single one; a box has its frame or its bar, a list its markers. Colours and fonts are left
out.

* `TextBlock.lines` — the lines of a block of text;
* `framed`, `barred`, `hung` — lines in a frame, beside a bar, beside a marker;
* `Element.lines`, `Region.lines` — the lines of an element and of a region.
-/

namespace Letterhead

open Decimal

/-! ### Text -/

/-- How a heading stands out. -/
inductive Rank where
  /-- In capitals, over a double rule. -/
  | title
  /-- Over a rule. -/
  | heading
  | subheading
deriving DecidableEq, Repr

/-- The rank of a block of text, if it is a heading: if it is bold and larger than text. -/
def TextBlock.rank? (b : TextBlock) : Option Rank :=
  if !b.bold || b.size ≤ Size.body then none
  else if b.size ≥ Size.title then some .title
  else if b.size ≥ Size.heading then some .heading
  else some .subheading

/-- A heading is parted by an empty line from what stands above it. -/
def spaceAbove (rank : Option Rank) (above : Line) : List Line :=
  if rank.isSome && above.any (! Text.isBlank ·) then [[]] else []

/-- The text of a block, in capitals if it is a title. -/
def TextBlock.shownText (b : TextBlock) : Line :=
  match b.rank? with
  | some .title => Text.upper (struckText b.runs)
  | _ => struckText b.runs

/-- The character of the rule under a heading. -/
def Rank.rule? : Option Rank → Option Char
  | some .title => some '═'
  | some .heading => some '─'
  | some .subheading => none
  | none => none

/-- A rule is double or single. -/
theorem Rank.eq_or_eq_of_rule? {rank : Option Rank} {c : Char} (h : Rank.rule? rank = some c) :
    c = '═' ∨ c = '─' := by
  unfold Rank.rule? at h
  split at h
  · exact Or.inl (Option.some.inj h).symm
  · exact Or.inr (Option.some.inj h).symm
  · cases h
  · cases h

/-- The widest of some lines. -/
def widest (lines : List Line) : Nat :=
  lines.foldl (fun w line => max w (displayWidth line)) 0

/-- The lines of a block of text below the line `above`. -/
def TextBlock.lines (width : Nat) (above : Line) (b : TextBlock) : List Line :=
  let text := wrapAll width b.shownText
  let rule := (Rank.rule? b.rank?).map fun c => List.replicate (widest text) c
  spaceAbove b.rank? above ++ (text ++ rule.toList).map (placed width b.align)

/-! ### Around lines -/

/-- Lines of a width in a frame. -/
def framed (width : Nat) (lines : List Line) : List Line :=
  let edge := List.replicate (width + 2) '─'
  ('┌' :: (edge ++ ['┐'])) ::
    ((lines.map fun line => '│' :: ' ' :: (pad width .left line ++ [' ', '│'])) ++
      ['└' :: (edge ++ ['┘'])])

/-- Lines beside a bar. -/
def barred (lines : List Line) : List Line :=
  lines.map fun line => '│' :: ' ' :: line

/-- The width inside a box. -/
def BoxStyle.innerWidth (s : BoxStyle) (width : Nat) : Nat :=
  if s.border.isSome then max (width - 4) 1
  else if s.borderLeft.isSome then max (width - 2) 1
  else max width 1

/-- Lines in a box. -/
def BoxStyle.around (s : BoxStyle) (width : Nat) (lines : List Line) : List Line :=
  if s.border.isSome then framed (s.innerWidth width) lines
  else if s.borderLeft.isSome then barred lines
  else lines

/-- The columns that a marker takes, with the blank after it. -/
def markerWidth (marker : String) : Nat :=
  displayWidth marker.toList + 1

/-- Lines beside a marker, which stands at the first of them. -/
def hung (marker : String) (lines : List Line) : List Line :=
  match lines with
  | [] => [marker.toList ++ [' ']]
  | first :: rest =>
    (marker.toList ++ ' ' :: first) :: rest.map (blanks (markerWidth marker) ++ ·)

/-! ### Space -/

/-- The points of a line of text. -/
def lineHeight : Float32 := 12.0

/-- The lines of a space: at least one. -/
def spacerLines (height : Float32) : Nat :=
  max (nearestNatural32 (height / lineHeight)) 1

/-! ### Elements -/

mutual

/-- The lines of an element below the line `above`. -/
def Element.lines (width : Nat) (above : Line) : Element → List Line
  | .text block => block.lines width above
  | .box style children =>
    style.around width (linesFrom (style.innerWidth width) [] children)
  | .list _ items => itemLines width items
  | .divider .. => [List.replicate width '─']
  | .table columns rows => tableLines width columns rows
  | .spacer height => List.replicate (spacerLines height) []

/-- The lines of elements below the line `above`. -/
def linesFrom (width : Nat) (above : Line) : List Element → List Line
  | [] => []
  | e :: es =>
    let lines := e.lines width above
    lines ++ linesFrom width (lines.getLastD above) es

/-- The lines of the items of a list. -/
def itemLines (width : Nat) : List Item → List Line
  | [] => []
  | .mk marker children :: items =>
    hung marker (linesFrom (max (width - markerWidth marker) 1) [] children)
      ++ itemLines width items

end

/-- The lines of a region. -/
def Region.lines (width : Nat) (r : Region) : List Line :=
  linesFrom width [] r.children

end Letterhead
