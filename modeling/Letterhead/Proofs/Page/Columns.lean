import Mathlib.Algebra.Ring.Nat
import Mathlib.Data.List.Forall2
import Letterhead.Page.Grid
import Letterhead.Proofs.Page.Machine
import Letterhead.Proofs.Page.Striking

/-!
# Tables stand on columns

The cells of a table stand on columns that are the same on all its lines, with three columns
between each two. So a cell can be read back from the lines of its row: it is what stands in its
columns. That takes texts without overlays of their own, since an overlay at the beginning of a cell
would strike out what stands before the cell.

* `slice` — what stands in some columns of a line;
* `across`, `slice_across`, `slice_across_between` — a line made of parts, each in columns of its
  own, and what stands between them;
* `slotsOf_eq_mapIdx`, `max?_slotsHeight`, `nonBlanks_slices` — the cells of a row in their columns,
  the height of the row, and the texts that are read back from it;
* `IsGridRule`, `IsGridRow`, `isGridRow_ofSlots` — how a row is drawn on columns;
* `tableLines_on_grid` — a table, row by row, and what a machine makes of it;
* `not_fitsMachine`, `heavy_table_not_laid_out` — a table that is too wide for a machine.
-/

namespace Letterhead

open Decimal (greatestWord)
open Text (nonBlanks nonBlanks_append)

/-! ### Slices of a line -/

/-- What stands in `n` columns of a line from the column `start` on: the characters that take these
columns, each with its overlays. -/
def slice (start n : Nat) (line : Line) : Line :=
  (cutAt n (cutAt start line).2).1

example : slice 11 3 "o̶l̶d̶ new      9   x  ".toList = "  9".toList := by decide

/-- A part of a line that takes some columns, and does not begin with an overlay, which would strike
out what stands before it. -/
structure Spans (n : Nat) (part : Line) : Prop where
  pos : 0 < n
  width : displayWidth part = n
  head : part.head? ≠ some overlay

section Slices

variable {n : Nat} {s t : Line}

theorem head?_append_ne_overlay (hs : s.head? ≠ some overlay) (ht : t.head? ≠ some overlay) :
    (s ++ t).head? ≠ some overlay := by
  cases s with
  | nil => exact ht
  | cons c cs => exact hs

theorem cutAt_zero (h : t.head? ≠ some overlay) : cutAt 0 t = ([], t) := by
  cases t with
  | nil => rfl
  | cons c cs =>
    have hc : c ≠ overlay := fun heq => h (congrArg some heq)
    rw [cutAt, if_neg hc]

/-- A cut that falls behind a first part cuts what follows it. -/
theorem cutAt_displayWidth_add (s t : Line) (k : Nat) :
    cutAt (displayWidth s + k) (s ++ t) = Prod.map (s ++ ·) id (cutAt k t) := by
  induction s with
  | nil =>
    rw [displayWidth_nil, Nat.zero_add]
    rfl
  | cons c cs ih =>
    by_cases hc : c = overlay
    · rw [displayWidth_cons, if_pos hc, Nat.add_zero, List.cons_append, cutAt_of_overlay hc, ih]
      rfl
    · rw [displayWidth_cons, if_neg hc, Nat.add_right_comm, List.cons_append, cutAt, if_neg hc, ih]
      rfl

/-- Columns behind a first part are columns of what follows it. -/
theorem slice_displayWidth_add (s t : Line) (k n : Nat) :
    slice (displayWidth s + k) n (s ++ t) = slice k n t := by
  rw [slice, cutAt_displayWidth_add]
  rfl

/-- The first columns of a line hold its first part. -/
theorem slice_zero (hs : Spans n s) (ht : t.head? ≠ some overlay) : slice 0 n (s ++ t) = s := by
  have hcut : cutAt n (s ++ t) = (s, t) := by
    have hbehind := cutAt_displayWidth_add s t 0
    rw [hs.width, Nat.add_zero, cutAt_zero ht] at hbehind
    rw [hbehind, Prod.map_apply, List.append_nil]
    rfl
  rw [slice, cutAt_zero (head?_append_ne_overlay hs.head ht), hcut]

end Slices

/-! ### Lines made of parts -/

/-- A line with a part for each cell, and something between each two. -/
def across (part : GridCell → Line) (between : GridCell → GridCell → Line) : List GridCell → Line
  | [] => []
  | [s] => part s
  | s :: t :: rest => part s ++ (between s t ++ across part between (t :: rest))

theorem slotsLine_eq_across (row : Nat) (slots : List GridCell) :
    slotsLine row slots = across (·.line row) gap slots := by
  induction slots using slotsLine.induct with
  | case1 => rfl
  | case2 s => rfl
  | case3 s t rest ih => rw [slotsLine, across, ih]

theorem slotsRule_eq_across (side : Borders → Bool) (slots : List GridCell) :
    slotsRule side slots =
      across (fun s => stroke (side s.border) s.width)
        (fun s t => stroke (side s.border && side t.border) gapWidth) slots := by
  induction slots using slotsRule.induct with
  | case1 => rfl
  | case2 s => rfl
  | case3 s t rest ih => rw [slotsRule, across, ih]

/-- The width of a grid. -/
def gridWidth (widths : List Nat) : Nat :=
  widths.sum + gapWidth * (widths.length - 1)

theorem gridWidth_cons_cons (w v : Nat) (widths : List Nat) :
    gridWidth (w :: v :: widths) = w + (gapWidth + gridWidth (v :: widths)) := by
  simp only [gridWidth, gapWidth, List.sum_cons, List.length_cons]
  omega

/-- Where a column of a grid starts: behind the columns before it, each with a gap. -/
def columnStart (widths : List Nat) (i : Nat) : Nat :=
  ((widths.take i).map (· + gapWidth)).sum

theorem columnStart_zero (widths : List Nat) : columnStart widths 0 = 0 := rfl

theorem columnStart_succ (w : Nat) (widths : List Nat) (i : Nat) :
    columnStart (w :: widths) (i + 1) = w + (gapWidth + columnStart widths i) := by
  rw [columnStart, List.take_succ_cons, List.map_cons, List.sum_cons, Nat.add_assoc]
  rfl

section Across

variable {part : GridCell → Line} {between : GridCell → GridCell → Line} {slots : List GridCell}
  {i : Nat} {s t : GridCell}

theorem displayWidth_across (hpart : ∀ s ∈ slots, displayWidth (part s) = s.width)
    (hbetween : ∀ s t, displayWidth (between s t) = gapWidth) :
    displayWidth (across part between slots) = gridWidth (slots.map (·.width)) := by
  induction slots using slotsLine.induct with
  | case1 => rfl
  | case2 s =>
    have hs := hpart s List.mem_cons_self
    rw [across, hs]
    rfl
  | case3 s t rest ih =>
    have hs := hpart s List.mem_cons_self
    have hrest := ih fun u hu => hpart u (List.mem_cons_of_mem _ hu)
    rw [across, displayWidth_append, displayWidth_append, hs, hbetween, hrest]
    exact (gridWidth_cons_cons _ _ _).symm

theorem head?_across (hpart : ∀ s ∈ slots, Spans s.width (part s))
    (hbetween : ∀ s t, Spans gapWidth (between s t)) :
    (across part between slots).head? ≠ some overlay := by
  induction slots using slotsLine.induct with
  | case1 => exact head?_nil_ne_overlay
  | case2 s => exact (hpart s List.mem_cons_self).head
  | case3 s t rest ih =>
    have hrest := ih fun u hu => hpart u (List.mem_cons_of_mem _ hu)
    refine head?_append_ne_overlay (hpart s List.mem_cons_self).head ?_
    exact head?_append_ne_overlay (hbetween s t).head hrest

/-- A line goes on behind a cell and the gap after it as the line of the other cells. -/
theorem slice_across_succ (hs : Spans s.width (part s)) (hgap : Spans gapWidth (between s t))
    (rest : List GridCell) (k n : Nat) :
    slice (s.width + (gapWidth + k)) n (across part between (s :: t :: rest)) =
      slice k n (across part between (t :: rest)) := by
  have hcell := slice_displayWidth_add (part s)
    (between s t ++ across part between (t :: rest)) (gapWidth + k) n
  have hafter := slice_displayWidth_add (between s t) (across part between (t :: rest)) k n
  rw [hs.width] at hcell
  rw [hgap.width] at hafter
  rw [across, hcell, hafter]

/-- Each cell has its part in its columns. -/
theorem slice_across (hpart : ∀ s ∈ slots, Spans s.width (part s))
    (hbetween : ∀ s t, Spans gapWidth (between s t)) (hs : slots[i]? = some s) :
    slice (columnStart (slots.map (·.width)) i) s.width (across part between slots) = part s := by
  -- along the cells: at the first one the columns are counted from here, behind it from there
  induction slots using slotsLine.induct generalizing i with
  | case1 => exact nomatch hs
  | case2 u =>
    cases i with
    | zero =>
      obtain rfl : u = s := Option.some.inj hs
      have hu := slice_zero (hpart u List.mem_cons_self) head?_nil_ne_overlay
      rwa [List.append_nil] at hu
    | succ i => exact nomatch hs
  | case3 u v rest ih =>
    have hu := hpart u List.mem_cons_self
    have hrest : ∀ s ∈ v :: rest, Spans s.width (part s) :=
      fun s hs => hpart s (List.mem_cons_of_mem _ hs)
    cases i with
    | zero =>
      obtain rfl : u = s := Option.some.inj hs
      rw [columnStart_zero, across]
      refine slice_zero hu ?_
      exact head?_append_ne_overlay (hbetween u v).head (head?_across hrest hbetween)
    | succ i =>
      rw [List.map_cons, columnStart_succ, slice_across_succ hu (hbetween u v)]
      exact ih hrest hs

/-- What is put between two cells stands in the columns behind the first of them. -/
theorem slice_across_between (hpart : ∀ s ∈ slots, Spans s.width (part s))
    (hbetween : ∀ s t, Spans gapWidth (between s t)) (hs : slots[i]? = some s)
    (ht : slots[i + 1]? = some t) :
    slice (columnStart (slots.map (·.width)) i + s.width) gapWidth (across part between slots) =
      between s t := by
  induction slots using slotsLine.induct generalizing i with
  | case1 => exact nomatch hs
  | case2 u => exact nomatch ht
  | case3 u v rest ih =>
    have hu := hpart u List.mem_cons_self
    have hrest : ∀ s ∈ v :: rest, Spans s.width (part s) :=
      fun s hs => hpart s (List.mem_cons_of_mem _ hs)
    cases i with
    | zero =>
      obtain rfl : u = s := Option.some.inj hs
      obtain rfl : v = t := Option.some.inj ht
      have hbehind := slice_displayWidth_add (part u)
        (between u v ++ across part between (v :: rest)) 0 gapWidth
      rw [hu.width, Nat.add_zero] at hbehind
      rw [columnStart_zero, Nat.zero_add, across, hbehind]
      exact slice_zero (hbetween u v) (head?_across hrest hbetween)
    | succ i =>
      rw [List.map_cons, columnStart_succ, Nat.add_assoc, Nat.add_assoc,
        slice_across_succ hu (hbetween u v)]
      exact ih hrest hs ht

end Across

/-! ### Parts of a grid -/

theorem head?_replicate_ne_overlay {c : Char} (hc : c ≠ overlay) (n : Nat) :
    (List.replicate n c).head? ≠ some overlay := by
  cases n with
  | zero => exact head?_nil_ne_overlay
  | succ n => exact fun h => hc (Option.some.inj h)

theorem spans_replicate {c : Char} (hc : c ≠ overlay) {n : Nat} (hn : 0 < n) :
    Spans n (List.replicate n c) :=
  ⟨hn, displayWidth_replicate hc n, head?_replicate_ne_overlay hc n⟩

theorem spans_stroke (drawn : Bool) {n : Nat} (hn : 0 < n) : Spans n (stroke drawn n) := by
  refine spans_replicate ?_ hn
  cases drawn <;> decide

theorem spans_gap (left right : GridCell) : Spans gapWidth (gap left right) := by
  rw [gap]
  split
  · exact ⟨by decide, by decide, by decide⟩
  · exact spans_replicate (by decide) (by decide)

/-- A line that fits is filled up to the width. -/
theorem spans_pad {width : Nat} {line : Line} (hw : 0 < width) (hfits : displayWidth line ≤ width)
    (hhead : line.head? ≠ some overlay) (align : Align) : Spans width (pad width align line) := by
  have hblanks : ∀ n, (blanks n).head? ≠ some overlay := head?_replicate_ne_overlay (by decide)
  refine ⟨hw, ?_, ?_⟩
  · rw [displayWidth_pad]
    exact Nat.max_eq_left hfits
  · cases align with
    | left => exact head?_append_ne_overlay hhead (hblanks _)
    | right => exact head?_append_ne_overlay (hblanks _) hhead
    | center =>
      exact head?_append_ne_overlay (hblanks _) (head?_append_ne_overlay hhead (hblanks _))

theorem pad_nil (width : Nat) (align : Align) : pad width align [] = blanks width := by
  cases align with
  | left => rfl
  | right => exact List.append_nil _
  | center =>
    show blanks (width / 2) ++ blanks (width - width / 2) = blanks width
    rw [blanks, blanks, List.replicate_append_replicate, Nat.add_sub_cancel' (Nat.div_le_self _ _)]
    rfl

theorem nonBlanks_blanks (n : Nat) : nonBlanks (blanks n) = [] := by
  rw [Text.nonBlanks, List.filter_eq_nil_iff]
  intro c hc
  rw [List.eq_of_mem_replicate hc]
  decide

/-- Filling a line up adds blanks only. -/
theorem nonBlanks_pad (width : Nat) (align : Align) (line : Line) :
    nonBlanks (pad width align line) = nonBlanks line := by
  cases align with
  | left => rw [pad, nonBlanks_append, nonBlanks_blanks, List.append_nil]
  | right => rw [pad, nonBlanks_append, nonBlanks_blanks, List.nil_append]
  | center =>
    rw [pad, nonBlanks_append, nonBlanks_append, nonBlanks_blanks, nonBlanks_blanks,
      List.append_nil, List.nil_append]

/-! ### The cells of a row -/

/-- What a row has in a column; an empty cell if it does not come so far. -/
def cellAt (cells : List Cell) (i : Nat) : Cell :=
  cells.getD i {}

/-- The placement in a column; to the left if the table does not describe it. -/
def alignAt (columns : List Column) (i : Nat) : Align :=
  (columns.map (·.align)).getD i .left

/-- The text of a cell, broken into lines. -/
def Cell.linesAt (width : Nat) (c : Cell) : List Line :=
  wrapAll width (struckText c.runs)

/-- The runs of some cells hold no overlays of their own. -/
def OverlayFree (cells : List Cell) : Prop :=
  ∀ cell ∈ cells, ∀ r ∈ cell.runs, overlay ∉ r.text.toList

section Row

variable {widths : List Nat} {columns : List Column} {cells : List Cell}

/-- Each column has its cell. -/
theorem slotsOf_eq_mapIdx (h : columns.length = widths.length) (cells : List Cell) :
    slotsOf widths columns cells =
      widths.mapIdx fun i w => GridCell.ofCell w (alignAt columns i) (cellAt cells i) := by
  induction widths generalizing columns cells with
  | nil => cases cells <;> rfl
  | cons w ws ih =>
    cases columns with
    | nil => exact nomatch h
    | cons c cs =>
      have hlength : cs.length = ws.length := Nat.succ.inj h
      rw [List.mapIdx_cons]
      cases cells with
      | nil =>
        rw [slotsOf, ih hlength]
        rfl
      | cons cell cells =>
        rw [slotsOf, ih hlength]
        rfl

theorem map_width_slotsOf (h : columns.length = widths.length) (cells : List Cell) :
    (slotsOf widths columns cells).map (·.width) = widths := by
  refine List.ext_getElem? fun i => ?_
  rw [slotsOf_eq_mapIdx h, List.getElem?_map, List.getElem?_mapIdx]
  cases widths[i]? <;> rfl

theorem getElem?_slotsOf (h : columns.length = widths.length) (cells : List Cell) {i w : Nat}
    (hw : widths[i]? = some w) :
    (slotsOf widths columns cells)[i]? =
      some (GridCell.ofCell w (alignAt columns i) (cellAt cells i)) := by
  rw [slotsOf_eq_mapIdx h, List.getElem?_mapIdx, hw]
  rfl

theorem exists_of_mem_slotsOf (h : columns.length = widths.length) {s : GridCell}
    (hs : s ∈ slotsOf widths columns cells) :
    ∃ i w, widths[i]? = some w ∧ s = GridCell.ofCell w (alignAt columns i) (cellAt cells i) := by
  rw [slotsOf_eq_mapIdx h] at hs
  obtain ⟨i, hi, rfl⟩ := List.mem_mapIdx.mp hs
  exact ⟨i, widths[i], List.getElem?_eq_getElem hi, rfl⟩

/-- A row has a border on a side where one of its cells has it: what is missing has none. -/
theorem any_slotsOf (h : columns.length = widths.length) (hcells : cells.length ≤ widths.length)
    {side : Borders → Bool} (hside : side {} = false) :
    ((slotsOf widths columns cells).any fun s => side s.border) =
      cells.any fun c => side c.border := by
  rw [Bool.eq_iff_iff, List.any_eq_true, List.any_eq_true]
  constructor
  · rintro ⟨s, hs, hborder⟩
    obtain ⟨i, w, -, rfl⟩ := exists_of_mem_slotsOf h hs
    -- the cell is there, since an empty one has no border
    cases hcell : cells[i]? with
    | none =>
      have hempty : cellAt cells i = {} := by
        rw [cellAt, List.getD_eq_getElem?_getD, hcell]
        rfl
      have hnone : side (cellAt cells i).border = true := hborder
      rw [hempty, hside] at hnone
      exact absurd hnone Bool.false_ne_true
    | some cell =>
      have hat : cellAt cells i = cell := by
        rw [cellAt, List.getD_eq_getElem?_getD, hcell]
        rfl
      exact ⟨cell, List.mem_of_getElem? hcell, hat ▸ hborder⟩
  · rintro ⟨cell, hcell, hborder⟩
    obtain ⟨i, hi, rfl⟩ := List.getElem_of_mem hcell
    have hw : widths[i]? = some widths[i] := List.getElem?_eq_getElem (by omega)
    have hslot := getElem?_slotsOf h cells hw
    refine ⟨_, List.mem_of_getElem? hslot, ?_⟩
    have hat : cellAt cells i = cells[i] := by
      rw [cellAt, List.getD_eq_getElem?_getD, List.getElem?_eq_getElem hi]
      rfl
    show side (cellAt cells i).border = true
    rw [hat]
    exact hborder

/-- A row is as high as its highest cell. -/
theorem max?_slotsHeight {slots : List GridCell} (hne : slots ≠ []) :
    (slots.map (·.lines.length)).max? = some (slotsHeight slots) := by
  cases slots with
  | nil => exact absurd rfl hne
  | cons s rest =>
    rw [List.map_cons, List.max?_cons', slotsHeight, List.foldl_cons, Nat.zero_max, List.foldl_map]

theorem length_le_slotsHeight {slots : List GridCell} {s : GridCell} (hs : s ∈ slots) :
    s.lines.length ≤ slotsHeight slots := by
  have hmax := max?_slotsHeight (List.ne_nil_of_mem hs)
  exact (List.max?_eq_some_iff.mp hmax).2 _ (List.mem_map_of_mem hs)

theorem OverlayFree.cellAt (h : OverlayFree cells) (i : Nat) :
    ∀ r ∈ (cellAt cells i).runs, overlay ∉ r.text.toList := by
  rw [Letterhead.cellAt, List.getD_eq_getElem?_getD]
  cases hcell : cells[i]? with
  | none => exact List.forall_mem_nil _
  | some cell => exact h cell (List.mem_of_getElem? hcell)

/-- A line of a cell fits into its column, and is empty behind the last one. -/
theorem displayWidth_getD_linesAt_le {w : Nat} (hw : 0 < w) (c : Cell) (row : Nat) :
    displayWidth ((c.linesAt w).getD row []) ≤ w := by
  rw [List.getD_eq_getElem?_getD]
  cases hline : (c.linesAt w)[row]? with
  | none => exact Nat.zero_le _
  | some line =>
    have hfits := displayWidth_le_of_mem_wrapAll (List.mem_of_getElem? hline)
    show displayWidth line ≤ w
    omega

/-- What a cell shows on a line fills its column. -/
theorem displayWidth_line {w : Nat} (hw : 0 < w) (align : Align) (c : Cell) (row : Nat) :
    displayWidth ((GridCell.ofCell w align c).line row) = w := by
  show displayWidth (pad w align ((c.linesAt w).getD row [])) = w
  rw [displayWidth_pad]
  exact Nat.max_eq_left (displayWidth_getD_linesAt_le hw c row)

/-- Without overlays of its own it begins with none. -/
theorem spans_line {w : Nat} (hw : 0 < w) (align : Align) {c : Cell}
    (hc : ∀ r ∈ c.runs, overlay ∉ r.text.toList) (row : Nat) :
    Spans w ((GridCell.ofCell w align c).line row) := by
  have hhead : ((c.linesAt w).getD row []).head? ≠ some overlay := by
    rw [List.getD_eq_getElem?_getD]
    cases hline : (c.linesAt w)[row]? with
    | none => exact head?_nil_ne_overlay
    | some line =>
      exact (isAnchored_struckText hc).head?_of_mem_wrapAll (List.mem_of_getElem? hline)
  exact spans_pad hw (displayWidth_getD_linesAt_le hw c row) hhead align

/-- Some lines one after the other, and empty ones from their end on, are the lines. -/
theorem flatMap_range_getD (lines : List Line) {n : Nat} (h : lines.length ≤ n) :
    ((List.range n).flatMap fun r => lines.getD r []) = lines.flatten := by
  induction lines generalizing n with
  | nil =>
    rw [List.flatten_nil, List.flatMap_eq_nil_iff]
    exact fun r _ => rfl
  | cons line rest ih =>
    obtain ⟨m, rfl⟩ : ∃ m, n = m + 1 := ⟨n - 1, by rw [List.length_cons] at h; omega⟩
    have hrest : rest.length ≤ m := Nat.le_of_succ_le_succ h
    rw [List.range_succ_eq_map, List.flatMap_cons, List.flatMap_map, List.flatten_cons, ← ih hrest]
    rfl

end Row

/-! ### How a row is drawn -/

/-- The lines of a row: a rule above it, its text, a rule below it. -/
structure RowDrawing where
  above : List Line
  text : List Line
  below : List Line

/-- All lines of a row. -/
def RowDrawing.lines (d : RowDrawing) : List Line :=
  d.above ++ d.text ++ d.below

/-- The rule on one side of a row: it is there if any cell has a border on that side, and drawn
where the cells have it. -/
structure IsGridRule (widths : List Nat) (cells : List Cell) (side : Borders → Bool)
    (lines : List Line) : Prop where
  length_eq : lines.length = if cells.any fun c => side c.border then 1 else 0
  drawn : ∀ line ∈ lines, ∀ i w, widths[i]? = some w →
    slice (columnStart widths i) w line =
      List.replicate w (if side (cellAt cells i).border then '─' else ' ')

/-- A row of cells drawn on columns of some widths and placements. -/
structure IsGridRow (widths : List Nat) (align : Nat → Align) (cells : List Cell)
    (d : RowDrawing) : Prop where
  above : IsGridRule widths cells Borders.top d.above
  below : IsGridRule widths cells Borders.bottom d.below
  /-- All lines are as wide as the grid. -/
  width_eq : ∀ line ∈ d.lines, displayWidth line = gridWidth widths
  /-- There are as many lines of text as the highest cell has. -/
  height_eq :
    (widths.mapIdx fun i w => ((cellAt cells i).linesAt w).length).max? = some d.text.length
  /-- The text of a cell fits into its column. -/
  fits : ∀ i w, widths[i]? = some w →
    ∀ line ∈ (cellAt cells i).linesAt w, displayWidth line ≤ w
  /-- Its lines stand in the column one below the other, filled up, and blanks below them. -/
  cell_eq : ∀ (row : Nat) line, d.text[row]? = some line → ∀ i w, widths[i]? = some w →
    slice (columnStart widths i) w line =
      (((cellAt cells i).linesAt w)[row]?).elim (blanks w) (pad w (align i))
  /-- Between two cells there is a bar or there are blanks. -/
  gap_eq : ∀ line ∈ d.text, ∀ i w, widths[i]? = some w → i + 1 < widths.length →
    slice (columnStart widths i + w) gapWidth line =
      if (cellAt cells i).border.right || (cellAt cells (i + 1)).border.left then [' ', '│', ' ']
      else blanks gapWidth
  /-- The text of a cell can be read back from its column, but for blanks. -/
  readBack : ∀ i w, widths[i]? = some w →
    nonBlanks (d.text.flatMap (slice (columnStart widths i) w)) =
      nonBlanks (struckText (cellAt cells i).runs)

/-- The lines of some cells in their columns. -/
def RowDrawing.ofSlots (slots : List GridCell) : RowDrawing where
  above := ruleLines Borders.top slots
  text := (List.range (slotsHeight slots)).map fun row => slotsLine row slots
  below := ruleLines Borders.bottom slots

section Drawing

variable {widths : List Nat} {columns : List Column} {cells : List Cell}

theorem pos_of_mem_slotsOf (hlength : columns.length = widths.length)
    (hpos : ∀ w ∈ widths, 1 ≤ w) {s : GridCell} (hs : s ∈ slotsOf widths columns cells) :
    0 < s.width := by
  rw [← map_width_slotsOf hlength cells] at hpos
  exact hpos _ (List.mem_map_of_mem hs)

/-- The rule of a side is drawn over the columns whose cells have that border. -/
theorem isGridRule_ruleLines (hlength : columns.length = widths.length)
    (hcells : cells.length ≤ widths.length) (hpos : ∀ w ∈ widths, 1 ≤ w)
    {side : Borders → Bool} (hside : side {} = false) :
    IsGridRule widths cells side (ruleLines side (slotsOf widths columns cells)) := by
  refine ⟨?_, ?_⟩
  · rw [ruleLines, any_slotsOf hlength hcells hside]
    split <;> rfl
  · intro line hline i w hw
    rw [ruleLines] at hline
    split at hline
    · have hcell : ∀ s ∈ slotsOf widths columns cells,
          Spans s.width (stroke (side s.border) s.width) :=
        fun s hs => spans_stroke _ (pos_of_mem_slotsOf hlength hpos hs)
      have hgap : ∀ s t : GridCell,
          Spans gapWidth (stroke (side s.border && side t.border) gapWidth) :=
        fun s t => spans_stroke _ (by decide)
      have hslice := slice_across hcell hgap (getElem?_slotsOf hlength cells hw)
      rw [map_width_slotsOf hlength cells] at hslice
      rw [List.mem_singleton.mp hline, slotsRule_eq_across]
      exact hslice
    · exact absurd hline List.not_mem_nil

/-- All lines of a row are as wide as the grid, whatever its cells hold. -/
theorem displayWidth_of_mem_rowLines (hlength : columns.length = widths.length)
    (hpos : ∀ w ∈ widths, 1 ≤ w) :
    ∀ line ∈ rowLines (slotsOf widths columns cells), displayWidth line = gridWidth widths := by
  have hmap := map_width_slotsOf hlength cells
  have hstroke : ∀ drawn n, displayWidth (stroke drawn n) = n := by
    intro drawn n
    refine displayWidth_replicate ?_ n
    cases drawn <;> decide
  have hrule : ∀ side, ∀ line ∈ ruleLines side (slotsOf widths columns cells),
      displayWidth line = gridWidth widths := by
    intro side line hline
    rw [ruleLines] at hline
    split at hline
    · rw [List.mem_singleton.mp hline, slotsRule_eq_across,
        displayWidth_across (fun s _ => hstroke _ _) (fun s t => hstroke _ _), hmap]
    · exact absurd hline List.not_mem_nil
  have htext : ∀ row, displayWidth (slotsLine row (slotsOf widths columns cells)) =
      gridWidth widths := by
    intro row
    have hcell : ∀ s ∈ slotsOf widths columns cells, displayWidth (s.line row) = s.width := by
      intro s hs
      have hs0 := pos_of_mem_slotsOf hlength hpos hs
      obtain ⟨i, w, -, rfl⟩ := exists_of_mem_slotsOf hlength hs
      exact displayWidth_line hs0 _ _ row
    rw [slotsLine_eq_across, displayWidth_across hcell fun s t => (spans_gap s t).width, hmap]
  rw [rowLines, List.forall_mem_append, List.forall_mem_append, List.forall_mem_map]
  exact ⟨⟨hrule _, fun row _ => htext row⟩, hrule _⟩

section Free

variable (hlength : columns.length = widths.length) (hpos : ∀ w ∈ widths, 1 ≤ w)
  (hfree : OverlayFree cells)
include hlength hpos hfree

theorem spans_of_mem_slotsOf (row : Nat) :
    ∀ s ∈ slotsOf widths columns cells, Spans s.width (s.line row) := by
  intro s hs
  have hs0 := pos_of_mem_slotsOf hlength hpos hs
  obtain ⟨i, w, -, rfl⟩ := exists_of_mem_slotsOf hlength hs
  exact spans_line hs0 _ (hfree.cellAt i) row

/-- On every line a cell stands in its columns. -/
theorem slice_slotsLine (row : Nat) {i w : Nat} (hw : widths[i]? = some w) :
    slice (columnStart widths i) w (slotsLine row (slotsOf widths columns cells)) =
      (GridCell.ofCell w (alignAt columns i) (cellAt cells i)).line row := by
  have hslice := slice_across (spans_of_mem_slotsOf hlength hpos hfree row) spans_gap
    (getElem?_slotsOf hlength cells hw)
  rw [map_width_slotsOf hlength cells] at hslice
  rw [slotsLine_eq_across]
  exact hslice

/-- Behind its columns there is what parts it from the next cell. -/
theorem slice_slotsLine_gap (row : Nat) {i w v : Nat} (hw : widths[i]? = some w)
    (hv : widths[i + 1]? = some v) :
    slice (columnStart widths i + w) gapWidth (slotsLine row (slotsOf widths columns cells)) =
      gap (GridCell.ofCell w (alignAt columns i) (cellAt cells i))
        (GridCell.ofCell v (alignAt columns (i + 1)) (cellAt cells (i + 1))) := by
  have hslice := slice_across_between (spans_of_mem_slotsOf hlength hpos hfree row) spans_gap
    (getElem?_slotsOf hlength cells hw) (getElem?_slotsOf hlength cells hv)
  rw [map_width_slotsOf hlength cells] at hslice
  rw [slotsLine_eq_across]
  exact hslice

/-- The columns of a cell hold its text, but for blanks. -/
theorem nonBlanks_slices {i w n : Nat} (hw : widths[i]? = some w)
    (hn : ((cellAt cells i).linesAt w).length ≤ n) :
    nonBlanks (((List.range n).map fun row =>
      slotsLine row (slotsOf widths columns cells)).flatMap (slice (columnStart widths i) w)) =
      nonBlanks (struckText (cellAt cells i).runs) := by
  have hline : ∀ row,
      nonBlanks (slice (columnStart widths i) w (slotsLine row (slotsOf widths columns cells))) =
        nonBlanks (((cellAt cells i).linesAt w).getD row []) := by
    intro row
    rw [slice_slotsLine hlength hpos hfree row hw]
    exact nonBlanks_pad w _ _
  have hanchored : IsAnchored (struckText (cellAt cells i).runs) :=
    isAnchored_struckText (hfree.cellAt i)
  calc
    nonBlanks (((List.range n).map fun row =>
        slotsLine row (slotsOf widths columns cells)).flatMap (slice (columnStart widths i) w))
      = (List.range n).flatMap fun row => nonBlanks (((cellAt cells i).linesAt w).getD row []) := by
        rw [List.flatMap_map, Text.nonBlanks, List.filter_flatMap]
        exact congrArg (List.range n).flatMap (funext hline)
    _ = nonBlanks ((List.range n).flatMap fun row => ((cellAt cells i).linesAt w).getD row []) :=
        List.filter_flatMap.symm
    _ = nonBlanks ((cellAt cells i).linesAt w).flatten := by rw [flatMap_range_getD _ hn]
    _ = nonBlanks (struckText (cellAt cells i).runs) := hanchored.nonBlanks_wrapAll w

/-- **A row.** Cells that have a column each, and no overlays of their own, are drawn on the
columns. -/
theorem isGridRow_ofSlots (hcells : cells.length ≤ widths.length) (hne : widths ≠ []) :
    IsGridRow widths (alignAt columns) cells (.ofSlots (slotsOf widths columns cells)) := by
  have hslot : ∀ {i w}, widths[i]? = some w →
      GridCell.ofCell w (alignAt columns i) (cellAt cells i) ∈ slotsOf widths columns cells :=
    fun hw => List.mem_of_getElem? (getElem?_slotsOf hlength cells hw)
  have htext : ∀ (row : Nat) line,
      (RowDrawing.ofSlots (slotsOf widths columns cells)).text[row]? = some line →
        line = slotsLine row (slotsOf widths columns cells) := by
    intro row line hline
    rw [RowDrawing.ofSlots, List.getElem?_map, Option.map_eq_some_iff] at hline
    obtain ⟨r, hr, rfl⟩ := hline
    obtain ⟨hlt, rfl⟩ := List.getElem?_eq_some_iff.mp hr
    rw [List.getElem_range]
  exact {
    above := isGridRule_ruleLines hlength hcells hpos rfl
    below := isGridRule_ruleLines hlength hcells hpos rfl
    width_eq := displayWidth_of_mem_rowLines hlength hpos
    height_eq := by
      have hslots : slotsOf widths columns cells ≠ [] := by
        obtain ⟨w, ws, rfl⟩ := List.exists_cons_of_ne_nil hne
        exact List.ne_nil_of_mem (hslot (i := 0) rfl)
      have hheights : (slotsOf widths columns cells).map (·.lines.length) =
          widths.mapIdx fun i w => ((cellAt cells i).linesAt w).length := by
        refine List.ext_getElem? fun i => ?_
        rw [slotsOf_eq_mapIdx hlength, List.getElem?_map, List.getElem?_mapIdx,
          List.getElem?_mapIdx]
        cases widths[i]? <;> rfl
      rw [← hheights, max?_slotsHeight hslots, RowDrawing.ofSlots, List.length_map,
        List.length_range]
    fits := by
      intro i w hw line hline
      have hle := displayWidth_le_of_mem_wrapAll hline
      have hw1 := hpos w (List.mem_of_getElem? hw)
      omega
    cell_eq := by
      intro row line hline i w hw
      rw [htext row line hline, slice_slotsLine hlength hpos hfree row hw]
      show pad w (alignAt columns i) (((cellAt cells i).linesAt w).getD row []) = _
      rw [List.getD_eq_getElem?_getD]
      cases ((cellAt cells i).linesAt w)[row]? with
      | none => exact pad_nil w _
      | some line => rfl
    gap_eq := by
      intro line hline i w hw hi
      obtain ⟨row, hrow⟩ := List.getElem?_of_mem hline
      have hv : widths[i + 1]? = some widths[i + 1] := List.getElem?_eq_getElem hi
      rw [htext row line hrow, slice_slotsLine_gap hlength hpos hfree row hw hv]
      rfl
    readBack := by
      intro i w hw
      exact nonBlanks_slices hlength hpos hfree hw (length_le_slotsHeight (hslot hw)) }

end Free

end Drawing

/-! ### Columns -/

section Widths

variable {α : Type} [Weight α]

theorem length_columnWidths (available : Nat) (weights : List α) :
    (columnWidths available weights).length = weights.length := by
  have hlength : (shares available weights).length = weights.length := List.length_map _
  unfold columnWidths
  rw [← hlength]
  cases shares available weights <;> rfl

/-- Every column has a width of one at least, and the first one may get more than its share. -/
theorem one_le_of_mem_columnWidths (available : Nat) (weights : List α) :
    ∀ w ∈ columnWidths available weights, 1 ≤ w := by
  have hshares : ∀ w ∈ shares available weights, 1 ≤ w := by
    intro w hw
    obtain ⟨weight, -, rfl⟩ := List.mem_map.mp hw
    exact Nat.le_max_right _ _
  unfold columnWidths
  cases hsplit : shares available weights with
  | nil => exact List.forall_mem_nil _
  | cons first rest =>
    rw [hsplit, List.forall_mem_cons] at hshares
    exact List.forall_mem_cons.mpr ⟨Nat.le_add_right_of_le hshares.1, hshares.2⟩

theorem length_gridWidths (width : Nat) (columns : List Column) :
    (gridWidths width columns).length = columns.length :=
  (length_columnWidths _ _).trans (List.length_map _)

end Widths

section Count

variable {columns : List Column} {rows : List (List Cell)}

/-- There are as many columns as the table describes, and as any row has cells. -/
theorem le_columnCount (columns : List Column) (rows : List (List Cell)) :
    columns.length ≤ columnCount columns rows ∧
      ∀ cells ∈ rows, cells.length ≤ columnCount columns rows := by
  -- the fold carries the most cells so far
  have hfold : ∀ start,
      start ≤ rows.foldl (fun n cells => max n cells.length) start ∧
        ∀ cells ∈ rows,
          cells.length ≤ rows.foldl (fun n cells => max n cells.length) start := by
    induction rows with
    | nil => exact fun start => ⟨Nat.le_refl _, List.forall_mem_nil _⟩
    | cons row rest ih =>
      intro start
      obtain ⟨hstart, hrest⟩ := ih (max start row.length)
      refine ⟨Nat.le_trans (Nat.le_max_left _ _) hstart, ?_⟩
      exact List.forall_mem_cons.mpr ⟨Nat.le_trans (Nat.le_max_right _ _) hstart, hrest⟩
  exact hfold columns.length

theorem length_gridColumns (columns : List Column) (rows : List (List Cell)) :
    (gridColumns columns rows).length = columnCount columns rows := by
  have hle := (le_columnCount columns rows).1
  rw [gridColumns, List.length_append, List.length_replicate]
  omega

/-- The columns that are added place to the left, as those that are missing. -/
theorem alignAt_gridColumns (columns : List Column) (rows : List (List Cell)) :
    alignAt (gridColumns columns rows) = alignAt columns := by
  funext i
  rw [alignAt, alignAt, gridColumns, List.map_append, List.map_replicate,
    List.getD_eq_getElem?_getD, List.getD_eq_getElem?_getD]
  by_cases hi : i < (columns.map (·.align)).length
  · rw [List.getElem?_append_left hi]
  · rw [List.getElem?_append_right (Nat.le_of_not_lt hi),
      List.getElem?_eq_none (Nat.le_of_not_lt hi), List.getElem?_replicate]
    split <;> rfl

end Count

/-- **Tables stand on columns.** Let a table of at least one column hold no overlays of its own. Its
columns, of a width of one at least, are as many as it describes and as any row has cells. Its lines
are those of its rows, each drawn on the same columns. A machine computes these widths and lays out
these lines, or nothing at all: that is when the shares of the columns sum up to more than a word, a
width is more than one, or a line is longer than a text may be. -/
theorem tableLines_on_grid (width : Nat) {columns : List Column} {rows : List (List Cell)}
    (hcount : 0 < columnCount columns rows) (hfree : ∀ cells ∈ rows, OverlayFree cells) :
    let widths := gridWidths width (gridColumns columns rows)
    widths.length = columnCount columns rows ∧ (∀ w ∈ widths, 1 ≤ w) ∧
      (∀ cells ∈ rows, cells.length ≤ widths.length) ∧
      (∃ drawings, List.Forall₂ (IsGridRow widths (alignAt columns)) rows drawings ∧
        tableLines width columns rows = drawings.flatMap RowDrawing.lines) ∧
      (∀ computed, gridWidths? width (gridColumns columns rows) = some computed ↔
        computed = widths ∧ sharesSum width (gridColumns columns rows) ≤ greatestWord ∧
          ∀ w ∈ computed, w ≤ greatestWord) ∧
      ∀ lines, tableLines? width columns rows = some lines ↔
        lines = tableLines width columns rows ∧ FitsMachine width columns rows := by
  intro widths
  have hlength : (gridColumns columns rows).length = widths.length :=
    (length_gridWidths width _).symm
  have hwidths : widths.length = columnCount columns rows :=
    hlength.symm.trans (length_gridColumns columns rows)
  have hpos : ∀ w ∈ widths, 1 ≤ w := one_le_of_mem_columnWidths _ _
  have hcells : ∀ cells ∈ rows, cells.length ≤ widths.length := by
    rw [hwidths]
    exact (le_columnCount columns rows).2
  have hne : widths ≠ [] := List.ne_nil_of_length_pos (by omega)
  have hdrawn : ∀ cells ∈ rows, IsGridRow widths (alignAt columns) cells
      (.ofSlots (slotsOf widths (gridColumns columns rows) cells)) := by
    intro cells hrow
    rw [← alignAt_gridColumns columns rows]
    exact isGridRow_ofSlots hlength hpos (hfree cells hrow) (hcells cells hrow) hne
  refine ⟨hwidths, hpos, hcells, ⟨rows.map fun cells =>
    .ofSlots (slotsOf widths (gridColumns columns rows) cells), ?_, ?_⟩,
    fun _ => gridWidths?_eq_some_iff, fun _ => tableLines?_eq_some_iff⟩
  · rw [List.forall₂_map_right_iff, List.forall₂_same]
    exact hdrawn
  · -- the lines of a row are those of its drawing
    rw [List.flatMap_map]
    rfl

/-- A table of three rows, one of them longer than the columns that it describes and one shorter. -/
theorem tableLines_on_grid_ragged :
    let columns : List Column := [⟨2.0, .left⟩, ⟨1.0, .right⟩]
    let rows : List (List Cell) :=
      [[{ runs := [.plain "Service"], border := { bottom := true } },
          { runs := [.plain "€"], border := { bottom := true, left := true } }],
        [{ runs := [{ text := "old", strike := true }, .plain " new price"] }, .plain "9",
          .plain "x"],
        [.plain "end"]]
    0 < columnCount columns rows ∧ (∀ cells ∈ rows, OverlayFree cells) ∧
      tableLines? 20 columns rows = some (["Service  │   €      ", "──────────────      ",
        "o̶l̶d̶ new      9   x  ", "price               ", "end                 "].map (·.toList)) ∧
      FitsMachine 20 columns rows ∧
      ∃ drawings, List.Forall₂ (IsGridRow [8, 3, 3] (alignAt columns)) rows drawings ∧
        tableLines 20 columns rows = drawings.flatMap RowDrawing.lines := by
  intro columns rows
  have hcount : 0 < columnCount columns rows := by decide
  have hfree : ∀ cells ∈ rows, OverlayFree cells := by
    show ∀ cells ∈ rows, ∀ cell ∈ cells, ∀ r ∈ cell.runs, overlay ∉ r.text.toList
    decide
  have hwidths : gridWidths 20 (gridColumns columns rows) = [8, 3, 3] := by decide +kernel
  have hlines : tableLines? 20 columns rows = some (["Service  │   €      ",
      "──────────────      ", "o̶l̶d̶ new      9   x  ", "price               ",
      "end                 "].map (·.toList)) := by decide +kernel
  obtain ⟨-, -, -, hdrawn, -, hcomputed⟩ := tableLines_on_grid 20 hcount hfree
  rw [hwidths] at hdrawn
  exact ⟨hcount, hfree, hlines, ((hcomputed _).mp hlines).2, hdrawn⟩

/-! ### Tables that are too wide -/

theorem wrapAll_ne_nil (width : Nat) (text : Line) : wrapAll width text ≠ [] := by
  obtain ⟨first, rest, hsplit⟩ := List.exists_cons_of_ne_nil (List.splitOn_ne_nil '\n' text)
  rw [wrapAll, hsplit, List.flatMap_cons]
  exact List.append_ne_nil_of_left_ne_nil (wrap_ne_nil width first) _

/-- Cells have a line of text at least. -/
theorem slotsLine_zero_mem_rowLines {widths : List Nat} {columns : List Column}
    (hlength : columns.length = widths.length) (hne : widths ≠ []) (cells : List Cell) :
    slotsLine 0 (slotsOf widths columns cells) ∈ rowLines (slotsOf widths columns cells) := by
  obtain ⟨w, hw⟩ := List.exists_mem_of_ne_nil widths hne
  obtain ⟨i, hi⟩ := List.getElem?_of_mem hw
  have hslot := List.mem_of_getElem? (getElem?_slotsOf hlength cells hi)
  have hheight := length_le_slotsHeight hslot
  have hpos : 0 < ((cellAt cells i).linesAt w).length :=
    List.length_pos_of_ne_nil (wrapAll_ne_nil w _)
  refine List.mem_append_left _ (List.mem_append_right _ ?_)
  exact List.mem_map.mpr ⟨0, List.mem_range.mpr (Nat.lt_of_lt_of_le hpos hheight), rfl⟩

/-- A table with a row does not fit a machine if its grid has more columns than a text has bytes. -/
theorem not_fitsMachine {width : Nat} {columns : List Column} {rows : List (List Cell)}
    (hcount : 0 < columnCount columns rows) (hrows : rows ≠ [])
    (hlong : longestText < gridWidth (gridWidths width (gridColumns columns rows))) :
    ¬ FitsMachine width columns rows := by
  intro hfits
  obtain ⟨cells, hcells⟩ := List.exists_mem_of_ne_nil rows hrows
  have hlength := (length_gridWidths width (gridColumns columns rows)).symm
  have hne : gridWidths width (gridColumns columns rows) ≠ [] := by
    refine List.ne_nil_of_length_pos ?_
    rw [← hlength, length_gridColumns]
    exact hcount
  have hline := slotsLine_zero_mem_rowLines hlength hne cells
  have hwidth := displayWidth_of_mem_rowLines hlength (one_le_of_mem_columnWidths _ _) _ hline
  have htext := hfits.isText _ (List.mem_flatMap.mpr ⟨cells, hcells, hline⟩)
  have hbytes := displayWidth_le_byteSize
    (slotsLine 0 (slotsOf (gridWidths width (gridColumns columns rows)) (gridColumns columns rows)
      cells))
  rw [hwidth] at hbytes
  exact absurd (of_decide_eq_true htext) (Nat.not_le.mpr (Nat.lt_of_lt_of_le hlong hbytes))

/-- A weight can be so great that its share is the greatest word, and the table is not laid out. -/
theorem heavy_table_not_laid_out :
    let columns : List Column := [⟨1e37, .left⟩]
    let rows : List (List Cell) := [[.plain "a"]]
    gridWidths? 80 (gridColumns columns rows) = some [greatestWord] ∧
      tableLines? 80 columns rows = none := by
  intro columns rows
  have hwidths : gridWidths 80 (gridColumns columns rows) = [greatestWord] := by decide +kernel
  have hlong : longestText < gridWidth (gridWidths 80 (gridColumns columns rows)) := by
    rw [hwidths]
    decide
  refine ⟨by decide +kernel, Option.eq_none_iff_forall_ne_some.mpr fun lines hlines => ?_⟩
  have hfits := (tableLines?_eq_some_iff.mp hlines).2
  exact not_fitsMachine (by decide) (List.cons_ne_nil _ _) hlong hfits

end Letterhead
