import Letterhead.Document.Basic

/-!
# Lines of characters

A page of text is a grid of characters of one width. The one exception is the overlay that strikes
out the character before it: it takes no column.

* `displayWidth` — the columns that a line takes;
* `pad`, `placed` — a line filled up to a width, and a line placed between margins;
* `struckText` — the characters of some runs, those of struck runs overlaid.
-/

namespace Letterhead

/-- A line of text, or any stretch of characters. -/
abbrev Line := List Char

/-- The overlay that strikes out the character before it. -/
def overlay : Char := '\u0336'

/-- The columns that a line takes. -/
def displayWidth (line : Line) : Nat :=
  line.countP (· != overlay)

@[simp] theorem displayWidth_nil : displayWidth [] = 0 := rfl

@[simp] theorem displayWidth_append (s t : Line) :
    displayWidth (s ++ t) = displayWidth s + displayWidth t :=
  List.countP_append

theorem displayWidth_cons (c : Char) (line : Line) :
    displayWidth (c :: line) = displayWidth line + if c = overlay then 0 else 1 := by
  rw [displayWidth, List.countP_cons]
  by_cases h : c = overlay
  · rw [if_pos h, if_neg (by simpa using h)]
    rfl
  · rw [if_neg h, if_pos (by simpa using h)]
    rfl

theorem displayWidth_replicate {c : Char} (h : c ≠ overlay) (n : Nat) :
    displayWidth (List.replicate n c) = n := by
  rw [displayWidth, List.countP_replicate, if_pos (by simpa using h)]

/-- A part of a line takes no more columns than the line. -/
theorem displayWidth_le_of_sublist {s t : Line} (h : List.Sublist s t) :
    displayWidth s ≤ displayWidth t :=
  h.countP_le

/-! ### Blanks -/

/-- Blanks over some columns. -/
def blanks (n : Nat) : Line :=
  List.replicate n ' '

@[simp] theorem displayWidth_blanks (n : Nat) : displayWidth (blanks n) = n :=
  displayWidth_replicate (by decide) n

/-- A line filled up with blanks to a width, at the sides that its placement leaves. -/
def pad (width : Nat) (align : Align) (line : Line) : Line :=
  let gap := width - displayWidth line
  match align with
  | .left => line ++ blanks gap
  | .right => blanks gap ++ line
  | .center => blanks (gap / 2) ++ (line ++ blanks (gap - gap / 2))

/-- A line that fits is filled up to exactly the width, and any other one is left as it is. -/
theorem displayWidth_pad (width : Nat) (align : Align) (line : Line) :
    displayWidth (pad width align line) = max width (displayWidth line) := by
  cases align <;>
    simp only [pad, displayWidth_append, displayWidth_blanks] <;> omega

/-- A line at its place between margins, with nothing after it. -/
def placed (width : Nat) (align : Align) (line : Line) : Line :=
  match align with
  | .left => line
  | .right => Text.trimEnd (pad width .right line)
  | .center => Text.trimEnd (pad width .center line)

/-- Nothing is put beyond the right margin. -/
theorem displayWidth_placed_le {width : Nat} {line : Line} (h : displayWidth line ≤ width)
    (align : Align) : displayWidth (placed width align line) ≤ width := by
  have htrim : ∀ padding, displayWidth (Text.trimEnd (pad width padding line)) ≤ width := by
    intro padding
    have hle := displayWidth_le_of_sublist (Text.trimEnd_prefix (pad width padding line)).sublist
    rw [displayWidth_pad] at hle
    omega
  cases align with
  | left => exact h
  | right => exact htrim .right
  | center => exact htrim .center

/-! ### Struck text -/

/-- A character struck out; a blank shows no stroke. -/
def struckChar (c : Char) : Line :=
  if Text.isBlank c then [c] else [c, overlay]

/-- The characters of a run. -/
def Run.struckText (r : Run) : Line :=
  if r.strike then r.text.toList.flatMap struckChar else r.text.toList

/-- The characters of some runs. -/
def struckText (runs : List Run) : Line :=
  runs.flatMap Run.struckText

end Letterhead
