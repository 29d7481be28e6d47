import Mathlib.Algebra.Order.BigOperators.Group.List
import Mathlib.Algebra.Order.Group.Nat
import Mathlib.Algebra.Ring.Nat
import Letterhead.Page.Grid

/-!
# Tables on a machine

A machine sums the widths of columns up in words, and keeps lines in texts. Where a sum is greater
than all words it stops, and so it does where a line is longer than all texts. Otherwise it computes
what is computed with numbers and texts of any size. The sums on the way are no greater than the
last one, and what the first column gets beyond its share makes it no wider than what there is to
share.

* `foldlM_addWords?_eq_some_iff` — a sum of words;
* `columnWidths?_eq_some_iff`, `le_greatestWord_of_mem_columnWidths` — the widths of columns;
* `FitsMachine`, `tableLines?_eq_some_iff`, `fitsMachine_iff` — the tables that are laid out;
* `displayWidth_le_byteSize` — a line has a byte at least for each of its columns.
-/

namespace Letterhead

open Decimal

/-! ### Widths -/

theorem addWords?_eq_some_iff {m n total : ℕ} :
    addWords? m n = some total ↔ total = m + n ∧ total ≤ greatestWord := by
  unfold addWords?
  split
  · next h =>
    rw [Option.some.injEq, eq_comm, iff_self_and]
    rintro rfl
    exact h
  · next h =>
    refine iff_of_false (fun hnone => nomatch hnone) ?_
    rintro ⟨rfl, hle⟩
    exact h hle

/-- A sum is computed if it is a word itself. -/
theorem foldlM_addWords?_eq_some_iff {m total : ℕ} {ns : List ℕ} (hm : m ≤ greatestWord) :
    ns.foldlM addWords? m = some total ↔ total = m + ns.sum ∧ total ≤ greatestWord := by
  induction ns generalizing m with
  | nil =>
    rw [List.foldlM_nil, Option.pure_def, Option.some.injEq, List.sum_nil, Nat.add_zero, eq_comm,
      iff_self_and]
    rintro rfl
    exact hm
  | cons n rest ih =>
    rw [List.foldlM_cons, List.sum_cons, ← Nat.add_assoc]
    cases hsum : addWords? m n with
    | none =>
      refine iff_of_false (fun hnone => nomatch hnone) ?_
      rintro ⟨rfl, hle⟩
      have hword : addWords? m n = some (m + n) :=
        addWords?_eq_some_iff.mpr ⟨rfl, Nat.le_of_add_right_le hle⟩
      rw [hsum] at hword
      cases hword
    | some sum =>
      obtain ⟨rfl, hle⟩ := addWords?_eq_some_iff.mp hsum
      exact ih hle

section Widths

variable {α : Type} [Weight α] {available : ℕ} {weights : List α}

/-- The widths of columns are computed if their shares sum up to a word and they are words. -/
theorem columnWidths?_eq_some_iff {widths : List ℕ} :
    columnWidths? available weights = some widths ↔
      widths = columnWidths available weights ∧
        (shares available weights).sum ≤ greatestWord ∧ ∀ w ∈ widths, w ≤ greatestWord := by
  unfold columnWidths? columnWidths
  generalize shares available weights = ss
  cases ss with
  | nil =>
    show some [] = some widths ↔ _
    rw [Option.some.injEq, eq_comm, iff_self_and]
    rintro rfl
    exact ⟨Nat.zero_le _, List.forall_mem_nil _⟩
  | cons first rest =>
    show ((first :: rest).foldlM addWords? 0).bind (fun used =>
      (addWords? first (available - used)).bind fun wider => some (wider :: rest)) = some widths ↔
        widths = (first + (available - (first :: rest).sum)) :: rest ∧ _
    rw [Option.bind_eq_some_iff]
    constructor
    · rintro ⟨used, hused, hwider⟩
      obtain ⟨wider, hwider, hwidths⟩ := Option.bind_eq_some_iff.mp hwider
      obtain ⟨hsum, hword⟩ := (foldlM_addWords?_eq_some_iff (Nat.zero_le _)).mp hused
      obtain ⟨rfl, hfirst⟩ := addWords?_eq_some_iff.mp hwider
      obtain rfl := Option.some.inj hwidths
      rw [Nat.zero_add] at hsum
      rw [hsum] at hword hfirst ⊢
      refine ⟨rfl, hword, List.forall_mem_cons.mpr ⟨hfirst, fun w hw => ?_⟩⟩
      exact (List.le_sum_of_mem (List.mem_cons_of_mem first hw)).trans hword
    · rintro ⟨rfl, hword, hwidths⟩
      have hfirst := hwidths _ List.mem_cons_self
      refine ⟨(first :: rest).sum, ?_, ?_⟩
      · exact (foldlM_addWords?_eq_some_iff (Nat.zero_le _)).mpr ⟨(Nat.zero_add _).symm, hword⟩
      · rw [addWords?_eq_some_iff.mpr ⟨rfl, hfirst⟩]
        rfl

/-- If there is a word to share and the shares sum up to one, the first column gets no more than
that. -/
theorem le_greatestWord_of_mem_columnWidths (havailable : available ≤ greatestWord)
    (hused : (shares available weights).sum ≤ greatestWord) :
    ∀ w ∈ columnWidths available weights, w ≤ greatestWord := by
  unfold columnWidths
  cases hsplit : shares available weights with
  | nil => exact List.forall_mem_nil _
  | cons first rest =>
    rw [hsplit] at hused
    have hfirst : first ≤ (first :: rest).sum := List.le_sum_of_mem List.mem_cons_self
    have hrest : ∀ w ∈ rest, w ≤ (first :: rest).sum := fun w hw =>
      List.le_sum_of_mem (List.mem_cons_of_mem first hw)
    refine List.forall_mem_cons.mpr ⟨?_, fun w hw => (hrest w hw).trans hused⟩
    show first + (available - (first :: rest).sum) ≤ greatestWord
    omega

end Widths

/-! ### Lines -/

/-- Each character of a line takes a byte at least, those that take no column as well. -/
theorem displayWidth_le_byteSize (line : Line) : displayWidth line ≤ byteSize line := by
  induction line with
  | nil => exact Nat.zero_le _
  | cons c rest ih =>
    have hc := c.utf8Size_pos
    rw [displayWidth_cons, byteSize]
    split <;> omega

/-! ### Tables -/

section Tables

variable {width : ℕ} {columns : List Column} {rows : List (List Cell)}

/-- What the shares of the columns of a grid sum up to. -/
def sharesSum (width : ℕ) (columns : List Column) : ℕ :=
  (shares (columnRoom width columns.length) (columns.map Column.weight)).sum

theorem gridWidths_eq (width : ℕ) (columns : List Column) :
    gridWidths width columns =
      columnWidths (columnRoom width columns.length) (columns.map Column.weight) := by
  rw [gridWidths, widthsByWeight, List.length_map]

theorem gridWidths?_eq_some_iff {widths : List ℕ} :
    gridWidths? width columns = some widths ↔
      widths = gridWidths width columns ∧
        sharesSum width columns ≤ greatestWord ∧ ∀ w ∈ widths, w ≤ greatestWord := by
  rw [gridWidths_eq]
  exact columnWidths?_eq_some_iff

/-- Whether the words and the texts of a machine are great enough for a table. -/
structure FitsMachine (width : ℕ) (columns : List Column) (rows : List (List Cell)) : Prop where
  sharesSum_le : sharesSum width (gridColumns columns rows) ≤ greatestWord
  width_le : ∀ w ∈ gridWidths width (gridColumns columns rows), w ≤ greatestWord
  isText : ∀ line ∈ tableLines width columns rows, isText line = true

/-- **A machine lays a table out if it fits, and as it is laid out with numbers and texts of any
size.** -/
theorem tableLines?_eq_some_iff {lines : List Line} :
    tableLines? width columns rows = some lines ↔
      lines = tableLines width columns rows ∧ FitsMachine width columns rows := by
  unfold tableLines?
  rw [Option.bind_eq_bind, Option.bind_eq_some_iff]
  constructor
  · rintro ⟨widths, hwidths, hlines⟩
    obtain ⟨rfl, hsum, hword⟩ := gridWidths?_eq_some_iff.mp hwidths
    dsimp only at hlines
    split at hlines
    · next htexts =>
      obtain rfl := Option.some.inj hlines
      exact ⟨rfl, hsum, hword, List.all_eq_true.mp htexts⟩
    · cases hlines
  · rintro ⟨rfl, hsum, hword, htexts⟩
    refine ⟨_, gridWidths?_eq_some_iff.mpr ⟨rfl, hsum, hword⟩, ?_⟩
    exact if_pos (List.all_eq_true.mpr htexts)

/-- If there is a word of columns to share, it is enough that the shares sum up to one. -/
theorem fitsMachine_iff
    (hroom : columnRoom width (gridColumns columns rows).length ≤ greatestWord) :
    FitsMachine width columns rows ↔
      sharesSum width (gridColumns columns rows) ≤ greatestWord ∧
        ∀ line ∈ tableLines width columns rows, isText line = true := by
  constructor
  · exact fun h => ⟨h.sharesSum_le, h.isText⟩
  · rintro ⟨hsum, htexts⟩
    refine ⟨hsum, ?_, htexts⟩
    rw [gridWidths_eq]
    exact le_greatestWord_of_mem_columnWidths hroom hsum

end Tables

end Letterhead
