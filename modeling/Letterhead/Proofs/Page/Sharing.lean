import Mathlib.Algebra.BigOperators.Ring.Finset
import Mathlib.Algebra.BigOperators.Ring.List
import Mathlib.Algebra.Order.BigOperators.Group.List
import Mathlib.Data.Rat.Floor
import Letterhead.Proofs.Page.Columns

/-!
# How a width is shared

Each column of a table has a quota of the width by its weight. It gets the quota rounded down, but
one column at least, and the first column gets what is left over. Rounding down leaves something,
and widening narrow columns to one takes it. If it takes more than is left, the table is wider than
it may be, by one column less than it has narrow columns at most.

Quotas are computed in exact numbers here.

* `quotas`, `sum_quotas`, `shares_eq` — the quotas, which sum up to the width, and the shares;
* `narrowCount`, `leftOver`, `excess` — the columns that are widened, what rounding down leaves, and
  what is taken beyond that;
* `sum_shares_add_leftOver`, `narrowCount_lt_length`, `excess_le` — the sum of the shares, and how
  far it can come beyond the width;
* `table_fits_iff` — the columns of a table fit, or by how much they do not.
-/

namespace Letterhead

/-! ### Quotas -/

instance : Weight ℚ where
  ofNat n := n
  isPositive w := decide (0 < w)
  floor w := ⌊w⌋₊

/-- What each column is due of a width by its weight. -/
def quotas (available : Nat) (weights : List ℚ) : List ℚ :=
  weights.map fun w => available * w / weights.sum

/-- The columns that are due less than one column. -/
def narrowCount (available : Nat) (weights : List ℚ) : Nat :=
  (quotas available weights).countP (· < 1)

/-- The sum of the quotas, each rounded down. -/
def flooredSum (available : Nat) (weights : List ℚ) : Nat :=
  ((quotas available weights).map (⌊·⌋₊)).sum

/-- What is left of a width when the quotas are rounded down. -/
def leftOver (available : Nat) (weights : List ℚ) : Nat :=
  available - flooredSum available weights

/-- What widening the narrow columns takes beyond what is left. -/
def excess (available : Nat) (weights : List ℚ) : Nat :=
  narrowCount available weights - leftOver available weights

/-- A share is a quota rounded down, or one. -/
theorem shares_eq (available : Nat) (weights : List ℚ) :
    shares available weights = (quotas available weights).map fun q => max ⌊q⌋₊ 1 := by
  have htotal : weights.foldl (· + ·) 0 = weights.sum := List.sum_eq_foldl.symm
  rw [quotas, List.map_map]
  refine List.map_congr_left fun w _ => ?_
  show max ⌊(available : ℚ) * w / weights.foldl (· + ·) ((0 : Nat) : ℚ)⌋₊ 1 = _
  rw [Nat.cast_zero, htotal]
  rfl

section Positive

variable {available : Nat} {weights : List ℚ} (hpos : ∀ w ∈ weights, 0 < w)
include hpos

theorem sum_weights_pos (hne : weights ≠ []) : 0 < weights.sum :=
  List.sum_pos weights hpos hne

/-- Every column is due something, if there is something. -/
theorem quotas_pos (havailable : 0 < available) : ∀ q ∈ quotas available weights, 0 < q := by
  intro q hq
  obtain ⟨w, hw, rfl⟩ := List.mem_map.mp hq
  have hsum := sum_weights_pos hpos (List.ne_nil_of_mem hw)
  have hw0 := hpos w hw
  have ha : (0 : ℚ) < available := Nat.cast_pos.mpr havailable
  positivity

/-- The quotas sum up to the width. -/
theorem sum_quotas (hne : weights ≠ []) : (quotas available weights).sum = available := by
  have hsum : weights.sum ≠ 0 := (sum_weights_pos hpos hne).ne'
  have hfactor : quotas available weights =
      weights.map fun w => (available / weights.sum : ℚ) * w :=
    List.map_congr_left fun w _ => by ring
  rw [hfactor, List.sum_map_mul_left, List.map_id', div_mul_cancel₀ _ hsum]

end Positive

/-! ### Rounding down and widening -/

section Rounding

variable {qs : List ℚ}

theorem cast_sum_floor (qs : List ℚ) :
    (((qs.map (⌊·⌋₊)).sum : Nat) : ℚ) = (qs.map fun q => (⌊q⌋₊ : ℚ)).sum := by
  rw [Nat.cast_list_sum, List.map_map]
  rfl

theorem floor_le_of_pos (hpos : ∀ q ∈ qs, 0 < q) : ∀ q ∈ qs, (⌊q⌋₊ : ℚ) ≤ q :=
  fun q hq => Nat.floor_le (hpos q hq).le

theorem sum_floor_le_sum (hpos : ∀ q ∈ qs, 0 < q) :
    (((qs.map (⌊·⌋₊)).sum : Nat) : ℚ) ≤ qs.sum := by
  have hsum := List.sum_le_sum (floor_le_of_pos hpos)
  rw [List.map_id'] at hsum
  rwa [cast_sum_floor]

/-- A quota of less than one is lost when it is rounded down. -/
theorem sum_floor_lt_sum (hpos : ∀ q ∈ qs, 0 < q) {q : ℚ} (hq : q ∈ qs) (hnarrow : q < 1) :
    (((qs.map (⌊·⌋₊)).sum : Nat) : ℚ) < qs.sum := by
  have hlt : (⌊q⌋₊ : ℚ) < q := by
    rw [Nat.floor_eq_zero.mpr hnarrow, Nat.cast_zero]
    exact hpos q hq
  have hsum := List.sum_lt_sum _ _ (floor_le_of_pos hpos) ⟨q, hq, hlt⟩
  rw [List.map_id'] at hsum
  rwa [cast_sum_floor]

/-- Widening adds one for each quota of less than one. -/
theorem sum_map_max_floor (qs : List ℚ) :
    (qs.map fun q => max ⌊q⌋₊ 1).sum = (qs.map (⌊·⌋₊)).sum + qs.countP (· < 1) := by
  induction qs with
  | nil => rfl
  | cons q qs ih =>
    rw [List.map_cons, List.sum_cons, ih, List.map_cons, List.sum_cons, List.countP_cons]
    by_cases hq : q < 1
    · rw [if_pos (decide_eq_true hq), Nat.floor_eq_zero.mpr hq]
      omega
    · have hfloor : 1 ≤ ⌊q⌋₊ := Nat.floor_pos.mpr (not_lt.mp hq)
      rw [if_neg (by simpa using hq)]
      omega

/-- If all quotas are less than one they do not sum up to their number. -/
theorem sum_lt_length (hne : qs ≠ []) (hnarrow : ∀ q ∈ qs, q < 1) : qs.sum < qs.length := by
  obtain ⟨q, rest, rfl⟩ := List.exists_cons_of_ne_nil hne
  have hsum := List.sum_lt_sum (fun q : ℚ => q) (fun _ => 1) (fun q hq => (hnarrow q hq).le)
    ⟨q, List.mem_cons_self, hnarrow q List.mem_cons_self⟩
  rw [List.map_id', List.map_const', List.sum_replicate, nsmul_eq_mul, mul_one] at hsum
  exact hsum

end Rounding

/-! ### How far shares come beyond a width -/

section Shares

variable {available : Nat} {weights : List ℚ}

theorem length_quotas (available : Nat) (weights : List ℚ) :
    (quotas available weights).length = weights.length :=
  List.length_map _

variable (hpos : ∀ w ∈ weights, 0 < w) (hne : weights ≠ [])
include hpos hne

/-- Rounded down, the quotas leave something of the width. -/
theorem flooredSum_le (havailable : 0 < available) : flooredSum available weights ≤ available := by
  have hle := sum_floor_le_sum (quotas_pos hpos havailable)
  rw [sum_quotas hpos hne] at hle
  exact Nat.cast_le.mp hle

/-- A narrow column leaves one column at least. -/
theorem leftOver_pos (havailable : 0 < available) (hnarrow : 0 < narrowCount available weights) :
    0 < leftOver available weights := by
  obtain ⟨q, hq, hlt⟩ := List.countP_pos_iff.mp hnarrow
  have hsum := sum_floor_lt_sum (quotas_pos hpos havailable) hq (of_decide_eq_true hlt)
  rw [sum_quotas hpos hne] at hsum
  have hfloored : flooredSum available weights < available := Nat.cast_lt.mp hsum
  rw [leftOver]
  omega

/-- Where there is a column for each, they are not all narrow. -/
theorem narrowCount_lt_length (hroom : weights.length ≤ available) :
    narrowCount available weights < weights.length := by
  have hle : narrowCount available weights ≤ weights.length := by
    rw [← length_quotas available weights]
    exact List.countP_le_length
  refine lt_of_le_of_ne hle fun hall => ?_
  -- all of them narrow, the quotas would not sum up to the width
  rw [← length_quotas available weights] at hall
  have hnarrow : ∀ q ∈ quotas available weights, q < 1 :=
    fun q hq => of_decide_eq_true (List.countP_eq_length.mp hall q hq)
  have hquotas : quotas available weights ≠ [] := fun hnil => hne (List.map_eq_nil_iff.mp hnil)
  have hsum := sum_lt_length hquotas hnarrow
  rw [sum_quotas hpos hne, length_quotas, Nat.cast_lt] at hsum
  omega

/-- All columns but two at most are taken beyond the width. -/
theorem excess_le (hroom : weights.length ≤ available) :
    excess available weights ≤ weights.length - 2 := by
  have havailable : 0 < available :=
    Nat.lt_of_lt_of_le (List.length_pos_of_ne_nil hne) hroom
  have hlt := narrowCount_lt_length hpos hne hroom
  rcases Nat.eq_zero_or_pos (narrowCount available weights) with hzero | hnarrow
  · rw [excess, hzero, Nat.zero_sub]
    exact Nat.zero_le _
  · have hleft := leftOver_pos hpos hne havailable hnarrow
    rw [excess]
    omega

/-- The shares are what the quotas leave, and the narrow columns. -/
theorem sum_shares_add_leftOver (havailable : 0 < available) :
    (shares available weights).sum + leftOver available weights =
      available + narrowCount available weights := by
  have hfloored := flooredSum_le hpos hne havailable
  have hshares : (shares available weights).sum =
      flooredSum available weights + narrowCount available weights := by
    rw [shares_eq, sum_map_max_floor, flooredSum, narrowCount]
  rw [hshares, leftOver]
  omega

end Shares

/-! ### Widths -/

/-- The first column gets what the shares leave, if they leave something. -/
theorem sum_columnWidths {α : Type} [Weight α] (available : Nat) {weights : List α}
    (hne : weights ≠ []) :
    (columnWidths available weights).sum = max available (shares available weights).sum := by
  have hshares : shares available weights ≠ [] := fun hnil => hne (List.map_eq_nil_iff.mp hnil)
  obtain ⟨first, rest, hsplit⟩ := List.exists_cons_of_ne_nil hshares
  unfold columnWidths
  rw [hsplit]
  show ((first + (available - (first :: rest).sum)) :: rest).sum = _
  rw [List.sum_cons, List.sum_cons]
  omega

/-- **How tables fit.** Let the columns of a table have positive weights, and let there be room for
one column each and the gaps. Then the columns take what there is without the gaps just if there are
not more narrow ones than rounding down leaves columns over. If there are more, the table is wider
than it may be, by as many columns; these are fewer by two than all of them, at most. -/
theorem table_fits_iff {width : Nat} {weights : List ℚ} (hpos : ∀ w ∈ weights, 0 < w)
    (hne : weights ≠ []) (hwidth : weights.length + gapWidth * (weights.length - 1) ≤ width) :
    let available := width - gapWidth * (weights.length - 1)
    let widths := widthsByWeight width weights
    widths.sum = available + excess available weights ∧
      (widths.sum = available ↔ narrowCount available weights ≤ leftOver available weights) ∧
      widths.sum ≤ available + (weights.length - 2) ∧
      ∀ columns cells, columns.length = weights.length →
        ∀ line ∈ rowLines (slotsOf widths columns cells),
          displayWidth line = width + excess available weights := by
  intro available widths
  have hlength : 0 < weights.length := List.length_pos_of_ne_nil hne
  have hgaps : available + gapWidth * (weights.length - 1) = width := by
    show width - gapWidth * (weights.length - 1) + gapWidth * (weights.length - 1) = width
    exact Nat.sub_add_cancel (Nat.le_of_add_left_le hwidth)
  have hroom : weights.length ≤ available := by
    show weights.length ≤ width - gapWidth * (weights.length - 1)
    exact Nat.le_sub_of_add_le hwidth
  have hwidths : widths = columnWidths available weights := by
    show columnWidths (max available weights.length) weights = _
    rw [Nat.max_eq_left hroom]
  have hshares := sum_shares_add_leftOver hpos hne (Nat.lt_of_lt_of_le hlength hroom)
  have hsum : widths.sum = available + excess available weights := by
    rw [hwidths, sum_columnWidths _ hne, excess]
    omega
  refine ⟨hsum, ?_, ?_, ?_⟩
  · rw [hsum, excess]
    omega
  · rw [hsum]
    exact Nat.add_le_add_left (excess_le hpos hne hroom) _
  · intro columns cells hcolumns line hline
    have hcount : widths.length = weights.length := by
      rw [hwidths, length_columnWidths]
    have hone : ∀ w ∈ widths, 1 ≤ w := by
      rw [hwidths]
      exact one_le_of_mem_columnWidths _ _
    rw [displayWidth_of_mem_rowLines (hcolumns.trans hcount.symm) hone line hline, gridWidth, hsum,
      hcount]
    omega

/-- Of three columns, two are narrow, and rounding down leaves one column over. -/
theorem table_fits_iff_three :
    let weights : List ℚ := [100, 1, 1]
    (∀ w ∈ weights, 0 < w) ∧ weights ≠ [] ∧ weights.length + gapWidth * (weights.length - 1) ≤ 24 ∧
      widthsByWeight 24 weights = [17, 1, 1] ∧ narrowCount 18 weights = 2 ∧
      leftOver 18 weights = 1 ∧ (widthsByWeight 24 weights).sum = 18 + excess 18 weights := by
  intro weights
  have hpos : ∀ w ∈ weights, 0 < w := by decide +kernel
  have hne : weights ≠ [] := List.cons_ne_nil _ _
  have hwidth : weights.length + gapWidth * (weights.length - 1) ≤ 24 := by decide
  exact ⟨hpos, hne, hwidth, by decide +kernel, by decide +kernel, by decide +kernel,
    (table_fits_iff hpos hne hwidth).1⟩

/-- Where there is room for just one column each, a heavy column overruns the width. -/
theorem heavy_column_overruns :
    let weights : List ℚ := [100, 1, 1, 1, 1, 1, 1]
    let columns : List Column := ⟨100.0, .left⟩ :: List.replicate 6 ⟨1.0, .left⟩
    let rows : List (List Cell) := [["a", "b", "c", "d", "e", "f", "g"].map Cell.plain]
    (∀ w ∈ weights, 0 < w) ∧ 4 * weights.length - 3 ≤ 25 ∧
      (widthsByWeight 25 weights).sum ≠ 25 - gapWidth * (weights.length - 1) ∧
      widthsByWeight 25 weights = [6, 1, 1, 1, 1, 1, 1] ∧
      tableLines 25 columns rows = ["a        b   c   d   e   f   g".toList] := by
  decide +kernel

end Letterhead
