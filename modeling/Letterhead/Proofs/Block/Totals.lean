import Letterhead.Document.Section
import Letterhead.Proofs.Money.Exact

/-!
# Totals that add up

The rows of the totals say a subtotal, a discount and a total. The row of the discount says its
magnitude after a minus sign, but the total is computed from the discount with its sign. So the rows
add up unless a discount of less than nothing is shown: it is told as taken off and is put on.

* `Figures.deducted`, `Figures.rowTexts` — what the rows say;
* `blockElements_totals`, `rowTexts_totalsTable` — and that they say it;
* `Figures.derive_eq` — the figures in exact numbers, where no total is given;
* `totals_add_up_iff` — when the rows add up, and what they come to otherwise.
-/

namespace Letterhead

/-! ### What the rows say -/

/-- The texts in the cells of a table, row by row. -/
def Element.rowTexts : Element → List (List String)
  | .table _ rows => rows.map fun row => row.map fun cell => runsText cell.runs
  | _ => []

section Rows

variable {α : Type} [Amount α]

/-- What the rows say is taken off: the magnitude of the discount that is shown. -/
def Figures.deducted (f : Figures α) : α :=
  (f.discount.map Amount.magnitude).getD Amount.zero

/-- The rows that figures are shown in. -/
def Figures.rowTexts (text : α → String) (f : Figures α) : List (List String) :=
  ["Subtotal", text f.subtotal] ::
    ((f.discount.map fun _ => ["Discount", "-" ++ text f.deducted]).toList ++
      [["Total", text f.total]])

theorem runsText_singleton (run : Run) : runsText [run] = run.text := by
  simp [runsText, String.join]

theorem rowTexts_totalsTable (style : BrandStyle) (text : α → String) (f : Figures α) :
    (totalsTable style (.ofFigures text f)).rowTexts = f.rowTexts text := by
  cases hdiscount : f.discount with
  | none =>
    simp [totalsTable, Totals.ofFigures, Element.rowTexts, Figures.rowTexts, totalsRow, Cell.plain,
      Run.plain, runsText_singleton, hdiscount]
  | some d =>
    simp [totalsTable, Totals.ofFigures, Element.rowTexts, Figures.rowTexts, Figures.deducted,
      totalsRow, Cell.plain, Run.plain, runsText_singleton, hdiscount]

end Rows

/-- The block of totals is the table of the figures of the proposal. -/
theorem blockElements_totals (style : BrandStyle) (config : BlockConfig) {context : Context}
    {p : Proposal} (hproposal : context.proposal = some p) :
    blockElements style context BlockKind.totals.name config =
      [totalsTable style (.ofFigures currencyText p.figures)] := by
  simp [blockElements, BlockData.resolve, BlockData.ofKind, BlockData.elements, hproposal,
    Totals.ofProposal]

/-! ### The figures in exact numbers -/

/-- A discount that is shown: one of half a cent at least. -/
def shownDiscount (discount : Option ℚ) : Option ℚ :=
  discount.filter fun d => 1 / 200 ≤ |d|

/-- What is taken off the subtotal. -/
def takenOff (discount : Option ℚ) : ℚ :=
  (shownDiscount discount).getD 0

theorem shownDiscount_of_le {d : ℚ} (h : 1 / 200 ≤ |d|) : shownDiscount (some d) = some d := by
  rw [shownDiscount, Option.filter_some, if_pos (decide_eq_true h)]

theorem shownDiscount_of_lt {d : ℚ} (h : |d| < 1 / 200) : shownDiscount (some d) = none := by
  rw [shownDiscount, Option.filter_some, if_neg (by simpa using h)]

/-- The figures where no total is given. -/
theorem Figures.derive_eq (subtotal discount : Option ℚ) (lines : List ℚ) :
    Figures.derive subtotal discount none lines =
      { subtotal := subtotal.getD lines.sum
        discount := shownDiscount discount
        total := subtotal.getD lines.sum - takenOff discount } := by
  have hhalf : (Amount.ofNat 1 / Amount.ofNat 200 : ℚ) = 1 / 200 := by
    show ((1 : Nat) : ℚ) / ((200 : Nat) : ℚ) = 1 / 200
    norm_num
  have hfilter : (discount.filter fun d =>
      Amount.atMost (Amount.ofNat 1 / Amount.ofNat 200) (Amount.magnitude d)) =
        shownDiscount discount := by
    refine congrArg (fun keep => Option.filter keep discount) (funext fun d => ?_)
    rw [hhalf, Amount.magnitude_eq_abs]
    rfl
  unfold Figures.derive
  dsimp only
  rw [hfilter, Amount.sum_eq_sum, Amount.zero_eq_zero, Option.getD_none, takenOff]

/-- The row of the discount says the magnitude of what is taken off. -/
theorem deducted_derive (subtotal discount : Option ℚ) (lines : List ℚ) :
    (Figures.derive subtotal discount none lines).deducted = |takenOff discount| := by
  rw [Figures.derive_eq, Figures.deducted, takenOff, Amount.zero_eq_zero]
  -- a row that is hidden says zero, which is its own magnitude
  cases shownDiscount discount with
  | none => exact abs_zero.symm
  | some d => exact Amount.magnitude_eq_abs d

/-- Nothing is put on, unless a discount of less than nothing is large enough to be shown. -/
theorem takenOff_nonneg_iff (discount : Option ℚ) :
    0 ≤ takenOff discount ↔ ∀ d, discount = some d → -(1 / 200) < d := by
  cases discount with
  | none => exact ⟨fun _ d hd => absurd hd.symm (Option.some_ne_none d), fun _ => le_rfl⟩
  | some d =>
    simp only [Option.some.injEq, forall_eq']
    -- a discount that is shown is half a cent from zero, on one side or the other
    by_cases hshown : 1 / 200 ≤ |d|
    · rw [takenOff, shownDiscount_of_le hshown, Option.getD_some]
      constructor
      · intro hd
        linarith
      · intro hd
        rcases le_abs.mp hshown with hpos | hneg <;> linarith
    · have hsmall : |d| < 1 / 200 := not_le.mp hshown
      rw [takenOff, shownDiscount_of_lt hsmall]
      exact ⟨fun _ => (abs_lt.mp hsmall).1, fun _ => le_rfl⟩

/-! ### Adding up -/

/-- **When totals add up.** Let a proposal give no total. Its block says the figures that are
derived from its subtotal, its discount and its lines. In exact numbers the subtotal is the one
given or the sum of the lines, and a discount is hidden only if it is less than half a cent. The
total is the subtotal less what the row of the discount says, unless a discount of less than nothing
is shown; then it is the subtotal and what the row says. -/
theorem totals_add_up_iff (style : BrandStyle) (config : BlockConfig) {context : Context}
    {p : Proposal} (hproposal : context.proposal = some p) (htotal : p.total = none) :
    (blockElements style context BlockKind.totals.name config).map Element.rowTexts =
        [(Figures.derive p.subtotal p.discount none
          (p.lines.map LineItem.amount)).rowTexts currencyText] ∧
      ∀ (subtotal discount : Option ℚ) (lines : List ℚ),
        let f := Figures.derive subtotal discount none lines
        f.subtotal = subtotal.getD lines.sum ∧
          (f.discount = none → ∀ d, discount = some d → |d| < 1 / 200) ∧
          (f.total = f.subtotal - f.deducted ↔ ∀ d, discount = some d → -(1 / 200) < d) ∧
          ∀ d, discount = some d → d ≤ -(1 / 200) → f.total = f.subtotal + f.deducted := by
  constructor
  · rw [blockElements_totals style config hproposal, List.map_singleton, rowTexts_totalsTable,
      Proposal.figures, htotal]
  · intro subtotal discount lines f
    have hf : f = _ := Figures.derive_eq subtotal discount lines
    have htaken : f.total = f.subtotal - takenOff discount := by rw [hf]
    have hdeducted : f.deducted = |takenOff discount| := deducted_derive subtotal discount lines
    refine ⟨by rw [hf], ?_, ?_, ?_⟩
    · intro hhidden d hd
      by_contra hlarge
      rw [hf, hd, shownDiscount_of_le (not_lt.mp hlarge)] at hhidden
      exact Option.some_ne_none d hhidden
    · rw [htaken, hdeducted, sub_right_inj, eq_comm, abs_eq_self]
      exact takenOff_nonneg_iff discount
    · intro d hd hnegative
      -- what is taken off is less than nothing here
      have hless : takenOff discount < 0 := by
        refine not_le.mp fun hnonneg => ?_
        have hd' := (takenOff_nonneg_iff discount).mp hnonneg d hd
        linarith
      rw [htaken, hdeducted, abs_of_neg hless, sub_eq_add_neg]

/-- A proposal of two lines with a discount. -/
theorem totals_add_up_iff_lines :
    let p : Proposal :=
      { discount := some 30.0, lines := [{ total := some 100.0 }, { total := some 49.5 }] }
    let context : Context := { proposal := some p }
    p.total = none ∧
      (blockElements {} context BlockKind.totals.name {}).map Element.rowTexts =
        [[["Subtotal", "€ 149,50"], ["Discount", "-€ 30,00"], ["Total", "€ 119,50"]]] ∧
      (Figures.derive none (some 30) none [100, 99 / 2] : Figures ℚ).total = 239 / 2 := by
  intro p context
  have h := totals_add_up_iff {} {} (rfl : context.proposal = some p) rfl
  refine ⟨rfl, ?_, ?_⟩
  · rw [h.1]
    decide +kernel
  · obtain ⟨hsubtotal, -, hsum, -⟩ := h.2 none (some 30) [100, 99 / 2]
    rw [hsum.mpr (by decide +kernel), hsubtotal]
    decide +kernel

/-- A discount of less than nothing is told as taken off and is put on. -/
theorem negative_discount_put_on :
    let f : Figures ℚ := .derive (some 100) (some (-5)) none []
    f.deducted = 5 ∧ f.total = 105 ∧ f.total ≠ f.subtotal - f.deducted ∧
      Totals.ofProposal { subtotal := some 100.0, discount := some (-5.0) } =
        { subtotal := "€ 100,00", discount := some "-€ 5,00", total := "€ 105,00" } := by
  decide +kernel

end Letterhead
