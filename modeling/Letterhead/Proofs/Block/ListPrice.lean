import Mathlib.Tactic.Linarith
import Letterhead.Proofs.Block.Services
import Letterhead.Proofs.Money.Exact

/-!
# List prices and the prices charged

A line item with a discount is shown with two prices: the price that is charged and, struck through,
the list price. The list price is worked out backwards. It is the price that the discount brings
down to the total, rounded to whole euros. The first step only raises a price. The second can take
away more than the first has added, because the total itself may have cents: of a total of 9.40 with
a discount of one percent, the price before the discount is 9.49, and the list price is 9.

How far this goes is told in exact numbers. The two prices and the rounding are on one scale of
whole euros. Where the list price is below the total, the price before the discount has not come as
far as the middle of the euro that the total has begun. So the total is rounded down to whole euros,
it loses less than half a euro, and it has lost its cents only.

* `undiscounted`, `le_undiscounted` — the price before the discount, which is not below the total;
* `Amount.round_of_nonneg`, `listPrice_of_lt`, `listPrice_of_le` — the list price by the rate;
* `le_round_iff`, `round_eq_floor_of_lt` — a price against another one that is rounded;
* `struck_setupRow`, `struck_launchPanel` — the list price is what is struck;
* `list_price_covers_total_iff` — when the list price is at least the total.
-/

namespace Letterhead

/-! ### Rounding a price -/

namespace Amount

/-- What is not less than nothing is rounded by cutting it off half a unit above. -/
theorem round_of_nonneg {x : ℚ} (hx : 0 ≤ x) : round x = (⌊x + 1 / 2⌋ : ℚ) :=
  if_neg (not_lt.mpr hx)

end Amount

section Rounding

variable {total price : ℚ}

/-- A price is rounded to no less than a total just if it is half a unit at most below the least
integer that covers the total. -/
theorem le_round_iff (hprice : 0 ≤ price) :
    total ≤ Amount.round price ↔ (⌈total⌉ : ℚ) - 1 / 2 ≤ price := by
  -- what is rounded is an integer, and an integer covers a total by covering its ceiling
  have hceil : total ≤ Amount.round price ↔ ⌈total⌉ ≤ ⌊price + 1 / 2⌋ := by
    rw [Amount.round_of_nonneg hprice]
    exact Int.ceil_le.symm
  rw [hceil, Int.le_floor, sub_le_iff_le_add]

/-- A price that covers a total and is rounded to less is rounded to the integer below the total,
and the total is less than half a unit above it. -/
theorem round_eq_floor_of_lt (hprice : 0 ≤ price) (hle : total ≤ price)
    (hlt : Amount.round price < total) :
    Amount.round price = (⌊total⌋ : ℚ) ∧ total - ⌊total⌋ < 1 / 2 := by
  rw [Amount.round_of_nonneg hprice] at hlt ⊢
  have hceil : price + 1 / 2 < (⌊price + 1 / 2⌋ : ℚ) + 1 := Int.lt_floor_add_one _
  -- the total lies between the rounded price and the price, which is in the lower half of the unit
  have hfloor : ⌊total⌋ = ⌊price + 1 / 2⌋ := by
    rw [Int.floor_eq_iff]
    constructor
    · exact hlt.le
    · linarith
  rw [hfloor]
  refine ⟨rfl, ?_⟩
  linarith

end Rounding

/-! ### The price before a discount -/

/-- The price that a discount of `rate` percent brings down to `total`. -/
def undiscounted (total rate : ℚ) : ℚ :=
  total / (1 - rate / 100)

section Exact

variable {total rate : ℚ}

/-- A price is not lower before its discount. -/
theorem le_undiscounted (htotal : 0 ≤ total) (hrate : 0 < rate) (hlt : rate < 100) :
    total ≤ undiscounted total rate := by
  have hpart : 0 < 1 - rate / 100 := by linarith
  have hless : 1 - rate / 100 ≤ 1 := by linarith
  -- what the discount leaves of a price is a part of it
  rw [undiscounted, le_div_iff₀ hpart]
  exact mul_le_of_le_one_right htotal hless

/-- The list price is the price before the discount, rounded. -/
theorem listPrice_of_lt (hrate : 0 < rate) (hlt : rate < 100) :
    listPrice total (some rate) = Amount.round (undiscounted total rate) := by
  have hpositive : Amount.isPositive rate = true := by
    rw [Amount.isPositive, Amount.less_iff, Amount.zero_eq_zero]
    exact hrate
  have hless : Amount.less rate (Amount.ofNat 100) = true := Amount.less_iff.mpr hlt
  have hundiscounted :
      total / (Amount.ofNat 1 - rate / Amount.ofNat 100) = undiscounted total rate := by
    show total / (((1 : Nat) : ℚ) - rate / ((100 : Nat) : ℚ)) = _
    rw [Nat.cast_one, Nat.cast_ofNat, undiscounted]
  rw [listPrice, hpositive, hless, Bool.and_self, if_pos rfl, hundiscounted]

/-- A discount of everything cannot be undone. -/
theorem listPrice_of_le (hle : 100 ≤ rate) : listPrice total (some rate) = total := by
  have hless : Amount.less rate (Amount.ofNat 100) = false :=
    Bool.eq_false_iff.mpr fun hless => not_lt.mpr hle (Amount.less_iff.mp hless)
  rw [listPrice, hless, Bool.and_false, if_neg Bool.false_ne_true]

end Exact

/-! ### Where the list price is shown -/

section Shown

variable {item : LineItem} {rate : Float}

/-- A discount is told by its list price. -/
theorem struckPrices_of_isPositive (hrate : item.discountRate = some rate)
    (hpositive : Amount.isPositive rate = true) :
    item.struckPrices = [struckPrice (listPrice item.amount (some rate))] := by
  rw [LineItem.struckPrices, hrate]
  exact if_pos hpositive

/-- Of the row of a setup service its list price is struck. -/
theorem struck_setupRow (item : LineItem) :
    (setupRow (.ofItem item)).flatMap (fun cell => cell.runs.filter (·.strike)) =
      item.struckPrices := by
  obtain ⟨_, _, _, _, -, -, -, -, -, hstruck⟩ := isSetupRow_setupRow item
  rw [List.flatMap_def, hstruck]
  exact List.append_nil _

/-- Of the panel of a launch its list price is struck. -/
theorem struck_launchPanel (style : BrandStyle) (item : LineItem) :
    (launchPanel style (.ofItem item)).runs.filter (·.strike) = item.struckPrices :=
  (isLaunchPanel_launchPanel style item).2.2.2

end Shown

/-! ### List price and total -/

/-- **When a list price covers the price charged.** The price that is struck in the row of a setup
service or in the panel of a launch is the list price of its total and its discount. In exact
numbers, for a total that is not negative and a positive discount, the list price is at least the
total just if nothing is left after the discount, or the price before the discount comes up to half
a euro below the total rounded up. Otherwise the list price is the total without its cents, and
these are less than fifty. -/
theorem list_price_covers_total_iff (style : BrandStyle) :
    (∀ (item : LineItem) (rate : Float), item.discountRate = some rate →
      Amount.isPositive rate = true →
        (setupRow (.ofItem item)).flatMap (fun cell => cell.runs.filter (·.strike)) =
            [struckPrice (listPrice item.amount (some rate))] ∧
          (launchPanel style (.ofItem item)).runs.filter (·.strike) =
            [struckPrice (listPrice item.amount (some rate))]) ∧
      ∀ total rate : ℚ, 0 ≤ total → 0 < rate →
        (total ≤ listPrice total (some rate) ↔
            100 ≤ rate ∨ (⌈total⌉ : ℚ) - 1 / 2 ≤ undiscounted total rate) ∧
          (listPrice total (some rate) < total →
            listPrice total (some rate) = (⌊total⌋ : ℚ) ∧ total - ⌊total⌋ < 1 / 2) := by
  constructor
  · intro item rate hrate hpositive
    rw [struck_setupRow, struck_launchPanel, struckPrices_of_isPositive hrate hpositive]
    exact ⟨rfl, rfl⟩
  · intro total rate htotal hrate
    by_cases hlt : rate < 100
    · have hle : total ≤ undiscounted total rate := le_undiscounted htotal hrate hlt
      have hprice : 0 ≤ undiscounted total rate := htotal.trans hle
      rw [listPrice_of_lt hrate hlt]
      constructor
      · rw [le_round_iff hprice]
        exact (or_iff_right (not_le.mpr hlt)).symm
      · exact round_eq_floor_of_lt hprice hle
    · -- the total is its own list price
      have hall : 100 ≤ rate := not_lt.mp hlt
      rw [listPrice_of_le hall]
      constructor
      · exact iff_of_true le_rfl (Or.inl hall)
      · exact fun habsurd => absurd habsurd (lt_irrefl total)

/-- A discount of a quarter on 60.40 has a list price of 81, and one of two percent on 9.40 has one
of 10. -/
theorem list_price_covers_total_iff_cents :
    let item : LineItem := { name := "Kit", total := some 60.4, discountRate := some 25.0 }
    item.discountRate = some 25.0 ∧ Amount.isPositive (25.0 : Float) = true ∧
      (launchPanel {} (.ofItem item)).runs.filter (·.strike) =
        [struckPrice (listPrice item.amount (some 25.0))] ∧
      (0 : ℚ) ≤ 47 / 5 ∧ (0 : ℚ) < 2 ∧ (47 / 5 : ℚ) ≤ listPrice (47 / 5) (some 2) ∧
      listPrice (47 / 5 : ℚ) (some 2) = 10 ∧ listPrice (302 / 5 : ℚ) (some 25) = 81 := by
  intro item
  have hpositive : Amount.isPositive (25.0 : Float) = true := by decide +kernel
  have h := list_price_covers_total_iff {}
  have hcovers := (h.2 (47 / 5) 2 (by decide +kernel) (by decide +kernel)).1.mpr
    (Or.inr (by decide +kernel))
  exact ⟨rfl, hpositive, (h.1 item 25.0 rfl hpositive).2, by decide +kernel, by decide +kernel,
    hcovers, by decide +kernel, by decide +kernel⟩

/-- With a discount of one percent on 9.40 the struck price is the lower one. -/
theorem list_price_below_total :
    let item : LineItem := { name := "Kit", total := some 9.4, discountRate := some 1.0 }
    (0 : ℚ) ≤ 47 / 5 ∧ (0 : ℚ) < 1 ∧ listPrice (47 / 5 : ℚ) (some 1) = 9 ∧
      ¬ (47 / 5 : ℚ) ≤ listPrice (47 / 5) (some 1) ∧
      (setupTotal (.ofItem item)).map (·.text) = ["€ 9,00", " ", "€ 9,40"] := by
  decide +kernel

end Letterhead
