import Letterhead.Context.Basic
import Letterhead.Money.Display

/-!
# The totals of a proposal

* `Figures.derive` — the three figures: those that are not given are derived from the others and
  from the lines;
* `Totals.ofFigures`, `Totals.ofProposal` — the figures as they are shown.
-/

namespace Letterhead

/-- The figures of a proposal. -/
structure Figures (α : Type) where
  subtotal : α
  /-- The discount, if it is large enough to be shown. -/
  discount : Option α
  total : α

/-- The figures of a proposal from those given and the totals of its lines: the subtotal is the sum
of the lines, the discount counts from half a cent on, the total is the subtotal less the
discount. -/
def Figures.derive {α : Type} [Amount α] (subtotal discount total : Option α) (lines : List α) :
    Figures α :=
  let halfCent : α := Amount.ofNat 1 / Amount.ofNat 200
  let subtotal := subtotal.getD (Amount.sum lines)
  let discount := discount.filter fun d => Amount.atMost halfCent (Amount.magnitude d)
  { subtotal, discount, total := total.getD (subtotal - discount.getD Amount.zero) }

/-- The figures of a proposal as they are shown. -/
structure Totals where
  subtotal : String
  discount : Option String
  total : String
deriving DecidableEq, Repr

/-- The figures of a proposal. -/
def Proposal.figures (p : Proposal) : Figures Float :=
  .derive p.subtotal p.discount p.total (p.lines.map LineItem.amount)

/-- Figures as they are shown, with a text for each amount: a discount shows its magnitude after a
minus sign. -/
def Totals.ofFigures {α : Type} [Amount α] (text : α → String) (f : Figures α) : Totals where
  subtotal := text f.subtotal
  discount := f.discount.map fun d => "-" ++ text (Amount.magnitude d)
  total := text f.total

/-- The totals of a proposal. -/
def Totals.ofProposal (p : Proposal) : Totals :=
  .ofFigures currencyText p.figures

end Letterhead
