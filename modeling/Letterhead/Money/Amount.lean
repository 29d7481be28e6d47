import Letterhead.Decimal.Fixed

/-!
# Arithmetic on amounts

Rules of money are stated once, over any kind of number that has the operations they need, so that
they can be run with floating-point numbers and reasoned about with exact ones.
-/

namespace Letterhead

/-- A kind of number that amounts can be computed with. -/
class Amount (α : Type) extends Add α, Sub α, Neg α, Mul α, Div α where
  ofNat : Nat → α
  /-- Whether the first is less than the second. -/
  less : α → α → Bool
  /-- Whether the first is at most the second. -/
  atMost : α → α → Bool
  /-- The nearest integer, a half being rounded away from zero. -/
  round : α → α

instance : Amount Float where
  ofNat := Float.ofNat
  less x y := x < y
  atMost x y := x ≤ y
  round := Decimal.nearestInteger

namespace Amount

variable {α : Type} [Amount α]

/-- Zero. -/
def zero : α :=
  ofNat 0

/-- Whether an amount is greater than zero. -/
def isPositive (a : α) : Bool :=
  less zero a

/-- An amount without its sign. -/
def magnitude (a : α) : α :=
  if less a zero then -a else a

/-- The sum of amounts, from the left. It starts at minus zero, the amount that changes no other,
the sign of a zero included. -/
def sum (amounts : List α) : α :=
  amounts.foldl (· + ·) (-zero)

end Amount

end Letterhead
