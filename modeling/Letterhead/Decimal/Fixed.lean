import Letterhead.Decimal.Binary

/-!
# A fixed number of decimal places

* `roundQuotient` — a quotient rounded to the nearest integer, a half to the even neighbour;
* `roundQuotientUp` — the same with a half rounded up;
* `Binary.scaled` — the magnitude of a number in units of its last decimal place, rounded;
* `nearestInteger`, `nearestNatural` — a floating-point number rounded to an integer, a half away
  from zero.
-/

namespace Letterhead.Decimal

/-- The integer nearest to `n / d`; of two as near, the even one. -/
def roundQuotient (n d : Nat) : Nat :=
  let q := n / d
  let r := n % d
  if 2 * r < d then q
  else if d < 2 * r then q + 1
  else if q % 2 = 0 then q
  else q + 1

/-- The integer nearest to `n / d`; of two as near, the greater. -/
def roundQuotientUp (n d : Nat) : Nat :=
  (2 * n + d) / (2 * d)

/-- A natural number in decimal, filled with zeros on the left to `width` digits. -/
def padded (width n : Nat) : List Char :=
  let ds := Nat.toDigits 10 n
  List.replicate (width - ds.length) '0' ++ ds

/-- The magnitude of `b` in units of the last of `places` decimal places, rounded. -/
def Binary.scaled (places : Nat) (b : Binary) : Nat :=
  roundQuotient (b.numerator * Nat.pow 10 places) b.denominator

/-! ### Rounding to integers -/

/-- The nearest integer as a floating-point number, a half being rounded away from zero. A number
that has no fraction, or is not finite, stays as it is. -/
def nearestInteger (x : Float) : Float :=
  match Binary.ofFloat x with
  | none => x
  | some b =>
    if b.isIntegral then x
    else
      let n := Float.ofNat (roundQuotientUp b.numerator b.denominator)
      if b.negative then -n else n

/-- The greatest natural number of 64 bits. -/
def greatestWord : Nat :=
  Nat.pow 2 64 - 1

/-- The natural number of 64 bits nearest to a value: a half goes up, and what lies outside goes to
the end it lies beyond. -/
def Binary.nearestNatural (b : Binary) : Nat :=
  if b.negative then 0 else min (roundQuotientUp b.numerator b.denominator) greatestWord

/-- The same for a floating-point number; zero for what is no number. -/
def nearestNatural (x : Float) : Nat :=
  match Binary.ofFloat x with
  | some b => b.nearestNatural
  | none => if x > 0.0 then greatestWord else 0

/-- The same for a 32-bit number. -/
def nearestNatural32 (x : Float32) : Nat :=
  match Binary.ofFloat32 x with
  | some b => b.nearestNatural
  | none => if x > 0.0 then greatestWord else 0

example : nearestInteger (-2.5) = -3.0 := by decide +kernel
example : nearestNatural 147.5 = 148 := by decide +kernel

end Letterhead.Decimal
