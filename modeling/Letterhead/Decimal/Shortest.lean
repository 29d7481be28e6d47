import Letterhead.Decimal.Binary

/-!
# The shortest decimal that reads back

Among the decimals that round to a given floating-point number, the one with the fewest digits
names it; of two with as few, the nearer; of two as near, the one whose last digit is even.

* `Binary.readsBack` — the decimals that round to a number, an interval of reals whose ends belong
  to it exactly when the mantissa is even;
* `Binary.shortest` — the decimal that names a number, by trying ever finer grids of powers of ten;
* `Digits.written` — how its digits are written down.
-/

namespace Letterhead.Decimal

/-- The decimal `digits * 10 ^ exponent`. -/
structure Digits where
  digits : Nat
  exponent : Int
deriving Repr, DecidableEq

/-- Compares `a * 10 ^ i` with `n * 2 ^ j` exactly. -/
def compareScaled (a : Nat) (i : Int) (n : Nat) (j : Int) : Ordering :=
  compare (a * Nat.pow 10 i.toNat * Nat.pow 2 (-j).toNat)
    (n * Nat.pow 2 j.toNat * Nat.pow 10 (-i).toNat)

namespace Binary

/-- Whether a decimal lies among the reals that round to the magnitude of `b`. -/
def readsBack (b : Binary) (d : Digits) : Bool :=
  let low := if b.narrowBelow then 4 * b.mantissa - 1 else 4 * b.mantissa - 2
  let high := 4 * b.mantissa + 2
  let closed := b.mantissa % 2 == 0
  let onLow := compareScaled d.digits d.exponent low (b.exponent - 2)
  let onHigh := compareScaled d.digits d.exponent high (b.exponent - 2)
  (onLow == .gt || (closed && onLow == .eq)) && (onHigh == .lt || (closed && onHigh == .eq))

/-- The magnitude in units of `10 ^ t`, cut to an integer. -/
def floorOn (b : Binary) (t : Int) : Nat :=
  b.numerator * Nat.pow 10 (-t).toNat / (b.denominator * Nat.pow 10 t.toNat)

/-- The better of the two neighbours of the magnitude on the grid of multiples of `10 ^ t`, if one
of them reads back. -/
def nearestOn (b : Binary) (t : Int) : Option Digits :=
  let d := b.floorOn t
  match b.readsBack ⟨d, t⟩, b.readsBack ⟨d + 1, t⟩ with
  | false, false => none
  | true, false => some ⟨d, t⟩
  | false, true => some ⟨d + 1, t⟩
  | true, true =>
    -- The magnitude against the middle of the two, in fifths of the next finer grid.
    match compareScaled (10 * d + 5) (t - 1) b.mantissa b.exponent with
    | .gt => some ⟨d, t⟩
    | .lt => some ⟨d + 1, t⟩
    | .eq => some ⟨if d % 2 = 0 then d else d + 1, t⟩

/-- An exponent of ten whose power exceeds the magnitude: a little above its binary logarithm
times the logarithm of two. -/
def decimalBound (b : Binary) : Int :=
  ((b.mantissa.log2 : Int) + 1 + b.exponent) * 30103 / 100000 + 2

/-- The decimal that names the magnitude of a number: a hit on the coarsest grid that has one.
Nothing coarser than the bound can hit, and a hit comes within twenty grids of it; the exact
integer in the value's own unit stands for the case that does not occur. -/
def shortest (b : Binary) : Digits :=
  if b.mantissa = 0 then ⟨0, 0⟩
  else
    let grids := (List.range 24).map fun (i : Nat) => b.decimalBound - i
    (grids.findSome? b.nearestOn).getD ⟨b.numerator, 0⟩

end Binary

/-! ### Writing the digits -/

/-- The exponents of the leading digit for which digits are written around a point and not with a
power of ten. -/
structure Positional where
  least : Int
  greatest : Int

/-- The exponent of the leading digit. -/
def Digits.leading (d : Digits) : Int :=
  d.exponent + ((Nat.toDigits 10 d.digits).length - 1 : Nat)

/-- The digits as text: around a point, with at least one digit on either side, when the leading
exponent lies in `range`; as one digit, the others after a point, and a signed exponent
otherwise. -/
def Digits.written (range : Positional) (d : Digits) : List Char :=
  let ds := Nat.toDigits 10 d.digits
  let e := d.leading
  if range.least ≤ e && e ≤ range.greatest then
    if 0 ≤ d.exponent then ds ++ List.replicate d.exponent.toNat '0' ++ ['.', '0']
    else if 0 ≤ e then
      ds.take (e.toNat + 1) ++ ['.'] ++ ds.drop (e.toNat + 1)
    else ['0', '.'] ++ List.replicate ((-e).toNat - 1) '0' ++ ds
  else
    let power := ['e', if 0 ≤ e then '+' else '-'] ++ Nat.toDigits 10 e.natAbs
    match ds with
    | [] => power
    | [c] => c :: power
    | c :: rest => c :: '.' :: rest ++ power

/-- The text of a finite number. -/
def Binary.written (range : Positional) (b : Binary) : String :=
  String.ofList ((if b.negative then ['-'] else []) ++ b.shortest.written range)

end Letterhead.Decimal
