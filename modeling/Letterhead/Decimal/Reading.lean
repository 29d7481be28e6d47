/-!
# Reading a decimal as a floating-point number

`nearestFloat` gives the number nearest to `digits * 10 ^ exponent`, or nothing where that is
beyond the largest finite one. Exponents far outside the format's range are decided by size alone,
so that no power of ten is formed that the result cannot depend on.
-/

namespace Letterhead.Decimal

/-- The 64-bit number nearest to `digits * 10 ^ exponent`, unless that overflows. -/
def nearestFloat (digits : Nat) (exponent : Int) : Option Float :=
  if digits = 0 then some 0.0
  else
    let size := (digits.log2 : Int) * 30103 / 100000 + exponent
    if 320 < size then none
    else if size < -360 then some 0.0
    else
      let x := Float.ofScientific digits (exponent < 0) exponent.natAbs
      if x.isInf then none else some x

end Letterhead.Decimal
