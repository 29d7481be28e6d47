/-!
# The exact value of a floating-point number

A finite binary floating-point number is an integer times a power of two, up to sign. This module
reads that value off the bit pattern, for the 64-bit and the 32-bit format. What the library prints
of a number is computed from here in exact integer arithmetic.
-/

namespace Letterhead.Decimal

/-- A finite value, `mantissa * 2 ^ exponent` up to sign. -/
structure Binary where
  negative : Bool
  mantissa : Nat
  exponent : Int
  /-- The gap to the value next below in magnitude is half the gap to the one above. -/
  narrowBelow : Bool
deriving Repr, DecidableEq

namespace Binary

/-- A bit pattern with `fraction` fraction bits and `width` exponent bits, the unit of the last
place of its least values being `2 ^ least`. The patterns of infinities and of what is not a
number have no value. -/
def ofPattern (fraction width : Nat) (least : Int) (bits : Nat) : Option Binary :=
  let f := bits % Nat.pow 2 fraction
  let e := bits / Nat.pow 2 fraction % Nat.pow 2 width
  let negative := decide (bits / Nat.pow 2 (fraction + width) % 2 = 1)
  if e = Nat.pow 2 width - 1 then none
  else if e = 0 then some ⟨negative, f, least, false⟩
  else some ⟨negative, Nat.pow 2 fraction + f, least + e - 1, f == 0 && e > 1⟩

/-- The value of a 64-bit number, if it is finite. -/
def ofFloat (x : Float) : Option Binary :=
  ofPattern 52 11 (-1074) x.toBits.toNat

/-- The value of a 32-bit number, if it is finite. -/
def ofFloat32 (x : Float32) : Option Binary :=
  ofPattern 23 8 (-149) x.toBits.toNat

/-- The numerator of the magnitude over `denominator`. -/
def numerator (b : Binary) : Nat :=
  b.mantissa * Nat.pow 2 b.exponent.toNat

/-- A power of two over which the magnitude is an integer. -/
def denominator (b : Binary) : Nat :=
  Nat.pow 2 (-b.exponent).toNat

/-- Whether the value is an integer. -/
def isIntegral (b : Binary) : Bool :=
  b.numerator % b.denominator == 0

/-- The integer part of the value: what is left when its fraction is cut off. -/
def integerPart (b : Binary) : Int :=
  let n : Int := (b.numerator / b.denominator : Nat)
  if b.negative then -n else n

end Binary

example : Binary.ofFloat 0.75 = some ⟨false, 3 * 2 ^ 51, -53, false⟩ := by decide
example : Binary.ofFloat (1.0 / 0.0) = none := by decide
example : Binary.ofFloat32 1.0 = some ⟨false, 2 ^ 23, -23, true⟩ := by decide

end Letterhead.Decimal
