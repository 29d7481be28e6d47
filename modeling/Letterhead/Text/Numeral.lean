/-!
# Natural numbers in text

`numeral?` reads what a form field or a path segment holds where a natural number is meant: ASCII
digits after an optional plus sign, with a value that fits into a given number of bits.
-/

namespace Letterhead.Text

/-- The value of ASCII digits, of which there must be one. -/
def digitsValue? (ds : List Char) : Option Nat :=
  if ds.isEmpty || !ds.all Char.isDigit then none
  else some (ds.foldl (fun n d => n * 10 + (d.toNat - 48)) 0)

/-- The natural number below `2 ^ bits` that a text writes. -/
def numeral? (bits : Nat) (cs : List Char) : Option Nat :=
  let ds := match cs with
    | '+' :: rest => rest
    | cs => cs
  (digitsValue? ds).filter (· < Nat.pow 2 bits)

example : numeral? 32 "+0042".toList = some 42 := by decide
example : numeral? 32 "4294967296".toList = none := by decide
example : numeral? 32 "-0".toList = none := by decide

end Letterhead.Text
