import Letterhead.Decimal.Fixed

/-!
# Numbers, percentages and amounts for a reader

Figures are shown the Italian way: a comma before the decimals, a point between thousands.

* `numberText` — a number with at most two decimals;
* `percentText` — the same with a percent sign;
* `currencyText` — an amount in euro, always with two decimals.
-/

namespace Letterhead

open Decimal

/-! ### Numbers -/

/-- The integers that a 64-bit word with a sign holds; numbers beyond are shown as its ends. -/
def clampToWord (n : Int) : Int :=
  max (-(Nat.pow 2 63 : Nat) : Int) (min n ((Nat.pow 2 63 - 1 : Nat) : Int))

/-- A count of hundredths, without the zeros and the comma that end it. -/
def hundredthsText (n : Nat) : List Char :=
  let whole := Nat.toDigits 10 (n / 100)
  if n % 100 = 0 then whole
  else if n % 10 = 0 then whole ++ ',' :: Nat.toDigits 10 (n % 100 / 10)
  else whole ++ ',' :: padded 2 (n % 100)

/-- A number: an integer without decimals, any other with at most two, rounded from its exact
value. What is no number shows nothing. -/
def numberText (x : Float) : String :=
  match Binary.ofFloat x with
  | none => ""
  | some b =>
    if b.isIntegral then toString (clampToWord b.integerPart)
    else String.ofList ((if b.negative then ['-'] else []) ++ hundredthsText (b.scaled 2))

/-- A percentage. -/
def percentText (x : Float) : String :=
  numberText x ++ "%"

/-! ### Amounts -/

/-- The magnitude of an amount in cents, a half cent being rounded up. -/
def cents (amount : Float) : Nat :=
  nearestNatural (amount.abs * 100.0)

/-- A natural number with a point between groups of three digits. -/
def grouped (n : Nat) : List Char :=
  if n < 1000 then Nat.toDigits 10 n
  else grouped (n / 1000) ++ '.' :: padded 3 (n % 1000)
termination_by n

/-- A count of cents in euro, with a minus sign unless it is zero. -/
def centsText (negative : Bool) (n : Nat) : List Char :=
  (if negative && 0 < n then ['-'] else []) ++
    ['€', ' '] ++ grouped (n / 100) ++ ',' :: padded 2 (n % 100)

/-- An amount in euro. -/
def currencyText (amount : Float) : String :=
  String.ofList (centsText (amount < 0.0) (cents amount))

example : numberText 85.25 = "85,25" := by decide +kernel
example : currencyText (-1234.5) = "-€ 1.234,50" := by decide +kernel

end Letterhead
