/-!
# Dates of the Gregorian calendar

Dates of the proleptic Gregorian calendar, whose rules are extended to all years, a year zero and
negative ones included.

* `Date`, `Date.isValid` — a date, and whether the calendar has it;
* `Date.next` — the day after a date;
* `Date.dayNumber`, `Date.ofDayNumber` — the days counted from the first of January of year 1;
* `Date.addDays?` — a date some days later, within the years that are supported.
-/

namespace Letterhead

/-- A year, a month from 1, and a day of the month from 1. -/
structure Date where
  year : Int
  month : Nat
  day : Nat
deriving DecidableEq, Repr

namespace Date

/-- Whether a year has a twenty-ninth of February. -/
def isLeap (year : Int) : Bool :=
  year % 4 == 0 && (year % 100 != 0 || year % 400 == 0)

/-- The lengths of the months of a year. -/
def monthLengths (leap : Bool) : List Nat :=
  [31, if leap then 29 else 28, 31, 30, 31, 30, 31, 31, 30, 31, 30, 31]

/-- The length of a month; zero for what is no month. -/
def monthLength (year : Int) (month : Nat) : Nat :=
  if month = 0 then 0 else (monthLengths (isLeap year)).getD (month - 1) 0

/-- The first year that is supported. -/
def firstYear : Int := -262143

/-- The last year that is supported. -/
def lastYear : Int := 262142

/-- Whether the year is supported. -/
def inRange (d : Date) : Bool :=
  firstYear ≤ d.year && d.year ≤ lastYear

/-- Whether the calendar has the date. -/
def isValid (d : Date) : Bool :=
  1 ≤ d.day && d.day ≤ monthLength d.year d.month

/-- The day after. -/
def next (d : Date) : Date :=
  if d.day < monthLength d.year d.month then { d with day := d.day + 1 }
  else if d.month < 12 then ⟨d.year, d.month + 1, 1⟩
  else ⟨d.year + 1, 1, 1⟩

/-! ### Counting days -/

/-- The days from the first of January of year 1 to that of a year. -/
def daysBeforeYear (year : Int) : Int :=
  let y := year - 1
  365 * y + y / 4 - y / 100 + y / 400

/-- The days of a year before a month. -/
def daysBeforeMonth (year : Int) (month : Nat) : Nat :=
  ((monthLengths (isLeap year)).take (month - 1)).foldr (· + ·) 0

/-- The days from the first of January of year 1 to a date. -/
def dayNumber (d : Date) : Int :=
  daysBeforeYear d.year + daysBeforeMonth d.year d.month + (d.day - 1 : Nat)

/-- The year in which a day number lies: the one that the mean length of a year suggests, or a
neighbour of it. -/
def yearOf (n : Int) : Int :=
  let guess := n * 400 / 146097 + 1
  if n < daysBeforeYear guess then guess - 1
  else if daysBeforeYear (guess + 1) ≤ n then guess + 1
  else guess

/-- The month, counted from `month`, and the day in it, of a number of days after the first of
`month`, given the lengths from that month on. -/
def locate (month n : Nat) : List Nat → Nat × Nat
  | [] => (month, n + 1)
  | length :: rest => if n < length then (month, n + 1) else locate (month + 1) (n - length) rest

/-- The date of a day number. -/
def ofDayNumber (n : Int) : Date :=
  let year := yearOf n
  let (month, day) := locate 1 (n - daysBeforeYear year).toNat (monthLengths (isLeap year))
  ⟨year, month, day⟩

/-- The date some days later, unless it lies beyond the last year supported. -/
def addDays? (d : Date) (days : Nat) : Option Date :=
  let later := ofDayNumber (d.dayNumber + days)
  if later.inRange then some later else none

example : (⟨2026, 10, 19⟩ : Date).addDays? 30 = some ⟨2026, 11, 18⟩ := by decide
example : (⟨1900, 2, 28⟩ : Date).next = ⟨1900, 3, 1⟩ := by decide

end Date

end Letterhead
