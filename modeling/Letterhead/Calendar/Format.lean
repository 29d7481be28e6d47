import Letterhead.Calendar.Date
import Letterhead.Decimal.Fixed
import Letterhead.Text.Blank

/-!
# Writing and reading dates

* `Date.text` — day, month and year, divided by strokes;
* `Date.ofIso?`, `Date.ofStrokes?` — a whole text read as `year-month-day` or `day/month/year`;
* `Date.ofText?` — either of the two.

Every number may have blanks before it. A year without a sign has at most four digits; one with a
sign may have any number. A month or a day has one or two.
-/

namespace Letterhead.Date

open Decimal

/-! ### Writing -/

/-- A year: with at least four digits, and a sign unless it has just four and is not negative. -/
def yearText (year : Int) : List Char :=
  if 0 ≤ year && year ≤ 9999 then padded 4 year.toNat
  else (if year < 0 then '-' else '+') :: padded 4 year.natAbs

/-- A date. -/
def text (d : Date) : String :=
  String.ofList (padded 2 d.day ++ '/' :: padded 2 d.month ++ '/' :: yearText d.year)

/-! ### Reading -/

/-- A number of one up to `most` digits from the front of a text, and what follows. -/
def scanDigits (most : Nat) (cs : List Char) : Option (Nat × List Char) :=
  let ds := (cs.take most).takeWhile Char.isDigit
  if ds.isEmpty then none
  else some (ds.foldl (fun n d => n * 10 + (d.toNat - 48)) 0, cs.drop ds.length)

/-- A month or a day of the month. -/
def scanPart (cs : List Char) : Option (Nat × List Char) :=
  scanDigits 2 (Text.trimStart cs)

/-- A year. -/
def scanYear (cs : List Char) : Option (Int × List Char) :=
  match Text.trimStart cs with
  | '-' :: rest => (scanDigits rest.length rest).map fun (n, rest) => (-(n : Int), rest)
  | '+' :: rest => (scanDigits rest.length rest).map fun (n, rest) => ((n : Int), rest)
  | cs => (scanDigits 4 cs).map fun (n, rest) => ((n : Int), rest)

/-- What follows a character, if it comes first. -/
def skip (c : Char) (cs : List Char) : Option (List Char) :=
  match cs with
  | d :: rest => if c = d then some rest else none
  | [] => none

/-- A date of the calendar in the years supported, if nothing is left after it. -/
def checked (d : Date) (rest : List Char) : Option Date :=
  if rest.isEmpty && d.isValid && d.inRange then some d else none

/-- Year, month and day, divided by hyphens. -/
def ofIso? (cs : List Char) : Option Date := do
  let (year, cs) ← scanYear cs
  let (month, cs) ← scanPart (← skip '-' cs)
  let (day, cs) ← scanPart (← skip '-' cs)
  checked ⟨year, month, day⟩ cs

/-- Day, month and year, divided by strokes. -/
def ofStrokes? (cs : List Char) : Option Date := do
  let (day, cs) ← scanPart cs
  let (month, cs) ← scanPart (← skip '/' cs)
  let (year, cs) ← scanYear (← skip '/' cs)
  checked ⟨year, month, day⟩ cs

/-- The date that a text names. Outer blanks do not count, nor what follows a `T`: the time of
day. -/
def ofText? (s : String) : Option Date :=
  let cs := (Text.trim s.toList).takeWhile (· != 'T')
  (ofIso? cs).or (ofStrokes? cs)

example : ofText? " 2026-03-05T09:30:00Z" = some ⟨2026, 3, 5⟩ := by decide
example : ofText? "05/03/2026" = some ⟨2026, 3, 5⟩ := by decide
example : text ⟨-1, 12, 31⟩ = "31/12/-0001" := by decide

end Letterhead.Date
