import Letterhead.Json.Basic
import Letterhead.Text.Blank
import Letterhead.Text.Numeral

/-!
# Settings of a dynamic block

An editor stores what a form holds loosely: `"30"` for `30`, `"false"` for `false`. The getters
accept both spellings, and a value that has neither counts as not set.

* `BlockConfig.flag`, `BlockConfig.text`, `BlockConfig.number` — the value of a setting as a
  switch, as a text that shows something, and as a natural number of 32 bits.
-/

namespace Letterhead

/-- The settings of a dynamic block, by ascending key. -/
structure BlockConfig where
  entries : Fields := []

namespace BlockConfig

/-- The value of a setting. -/
def get? (config : BlockConfig) (key : String) : Option Json :=
  field? key config.entries

/-- The settings with one more, which replaces the one of its key. -/
def insert (config : BlockConfig) (key : String) (value : Json) : BlockConfig :=
  ⟨insertField key value config.entries⟩

/-- A switch, with its position when the setting is missing or says neither on nor off. -/
def flag (config : BlockConfig) (key : String) (default : Bool) : Bool :=
  match config.get? key with
  | some (.bool b) => b
  | some (.string s) =>
    let word := Text.trimmed s
    if word = "true" || word = "1" then true
    else if word = "false" || word = "0" then false
    else default
  | some (.number (.integer n)) => n != 0
  | some (.number (.double x)) => x != 0.0
  | some (.number (.single x)) => x != 0.0
  | _ => default

/-- A text with something to show, as it was written. -/
def text (config : BlockConfig) (key : String) : Option String :=
  match config.get? key with
  | some (.string s) => if Text.isBlankText s then none else some s
  | _ => none

/-- The natural number of 32 bits that a floating-point number is cut to, if it is not negative. -/
def cutToNatural (x : Float) : Option Nat :=
  if x ≥ 0.0 then some x.toUInt64.toNat |>.filter (· < Nat.pow 2 32) else none

/-- A natural number of 32 bits. A number loses its fraction; a text must be an integer. -/
def number (config : BlockConfig) (key : String) : Option Nat :=
  match config.get? key with
  | some (.number (.integer n)) => if 0 ≤ n && n < (Nat.pow 2 32 : Nat) then some n.toNat else none
  | some (.number (.double x)) => cutToNatural x
  | some (.number (.single x)) => cutToNatural x.toFloat
  | some (.string s) => Text.numeral? 32 (Text.trim s.toList)
  | _ => none

end BlockConfig

end Letterhead
