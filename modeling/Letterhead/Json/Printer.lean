import Letterhead.Json.Basic
import Letterhead.Decimal.Shortest

/-!
# Writing JSON

* `Json.compact` — on one line without a blank;
* `Json.pretty` — one item or field a line, two blanks of indentation a level, an empty container
  on one line.

Floating-point numbers are written by the shortest decimal that reads back, always with a fraction
or a power of ten, and as `null` when they are not finite.
-/

namespace Letterhead

open Decimal

/-- A 64-bit number is written around a point when its leading digit is at most the sixteenth
before the point or the fifth after it. -/
def Number.doubleRange : Positional := ⟨-5, 15⟩

/-- The same for a 32-bit number: at most the thirteenth before or the sixth after. -/
def Number.singleRange : Positional := ⟨-6, 12⟩

/-- The text of a 64-bit number. -/
def doubleText (x : Float) : String :=
  match Binary.ofFloat x with
  | some b => b.written Number.doubleRange
  | none => "null"

/-- The text of a 32-bit number. -/
def singleText (x : Float32) : String :=
  match Binary.ofFloat32 x with
  | some b => b.written Number.singleRange
  | none => "null"

/-- The text of a number. -/
def Number.text : Number → String
  | .integer n => toString n
  | .double x => doubleText x
  | .single x => singleText x

/-! ### Strings -/

/-- A hexadecimal digit. -/
def hexDigit (n : Nat) : Char :=
  if n < 10 then Char.ofNat (48 + n) else Char.ofNat (87 + n)

/-- One character inside a JSON string: the quote, the backslash and the control characters of
ASCII are escaped. -/
def jsonChar (c : Char) : List Char :=
  if c = '"' then ['\\', '"']
  else if c = '\\' then ['\\', '\\']
  else if c = '\n' then ['\\', 'n']
  else if c = '\r' then ['\\', 'r']
  else if c = '\t' then ['\\', 't']
  else if c.toNat = 8 then ['\\', 'b']
  else if c.toNat = 12 then ['\\', 'f']
  else if c.toNat < 0x20 then
    ['\\', 'u', '0', '0', hexDigit (c.toNat / 16), hexDigit (c.toNat % 16)]
  else [c]

/-- A JSON string. -/
def jsonString (s : String) : String :=
  String.ofList ('"' :: s.toList.flatMap jsonChar ++ ['"'])

/-! ### Compact text -/

mutual

/-- The value on one line. -/
def Json.compact : Json → String
  | .null => "null"
  | .bool true => "true"
  | .bool false => "false"
  | .number n => n.text
  | .string s => jsonString s
  | .array items => "[" ++ ",".intercalate (compactItems items) ++ "]"
  | .object fields => "\x7b" ++ ",".intercalate (compactFields fields) ++ "\x7d"

/-- The texts of the items. -/
def compactItems : List Json → List String
  | [] => []
  | v :: rest => v.compact :: compactItems rest

/-- The texts of the fields. -/
def compactFields : Fields → List String
  | [] => []
  | (k, v) :: rest => (jsonString k ++ ":" ++ v.compact) :: compactFields rest

end

/-! ### Indented text -/

/-- A line break and the indentation of a level. -/
def indentation (level : Nat) : String :=
  String.ofList ('\n' :: List.replicate (2 * level) ' ')

/-- Entries between brackets, one a line, a level deeper than the brackets. -/
def bracketed (opening closing : String) (level : Nat) (entries : List String) : String :=
  match entries with
  | [] => opening ++ closing
  | _ =>
    opening ++ indentation (level + 1) ++ ("," ++ indentation (level + 1)).intercalate entries
      ++ indentation level ++ closing

mutual

/-- The value with its inner lines indented from `level` on. -/
def Json.prettyAt (level : Nat) : Json → String
  | .array items => bracketed "[" "]" level (prettyItems (level + 1) items)
  | .object fields => bracketed "\x7b" "\x7d" level (prettyFields (level + 1) fields)
  | .null => "null"
  | .bool true => "true"
  | .bool false => "false"
  | .number n => n.text
  | .string s => jsonString s

/-- The texts of the items. -/
def prettyItems (level : Nat) : List Json → List String
  | [] => []
  | v :: rest => v.prettyAt level :: prettyItems level rest

/-- The texts of the fields. -/
def prettyFields (level : Nat) : Fields → List String
  | [] => []
  | (k, v) :: rest => (jsonString k ++ ": " ++ v.prettyAt level) :: prettyFields level rest

end

/-- The value over several lines. -/
def Json.pretty (v : Json) : String :=
  v.prettyAt 0

end Letterhead
