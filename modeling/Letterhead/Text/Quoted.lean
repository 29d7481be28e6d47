import Letterhead.Text.Casing
import Letterhead.Text.GlyphTable

/-!
# Quoted texts in messages

A message that shows a text puts it between double quotes and escapes what would not be visible
as itself: the quote and the backslash, line ends and tabs by letter, and any character without a
glyph of its own, or that would attach to the one before it, by its code point.
-/

namespace Letterhead.Text

/-- Whether a character shows as itself inside quotes. -/
def hasOwnGlyph (c : Char) : Bool :=
  if c.toNat < 0x7F then 0x20 ≤ c.toNat
  else !inRanges graphemeExtendRanges c.toNat && !inRanges glyphlessRanges c.toNat

/-- One character between quotes. -/
def escapeChar (c : Char) : List Char :=
  if c = '"' then ['\\', '"']
  else if c = '\\' then ['\\', '\\']
  else if c = '\t' then ['\\', 't']
  else if c = '\n' then ['\\', 'n']
  else if c = '\r' then ['\\', 'r']
  else if c.toNat = 0 then ['\\', '0']
  else if hasOwnGlyph c then [c]
  else ['\\', 'u', '\x7b'] ++ Nat.toDigits 16 c.toNat ++ ['\x7d']

/-- A text between double quotes. -/
def quoted (s : String) : String :=
  String.ofList ('"' :: s.toList.flatMap escapeChar ++ ['"'])

example : quoted "a\"b\\c\n\x01" = "\"a\\\"b\\\\c\\n\\u\x7b1\x7d\"" := by decide +kernel

end Letterhead.Text
