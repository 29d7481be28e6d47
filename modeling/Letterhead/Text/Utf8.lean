/-!
# Bytes of texts

A text is written in bytes, from one to four for a character. Bytes that are no such writing are
read all the same: what cannot be part of a character is replaced, and reading goes on behind it.

* `Utf8.encode` — the bytes of characters;
* `Utf8.Begun`, `Utf8.step` — reading byte by byte, with the character that is begun;
* `Utf8.decode` — the characters of any bytes.
-/

namespace Letterhead.Utf8

/-- The bytes of characters. -/
def encode (cs : List Char) : List UInt8 :=
  cs.flatMap String.utf8EncodeChar

/-- What stands for bytes that are no character. -/
def replacement : Char := Char.ofNat 0xFFFD

/-- A character of which some bytes were read, and not all. -/
structure Begun where
  /-- The bits of the character so far. -/
  bits : Nat
  /-- How many bytes follow the next one. -/
  owed : Nat
  /-- The next byte is this one at least. -/
  least : Nat := 0x80
  /-- The next byte is this one at most. -/
  greatest : Nat := 0xBF
deriving DecidableEq, Repr

/-- What the first byte of a character gives: the character, or its beginning. A byte that none
begins with is replaced. The bounds of the second byte leave out characters that fewer bytes hold,
and numbers of no character. -/
def first (b : Nat) : List Char × Option Begun :=
  if b < 0x80 then ([Char.ofNat b], none)
  else if b < 0xC2 then ([replacement], none)
  else if b < 0xE0 then ([], some { bits := b - 0xC0, owed := 0 })
  else if b < 0xF0 then
    ([], some {
      bits := b - 0xE0
      owed := 1
      least := if b = 0xE0 then 0xA0 else 0x80
      greatest := if b = 0xED then 0x9F else 0xBF })
  else if b < 0xF5 then
    ([], some {
      bits := b - 0xF0
      owed := 2
      least := if b = 0xF0 then 0x90 else 0x80
      greatest := if b = 0xF4 then 0x8F else 0xBF })
  else ([replacement], none)

/-- What the next byte of a character gives. -/
def Begun.next (p : Begun) (b : Nat) : List Char × Option Begun :=
  let bits := p.bits * 0x40 + (b - 0x80)
  match p.owed with
  | 0 => ([Char.ofNat bits], none)
  | owed + 1 => ([], some { bits, owed })

/-- What a byte gives. If it does not go on with the character that is begun, that one is replaced,
and the byte is a first one. -/
def step (begun : Option Begun) (b : Nat) : List Char × Option Begun :=
  match begun with
  | none => first b
  | some p =>
    if p.least ≤ b && b ≤ p.greatest then p.next b
    else (replacement :: (first b).1, (first b).2)

/-- The characters of bytes that follow those of a character that is begun. -/
def decodeFrom (begun : Option Begun) : List UInt8 → List Char
  | [] => if begun.isSome then [replacement] else []
  | b :: rest => (step begun b.toNat).1 ++ decodeFrom (step begun b.toNat).2 rest

/-- The characters of bytes. -/
def decode (bytes : List UInt8) : List Char :=
  decodeFrom none bytes

example : decode [0x61, 0xE2, 0x82, 0xFF, 0xC3, 0xA9] = ['a', replacement, replacement, 'é'] := by
  decide

end Letterhead.Utf8
