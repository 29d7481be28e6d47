import Letterhead.Text.CaseTable

/-!
# Upper and lower case

Unicode's full case mappings on texts. A character may map to several (`ß` becomes `SS`), and one
mapping looks at its surroundings: a capital sigma at the end of a word becomes the final form
`ς`, any other becomes `σ`.

* `lower`, `upper` — the mappings of texts, and `lowered` that of strings;
* `lowerChar_of_ascii` — on ASCII the first of them is core's.
-/

namespace Letterhead.Text

/-- Whether a code point lies in one of the ranges. -/
def inRanges (ranges : List (Nat × Nat)) (n : Nat) : Bool :=
  ranges.any fun r => r.1 ≤ n && n ≤ r.2

/-- Unicode's `Cased` property. -/
def isCased (c : Char) : Bool :=
  inRanges casedRanges c.toNat

/-- Unicode's `Case_Ignorable` property. -/
def isCaseIgnorable (c : Char) : Bool :=
  inRanges caseIgnorableRanges c.toNat

/-- The image of a code point under a mapping given by runs and special cases. -/
def mapCase (runs : List CaseRun) (special : List (Nat × List Nat)) (c : Char) : List Char :=
  match runs.find? (·.covers c.toNat) with
  | some r => [Char.ofNat (c.toNat + r.shift).toNat]
  | none =>
    match special.lookup c.toNat with
    | some codes => codes.map Char.ofNat
    | none => [c]

/-- The lower-case form of a character, surroundings apart. -/
def lowerChar (c : Char) : List Char :=
  if c.toNat < 0x80 then [c.toLower] else mapCase lowerRuns lowerSpecial c

/-- The upper-case form of a character. -/
def upperChar (c : Char) : List Char :=
  if c.toNat < 0x80 then [c.toUpper] else mapCase upperRuns upperSpecial c

theorem lowerChar_of_ascii {c : Char} (h : c.toNat < 0x80) : lowerChar c = [c.toLower] :=
  if_pos h

/-! ### The final sigma -/

/-- Whether a cased character comes next, case-ignorable ones skipped. -/
def meetsCased (cs : List Char) : Bool :=
  match cs.dropWhile isCaseIgnorable with
  | [] => false
  | c :: _ => isCased c

/-- The lower-case form of a capital sigma that stands after `before` (nearest first) and before
`after`: final if a word ends with it. -/
def lowerSigma (before after : List Char) : Char :=
  if meetsCased before && !meetsCased after then 'ς' else 'σ'

/-! ### Texts -/

/-- The lower-case form of what follows `before` (nearest first). -/
def lowerAfter (before : List Char) : List Char → List Char
  | [] => []
  | c :: rest =>
    (if c = 'Σ' then [lowerSigma before rest] else lowerChar c) ++ lowerAfter (c :: before) rest

/-- The lower-case form of a text. -/
def lower (cs : List Char) : List Char :=
  lowerAfter [] cs

/-- The upper-case form of a text. -/
def upper (cs : List Char) : List Char :=
  cs.flatMap upperChar

/-- `lower` on strings. -/
def lowered (s : String) : String :=
  String.ofList (lower s.toList)

end Letterhead.Text
