import Letterhead.Storage.Files
import Letterhead.Text.Blank
import Letterhead.Text.Casing

/-!
# The font registry

A registry knows the font families that a document may use: the built-in ones, and those that were
registered. A family is found by its name without outer blanks and whatever its case; the spelling
that counts is the built-in or the last registered one. What a font is, an engine that lays
documents out decides; here it is a check of bytes.

* `FontRegistry.registerWith`, `FontRegistry.registerFile` — a registry with one more family, given
  the bytes of its font or the path of a file that holds them;
* `FontRegistry.canonical?`, `FontRegistry.contains`, `FontRegistry.resolve` — the spelling of a
  family, whether it has one, and the spelling with a fallback;
* `FontRegistry.families` — the registered spellings in ascending order.
-/

namespace Letterhead

/-- The family used where none is set or known. -/
def defaultFont : String := "Helvetica"

/-- The families that need no registration. -/
def builtinFamilies : List String := ["Helvetica", "Times-Roman", "Courier"]

/-- Why a font cannot be registered. -/
inductive FontError where
  | emptyName
  | invalid (family : String)
  | unreadable (family path : String) (cause : FileError)
  /-- A request that does not have the form of a family and a path. -/
  | malformedRequest (text : String)

/-- The text of an error. -/
def FontError.message : FontError → String
  | .emptyName => "font family name is empty"
  | .invalid family => family ++ ": InvalidFont"
  | .unreadable family path cause => family ++ ": " ++ path ++ ": " ++ cause.message
  | .malformedRequest text => "expected Family=path, got '" ++ text ++ "'"

/-- The registered families: each lower-case name once, with the spelling last registered. -/
structure FontRegistry where
  entries : List (String × String) := []

namespace FontRegistry

/-- The registry with a spelling under its lower-case name. -/
def insert (fonts : FontRegistry) (family : String) : FontRegistry :=
  let key := Text.lowered family
  ⟨(key, family) :: fonts.entries.filter (·.1 != key)⟩

/-- The registry with one more family, whose font passes the check. -/
def registerWith (isFont : Array UInt8 → Bool) (fonts : FontRegistry) (family : String)
    (bytes : Array UInt8) : Except FontError FontRegistry :=
  let family := Text.trimmed family
  if family.isEmpty then .error .emptyName
  else if isFont bytes then .ok (fonts.insert family)
  else .error (.invalid family)

/-- The registry with one more family, whose font is in a file. -/
def registerFile {m : Type → Type} [Monad m] (isFont : Array UInt8 → Bool) (files : Files m)
    (fonts : FontRegistry) (family path : String) : m (Except FontError FontRegistry) := do
  match ← files.read path with
  | .error cause => return .error (.unreadable family path cause)
  | .ok bytes => return fonts.registerWith isFont family bytes.data

/-- Equality of names up to the case of ASCII letters. -/
def sameAsciiName (s t : String) : Bool :=
  s.toList.map Char.toLower == t.toList.map Char.toLower

/-- The spelling of a family: a built-in one first, then a registered one. -/
def canonical? (fonts : FontRegistry) (family : String) : Option String :=
  let family := Text.trimmed family
  match builtinFamilies.find? (sameAsciiName · family) with
  | some builtin => some builtin
  | none => fonts.entries.lookup (Text.lowered family)

/-- Whether a family is known. -/
def contains (fonts : FontRegistry) (family : String) : Bool :=
  (fonts.canonical? family).isSome

/-- The spelling of a family, or the default font if it is not known. -/
def resolve (fonts : FontRegistry) (family : String) : String :=
  (fonts.canonical? family).getD defaultFont

/-- The registered spellings in ascending order. -/
def families (fonts : FontRegistry) : List String :=
  (fonts.entries.map (·.2)).mergeSort (· ≤ ·)

end FontRegistry

end Letterhead
