import Letterhead.Storage.FilePath
import Letterhead.Text.Utf8

/-!
# Where output goes

One document goes to the file that was named. Several go to files beside it, each with its number
before the extension. A system's paths are bytes, and new names are texts: what is no text in the
name that was given is replaced in theirs.

* `SystemPath` — the paths of a system;
* `numberedName` — a name with a number;
* `indexedPath` — the path for one of several documents.
-/

namespace Letterhead

open FilePath

/-- A path as a system has it. -/
abbrev SystemPath := List UInt8

/-- A name with a number before its extension. -/
def numberedName (stem : Segment) (number : Nat) (extension : Option Segment) : Segment :=
  stem ++ '-' :: (Nat.toDigits 10 number ++ (match extension with
    | some e => '.' :: e
    | none => []))

/-- The stem and extension of the file that a path names, as texts; a usual stem if it names
none. -/
def targetName (path : SystemPath) : Segment × Option Segment :=
  match fileName? path with
  | some name =>
    let (stem, extension) := splitName name
    (Utf8.decode stem, extension.map Utf8.decode)
  | none => ("documento".toList, none)

/-- The path for the document at a position, counted from zero, of `count` documents. -/
def indexedPath (path : SystemPath) (position count : Nat) : SystemPath :=
  if count ≤ 1 then path
  else
    let (stem, extension) := targetName path
    withFileName path (Utf8.encode (numberedName stem (position + 1) extension))

example : indexedPath (Utf8.encode "out/proposta.txt".toList) 1 3 =
    Utf8.encode "out/proposta-2.txt".toList := by decide
example : indexedPath (Utf8.encode "plain".toList) 0 2 = Utf8.encode "plain-1".toList := by decide
example : indexedPath (Utf8.encode "sub/..".toList) 0 2 =
    Utf8.encode "sub/../documento-1".toList := by decide

end Letterhead
