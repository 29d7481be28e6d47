import Letterhead.Calendar.Date
import Letterhead.Decimal.Fixed
import Letterhead.Storage.Files
import Letterhead.Storage.FilePath
import Letterhead.Text.Blank

/-!
# Storing documents

A document is stored under a path that is made of the month, a mark that no other document has, and
the file's name. A store accepts only paths that stay below it.

* `Stamp`, `storagePath` — the path of a document;
* `isStoragePath` — whether a path stays below the store;
* `Uploader`, `directoryStore` — what stores documents, and the one that keeps them in a directory.
-/

namespace Letterhead

open Decimal

/-! ### Paths of documents -/

/-- What tells the paths of documents with one name apart. -/
structure Stamp where
  year : Int
  month : Nat
  /-- The mark that no other document has. -/
  mark : String

/-- The stamp of a document that is stored on a date. -/
def Stamp.ofDate (date : Date) (mark : String) : Stamp :=
  { year := date.year, month := date.month, mark }

/-- What stands for a character in a stored name: strokes and control characters are replaced. -/
def storedChar (c : Char) : Char :=
  if c = '/' || c = '\\' || Text.isControl c then '_' else c

/-- The name under which a file is stored. -/
def storedName (fileName : String) : List Char :=
  match (Text.trim fileName.toList).map storedChar with
  | [] => "documento".toList
  | name => name

/-- A year in a path: four characters or more, filled with zeros that follow the sign. -/
def storedYear (year : Int) : List Char :=
  if year < 0 then '-' :: padded 3 year.natAbs else padded 4 year.toNat

/-- The path under which a file is stored. -/
def storagePath (stamp : Stamp) (fileName : String) : List Char :=
  "documenti/".toList ++ storedYear stamp.year ++ '/' :: padded 2 stamp.month ++
    '/' :: stamp.mark.toList ++ '-' :: storedName fileName

/-- Whether a path stays below a store: whether each segment is a name. -/
def isStoragePath (path : List Char) : Bool :=
  (FilePath.segments path).all fun s => !(FilePath.isIdle s || FilePath.isUp s)

/-! ### Stores -/

/-- Where a document was stored. -/
structure StoredFile where
  path : String
  url : String
deriving DecidableEq, Repr

/-- Why a document could not be stored. -/
inductive UploadError where
  | invalidPath (path : String)
  | refused (path : String) (cause : FileError)
  /-- The store gave this reason. -/
  | unavailable (reason : String)
deriving DecidableEq, Repr

/-- The text of an error. -/
def UploadError.message : UploadError → String
  | .invalidPath path => "invalid storage path: " ++ path
  | .refused path cause => path ++ ": " ++ cause.message
  | .unavailable reason => reason

/-- What stores a text under a path. -/
abbrev Uploader (m : Type → Type) := String → String → m (Except UploadError StoredFile)

/-- The store in a directory. A path that does not stay below it is refused before any file is
touched. -/
def directoryStore {m : Type → Type} [Monad m] (files : Files m) (root : String) : Uploader m :=
  fun path text => do
    if isStoragePath path.toList then
      let full := FilePath.joined root.toList path.toList
      let parent := String.ofList (FilePath.parent full)
      let full := String.ofList full
      match ← files.makeDirectories parent with
      | .error e => return .error (.refused parent e)
      | .ok () =>
        match ← files.write full text with
        | .error e => return .error (.refused full e)
        | .ok () => return .ok { path, url := "file://" ++ full }
    else return .error (.invalidPath path)

end Letterhead
