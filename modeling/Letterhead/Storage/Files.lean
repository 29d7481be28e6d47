/-!
# Files

* `FileError` — why a file cannot be read or written;
* `Files` — what the library asks of a place that keeps files, whatever that place is.
-/

namespace Letterhead

/-- Why a file cannot be read or written. -/
inductive FileError where
  | missing
  | exists
  | notDirectory
  | isDirectory
  | nameTooLong
  /-- The path holds a character that ends it. -/
  | cutShort
  /-- The file is no text. -/
  | notText
  /-- Any other reason. -/
  | other (reason : String)
deriving DecidableEq, Repr

/-- The text of an error. -/
def FileError.message : FileError → String
  | .missing => "No such file or directory (os error 2)"
  | .exists => "File exists (os error 17)"
  | .notDirectory => "Not a directory (os error 20)"
  | .isDirectory => "Is a directory (os error 21)"
  | .nameTooLong => "File name too long (os error 36)"
  | .cutShort => "file name contained an unexpected NUL byte"
  | .notText => "stream did not contain valid UTF-8"
  | .other reason => reason

/-- A place that keeps files, by their paths. -/
structure Files (m : Type → Type) where
  read : String → m (Except FileError ByteArray)
  write : String → String → m (Except FileError Unit)
  /-- Makes a directory and those above it, as far as they are missing. -/
  makeDirectories : String → m (Except FileError Unit)

/-- The text of a file. -/
def Files.readText {m : Type → Type} [Monad m] (files : Files m) (path : String) :
    m (Except FileError String) := do
  match ← files.read path with
  | .error e => return .error e
  | .ok bytes =>
    match String.fromUTF8? bytes with
    | some text => return .ok text
    | none => return .error .notText

end Letterhead
