import Letterhead.Calendar.Date
import Letterhead.Command.Run
import Letterhead.Json.Printer
import Std.Time.DateTime.Timestamp

/-!
# The program

The command line on the machine's own files and streams. Which bytes are a font it leaves to the
engine that sets documents with it.
-/

namespace Letterhead

/-! ### Files -/

/-- Why a file cannot be read or written, from the code that the system gives. -/
def fileErrorOfCode (code : UInt32) (details : String) : FileError :=
  match code.toNat with
  | 2 => .missing
  | 17 => .exists
  | 20 => .notDirectory
  | 21 => .isDirectory
  | 36 => .nameTooLong
  | _ => .other (details ++ " (os error " ++ toString code ++ ")")

/-- Why a file cannot be read or written. -/
def fileError : IO.Error → FileError
  | .noFileOrDirectory _ code details => fileErrorOfCode code details
  | .alreadyExists _ code details => fileErrorOfCode code details
  | .inappropriateType _ code details => fileErrorOfCode code details
  | .invalidArgument _ code details => fileErrorOfCode code details
  | .permissionDenied _ code details => fileErrorOfCode code details
  | .resourceExhausted _ code details => fileErrorOfCode code details
  | .noSuchThing _ code details => fileErrorOfCode code details
  | .otherError code details => fileErrorOfCode code details
  | e => .other (toString e)

/-- An operation with its error as a value. -/
def withFileError {α : Type} (operation : IO α) : IO (Except FileError α) := do
  try return .ok (← operation)
  catch e => return .error (fileError e)

/-! ### Stamps -/

/-- A date, from the seconds since the first of January 1970. -/
def dateOfSeconds (seconds : Int) : Date :=
  .ofDayNumber ((⟨1970, 1, 1⟩ : Date).dayNumber + seconds / 86400)

/-- Bytes as hexadecimal digits. -/
def hexText (bytes : List UInt8) : List Char :=
  bytes.flatMap fun b => [hexDigit (b.toNat / 16), hexDigit (b.toNat % 16)]

/-- A mark made of random bytes: 32 hexadecimal digits in five groups, with its version and variant
in their places. -/
def randomMark (bytes : List UInt8) : String :=
  let versioned := bytes.mapIdx fun i b =>
    if i = 6 then b &&& 0x0F ||| 0x40 else if i = 8 then b &&& 0x3F ||| 0x80 else b
  let digits := hexText versioned
  let group (start length : Nat) : String := String.ofList ((digits.drop start).take length)
  "-".intercalate [group 0 8, group 8 4, group 12 4, group 16 4, group 20 12]

/-- A stamp of the present month. -/
def stampNow : IO Stamp := do
  let now ← Std.Time.Timestamp.now
  let date := dateOfSeconds now.toSecondsSinceUnixEpoch.toInt
  let bytes ← IO.getRandomBytes 16
  return .ofDate date (randomMark bytes.toList)

/-! ### The host -/

/-- A text written to a file. The machine opens files by texts only. -/
def writeAt (path : SystemPath) (text : String) : IO (Except FileError Unit) :=
  match String.fromUTF8? ⟨path.toArray⟩ with
  | some path => withFileError (IO.FS.writeFile path text)
  | none => return .error .notText

/-- The machine as a host. -/
def machine (isFont : Array UInt8 → Bool) : Host IO where
  read path := withFileError (IO.FS.readBinFile path)
  write path text := withFileError (IO.FS.writeFile path text)
  makeDirectories path := withFileError (IO.FS.createDirAll path)
  writeOutput := writeAt
  isFont := isFont
  print text := IO.print text
  notify notice := IO.eprint notice.text
  stamp := stampNow

/-- The program. -/
def program (isFont : Array UInt8 → Bool) (arguments : List String) : IO UInt32 :=
  run (machine isFont) arguments

end Letterhead
