/-!
# Paths

A path is a sequence of segments divided by strokes. An empty segment and a single dot name nothing
of their own, except at the start: an empty one there is the root. Paths are made of characters
where they are texts, and of bytes where they are what a system has for them.

* `FilePath.Alphabet` — what paths are made of: characters, or bytes;
* `FilePath.segments`, `FilePath.settled` — the segments, and those up to the last that names
  something;
* `FilePath.fileName?`, `FilePath.directory` — the last name, and the segments before it;
* `FilePath.splitName` — a name cut at its last dot;
* `FilePath.withFileName`, `FilePath.joined`, `FilePath.parent` — paths from paths.
-/

namespace Letterhead.FilePath

/-- What paths can be made of, with the two signs that have a meaning there. -/
class Alphabet (α : Type) where
  /-- What divides segments. -/
  stroke : α
  dot : α

instance : Alphabet Char where
  stroke := '/'
  dot := '.'

instance : Alphabet UInt8 where
  stroke := 0x2F
  dot := 0x2E

/-- A stretch of a path between strokes. -/
abbrev Segment (α : Type := Char) := List α

variable {α : Type} [DecidableEq α] [Alphabet α]

/-- The segments of a path. -/
def segments (path : List α) : List (Segment α) :=
  path.splitOn Alphabet.stroke

/-- Whether a segment names nothing of its own. -/
def isIdle (s : Segment α) : Bool :=
  s.isEmpty || s == [Alphabet.dot]

/-- Whether a segment leads upwards. -/
def isUp (s : Segment α) : Bool :=
  s == [Alphabet.dot, Alphabet.dot]

/-- Segments without those at the end that name nothing; the first one stays. -/
def settled : List (Segment α) → List (Segment α)
  | [] => []
  | first :: rest => first :: (rest.reverse.dropWhile isIdle).reverse

/-- Segments as a path. -/
def ofSegments (segments : List (Segment α)) : List α :=
  List.intercalate [Alphabet.stroke] segments

/-! ### Names -/

/-- The name that settled segments end with: none if they lead upwards, or to the root or the
present directory. -/
def lastName? (segments : List (Segment α)) : Option (Segment α) :=
  match segments.getLast? with
  | some s => if isUp s || isIdle s then none else some s
  | none => none

/-- The name of the file that a path leads to. -/
def fileName? (path : List α) : Option (Segment α) :=
  lastName? (settled (segments path))

/-- The segments before the name of the file. -/
def directory (path : List α) : List (Segment α) :=
  settled (settled (segments path)).dropLast

/-- What follows the last dot of a name. -/
def afterLastDot (name : Segment α) : Segment α :=
  (name.reverse.takeWhile (· != Alphabet.dot)).reverse

/-- A name cut at its last dot into stem and extension. There is no extension without a dot, or
with nothing before it. -/
def splitName (name : Segment α) : Segment α × Option (Segment α) :=
  let extension := afterLastDot name
  let stem := name.take (name.length - (extension.length + 1))
  if stem.isEmpty then (name, none) else (stem, some extension)

/-! ### Paths from paths -/

/-- A path with another one after it. One that begins at the root takes the place of the first. -/
def joined (path other : List α) : List α :=
  if path.isEmpty || other.head? = some Alphabet.stroke then other
  else if path.getLast? = some Alphabet.stroke then path ++ other
  else path ++ Alphabet.stroke :: other

/-- A path with another name in place of its file's; with the name after it, if it has none. -/
def withFileName (path : List α) (name : Segment α) : List α :=
  match fileName? path with
  | some _ => ofSegments (directory path ++ [name])
  | none => joined path name

/-- The path of the directory of a file. -/
def parent (path : List α) : List α :=
  match directory path with
  | [[]] => [Alphabet.stroke]
  | segments => ofSegments segments

end Letterhead.FilePath
