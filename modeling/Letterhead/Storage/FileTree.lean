import Letterhead.Storage.Files
import Letterhead.Storage.FilePath

/-!
# Trees of files

A tree of directories and files in memory, with the rules of paths: where a path leads, and why it
may lead nowhere.

* `FileTree.find?`, `FileTree.put` — what is at a place, and a tree with something put there;
* `FileTree.walk` — the place of a directory;
* `FileTree.read`, `FileTree.write`, `FileTree.makeDirectories` — the operations;
* `FileTree.files` — the operations as a place that keeps files.
-/

namespace Letterhead

/-- What a tree holds at a place. -/
inductive Entry where
  | file (content : ByteArray)
  | directory

/-- A place in a tree: the names that lead to it from the root. -/
abbrev TreePlace := List String

/-- A tree of directories and files. -/
structure FileTree where
  entries : List (TreePlace × Entry) := []

namespace FileTree

/-! ### Places -/

/-- What is at a place. The root is a directory. -/
def find? (t : FileTree) (place : TreePlace) : Option Entry :=
  if place.isEmpty then some .directory else t.entries.lookup place

/-- The tree with something at a place. -/
def put (t : FileTree) (place : TreePlace) (entry : Entry) : FileTree :=
  ⟨(place, entry) :: t.entries.filter (·.1 != place)⟩

/-- The most bytes that a name may have. -/
def longestName : Nat := 255

/-- Whether a name has too many bytes. -/
def isTooLong (name : String) : Bool :=
  longestName < name.utf8ByteSize

/-- The place of a directory that segments lead to. -/
def walk (t : FileTree) (place : TreePlace) : List FilePath.Segment → Except FileError TreePlace
  | [] => .ok place
  | s :: rest =>
    if FilePath.isIdle s then walk t place rest
    else if FilePath.isUp s then walk t place.dropLast rest
    else if isTooLong (String.ofList s) then .error .nameTooLong
    else
      match t.find? (place ++ [String.ofList s]) with
      | some .directory => walk t (place ++ [String.ofList s]) rest
      | some (.file _) => .error .notDirectory
      | none => .error .missing

/-- Where a path starts: at the root if it begins with a stroke, or else at `here`. -/
def start (here : TreePlace) (path : List Char) : TreePlace :=
  if path.head? = some '/' then [] else here

/-! ### Operations -/

/-- The most bytes that a path may have. -/
def longestPath : Nat := 4095

/-- Whether a path has the form of one. -/
def wellFormed (path : List Char) : Except FileError Unit :=
  if path.contains '\x00' then .error .cutShort
  else if longestPath < (String.ofList path).utf8ByteSize then .error .nameTooLong
  else .ok ()

/-- Whether a path can lead to a file. The empty one leads nowhere. -/
def usable (path : List Char) : Except FileError Unit := do
  wellFormed path
  if path.isEmpty then throw .missing

/-- The content of the file at a path. -/
def read (t : FileTree) (here : TreePlace) (path : List Char) : Except FileError ByteArray := do
  usable path
  let segments := FilePath.segments path
  let place ← t.walk (start here path) segments.dropLast
  let name := segments.getLastD []
  if FilePath.isIdle name || FilePath.isUp name then .error .isDirectory
  else if isTooLong (String.ofList name) then .error .nameTooLong
  else
    match t.find? (place ++ [String.ofList name]) with
    | some (.file content) => .ok content
    | some .directory => .error .isDirectory
    | none => .error .missing

/-- Segments without the empty ones at the end. -/
def withoutStrokes (segments : List FilePath.Segment) : List FilePath.Segment :=
  (segments.reverse.dropWhile List.isEmpty).reverse

/-- The place where a path puts a file: in a directory that is there, and not in place of one. -/
def target (t : FileTree) (here : TreePlace) (path : List Char) : Except FileError TreePlace := do
  usable path
  let all := FilePath.segments path
  let segments := withoutStrokes all
  let place ← t.walk (start here path) segments.dropLast
  let name := segments.getLastD []
  if FilePath.isIdle name || FilePath.isUp name then .error .isDirectory
  else if segments.length < all.length then .error .isDirectory
  else if isTooLong (String.ofList name) then .error .nameTooLong
  else
    match t.find? (place ++ [String.ofList name]) with
    | some .directory => .error .isDirectory
    | _ => .ok (place ++ [String.ofList name])

/-- The tree with a text in the file at a path. -/
def write (t : FileTree) (here : TreePlace) (path : List Char) (text : String) :
    Except FileError FileTree := do
  let place ← t.target here path
  return t.put place (.file text.toUTF8)

/-- Makes the directories that segments lead through. Those that were made before an error stay. -/
def makeFrom (t : FileTree) (place : TreePlace) :
    List FilePath.Segment → FileTree × Except FileError Unit
  | [] => (t, .ok ())
  | s :: rest =>
    if FilePath.isIdle s then makeFrom t place rest
    else if FilePath.isUp s then makeFrom t place.dropLast rest
    else if isTooLong (String.ofList s) then (t, .error .nameTooLong)
    else
      let below := place ++ [String.ofList s]
      match t.find? below with
      | some .directory => makeFrom t below rest
      | some (.file _) => (t, .error (if rest.all FilePath.isIdle then .exists else .notDirectory))
      | none => makeFrom (t.put below .directory) below rest

/-- Makes the directory at a path, and those above it. -/
def makeDirectories (t : FileTree) (here : TreePlace) (path : List Char) :
    FileTree × Except FileError Unit :=
  match wellFormed path with
  | .error e => (t, .error e)
  | .ok () => t.makeFrom (start here path) (FilePath.segments path)

/-! ### Listing -/

/-- The part of a place below another. -/
def below? (here place : TreePlace) : Option TreePlace :=
  if here.isPrefixOf place then some (place.drop here.length) else none

/-- The files below a place, by their paths from there. -/
def list (t : FileTree) (here : TreePlace) : List (String × ByteArray) :=
  t.entries.filterMap fun (place, entry) =>
    match entry, below? here place with
    | .file content, some names => some ("/".intercalate names, content)
    | _, _ => none

/-! ### The tree as a place that keeps files -/

/-- A tree that changes, paths being read from `here`. -/
def files (here : TreePlace) : Files (StateM FileTree) where
  read path := do return (← get).read here path.toList
  write path text := do
    match (← get).write here path.toList text with
    | .ok t => set t; return .ok ()
    | .error e => return .error e
  makeDirectories path := do
    let (t, result) := (← get).makeDirectories here path.toList
    set t
    return result

end FileTree

end Letterhead
