import Letterhead.Command.Run
import Letterhead.Storage.FileTree

/-!
# Commands on a tree in memory

* `Session`, `Session.host` — a tree of files with what was printed and told, and the host that is;
* `Session.run` — the session after a command line, and its exit code.
-/

namespace Letterhead

/-- A tree of files, and what was printed and told so far. -/
structure Session where
  tree : FileTree := {}
  printed : String := ""
  notices : List Notice := []

namespace Session

/-- An operation on the tree, as one on the session. -/
def onTree {α : Type} (operation : StateM FileTree α) : StateM Session α := do
  let s ← get
  let (a, tree) := operation.run s.tree
  set { s with tree }
  return a

/-- The session as a host. Paths are read from `here`, and every document has the same stamp. The
tree has texts for names. -/
def host (isFont : Array UInt8 → Bool) (here : TreePlace) (stamp : Stamp) :
    Host (StateM Session) where
  read path := onTree ((FileTree.files here).read path)
  write path text := onTree ((FileTree.files here).write path text)
  makeDirectories path := onTree ((FileTree.files here).makeDirectories path)
  writeOutput path text :=
    onTree ((FileTree.files here).write (String.ofList (Utf8.decode path)) text)
  isFont := isFont
  print text := modify fun s => { s with printed := s.printed ++ text }
  notify notice := modify fun s => { s with notices := s.notices ++ [notice] }
  stamp := pure stamp

/-- The session after a command line, and the exit code. -/
def run (isFont : Array UInt8 → Bool) (here : TreePlace) (stamp : Stamp)
    (arguments : List String) (tree : FileTree) : UInt32 × Session :=
  (Letterhead.run (host isFont here stamp) arguments).run { tree }

end Session

end Letterhead
