import Letterhead.Page.Lines

/-!
# Pages

The lines of a body are cut into pages. Every page has the lines of the header at its top and those
of the footer at its bottom.

* `PageSize` — the size of a page in characters, with the usual ones by name;
* `PageSize.bodyLines?` — the lines that header and footer leave for the body;
* `Document.pages`, `Document.text` — the pages, and the text with form feeds between them.
-/

namespace Letterhead

/-! ### Sizes -/

/-- The size of a page in characters, header and footer included. -/
structure PageSize where
  name : String
  columns : Nat
  lines : Nat
deriving DecidableEq, Repr

namespace PageSize

/-- A sheet of A4. -/
def a4 : PageSize := ⟨"A4", 80, 66⟩

/-- A sheet of North American letter paper. -/
def letter : PageSize := ⟨"Letter", 80, 62⟩

/-- The narrowest page that tables can be drawn on. -/
def fewestColumns : Nat := 24

/-- The page of a name, whatever its case. -/
def ofName? (name : String) : Option PageSize :=
  let name := Text.lowered (Text.trimmed name)
  if name = "a4" then some a4
  else if name = "letter" then some letter
  else none

/-- The lines of a page that a header and a footer leave for the body, if there are any. -/
def bodyLines? (p : PageSize) (header footer : Nat) : Option Nat :=
  if header + footer < p.lines then some (p.lines - (header + footer)) else none

end PageSize

/-- Why a document cannot be laid out. -/
inductive LayoutError where
  | narrow (page : PageSize)
  | noRoom (header footer lines : Nat)
  | unknownPage (name : String)
  /-- The typesetter that was asked gave this reason. -/
  | typesetter (reason : String)

/-- The text of an error. -/
def LayoutError.message : LayoutError → String
  | .narrow page =>
    "page " ++ page.name ++ " is " ++ toString page.columns ++ " columns wide, need at least " ++
      toString PageSize.fewestColumns
  | .noRoom header footer lines =>
    "header (" ++ toString header ++ " lines) and footer (" ++ toString footer ++
      " lines) leave no room on a " ++ toString lines ++ "-line page"
  | .unknownPage name => "unknown page size '" ++ name ++ "' (use a4 or letter)"
  | .typesetter reason => reason

/-! ### Pages -/

/-- Lines in groups of `n`, the last of which may be smaller; no lines are one empty group. -/
def inGroups {α : Type} (n : Nat) (lines : List α) : List (List α) :=
  if n = 0 ∨ lines.length ≤ n then [lines]
  else lines.take n :: inGroups n (lines.drop n)
termination_by lines.length
decreasing_by simp only [List.length_drop]; omega

/-- Lines cut off at a height, or filled up to it with empty ones. -/
def resized (height : Nat) (lines : List Line) : List Line :=
  lines.take height ++ List.replicate (height - lines.length) []

/-- A page: the header, a part of the body, and the footer at the bottom. -/
def sheet (height : Nat) (header footer body : List Line) : List Line :=
  if footer.isEmpty then header ++ body
  else resized (height - footer.length) (header ++ body) ++ footer

/-- The lines of a region that may be missing. -/
def regionLines (width : Nat) (region : Option Region) : List Line :=
  match region with
  | some r => r.lines width
  | none => []

namespace Document

/-- The pages of a document. -/
def pages (size : PageSize) (d : Document) : Except LayoutError (List (List Line)) :=
  if size.columns < PageSize.fewestColumns then .error (.narrow size)
  else
    let header := regionLines size.columns d.header
    let footer := regionLines size.columns d.footer
    match size.bodyLines? header.length footer.length with
    | none => .error (.noRoom header.length footer.length size.lines)
    | some room =>
      .ok ((inGroups room (d.body.lines size.columns)).map (sheet size.lines header footer))

end Document

/-- What stands between two pages: a form feed on a line of its own. -/
def pageBreak : Line := ['\n', '\x0c', '\n']

/-- The text of a page: its lines without the blanks that end them. -/
def sheetText (page : List Line) : Line :=
  List.intercalate ['\n'] (page.map Text.trimEnd)

/-- The text of pages. -/
def pagesText (pages : List (List Line)) : String :=
  String.ofList (List.intercalate pageBreak (pages.map sheetText) ++ ['\n'])

/-- The text of a document. -/
def Document.text (size : PageSize) (d : Document) : Except LayoutError String :=
  (d.pages size).map pagesText

end Letterhead
