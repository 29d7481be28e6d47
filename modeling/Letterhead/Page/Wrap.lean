import Letterhead.Page.Line

/-!
# Breaking text into lines

A text is broken at its blanks, each line taking as many words as fit, one blank apart. A word that
is wider than a line is cut.

* `chop` — a word in pieces of a width;
* `fill` — words put on lines;
* `wrap` — a text broken into lines; always at least one.
-/

namespace Letterhead

/-- A character put in front of the first of some lines. -/
def consFirst (c : Char) : List Line → List Line
  | [] => [[c]]
  | line :: rest => (c :: line) :: rest

/-- A word cut after every `width` columns, the first time after `room`. An overlay stays with the
character before it. -/
def chop (width : Nat) : Nat → Line → List Line
  | _, [] => [[]]
  | 0, c :: cs =>
    if c = overlay then consFirst c (chop width 0 cs)
    else [] :: consFirst c (chop width (width - 1) cs)
  | room + 1, c :: cs =>
    if c = overlay then consFirst c (chop width (room + 1) cs)
    else consFirst c (chop width room cs)

/-- The pieces of a word, each of at most `width` columns. -/
def pieces (width : Nat) (word : Line) : List Line :=
  chop width width word

/-- Words put on lines, `line` being the one that is begun. -/
def fill (width : Nat) (line : Line) : List Line → List Line
  | [] => if line.isEmpty then [] else [line]
  | word :: rest =>
    let parts := pieces width word
    if displayWidth line = 0 then
      parts.dropLast ++ fill width (line ++ parts.getLastD []) rest
    else if displayWidth line + 1 + displayWidth word ≤ width then
      fill width (line ++ ' ' :: word) rest
    else
      line :: (parts.dropLast ++ fill width (parts.getLastD []) rest)

/-- A text broken into lines of at most `width` columns, and of at least one. -/
def wrap (width : Nat) (text : Line) : List Line :=
  match fill (max width 1) [] (Text.words text) with
  | [] => [[]]
  | lines => lines

/-- The same for a text with line feeds, each of which ends a line. -/
def wrapAll (width : Nat) (text : Line) : List Line :=
  (text.splitOn '\n').flatMap (wrap width)

example : wrap 9 "one two three four".toList = ["one two", "three", "four"].map (·.toList) := by
  decide
example : wrap 4 "ab abcdefgh".toList = ["ab", "abcd", "efgh"].map (·.toList) := by decide

end Letterhead
