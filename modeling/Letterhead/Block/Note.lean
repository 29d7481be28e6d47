import Letterhead.Brand.Style
import Letterhead.Template.Config

/-!
# Notes

A note is a text in a coloured frame; its style says how serious it is.
-/

namespace Letterhead

/-- The styles of a note. -/
inductive NoteStyle where
  | warning
  | info
  | success
  | error
deriving DecidableEq, Repr

/-- The colours of a note. -/
structure Palette where
  background : Color
  border : Color
  text : Color
deriving DecidableEq, Repr

namespace NoteStyle

/-- The style of a name, whatever its case; information if it names none. -/
def ofName (name : Option String) : NoteStyle :=
  match name.map fun n => Text.lowered (Text.trimmed n) with
  | some "warning" => .warning
  | some "success" => .success
  | some "error" => .error
  | _ => .info

/-- The colours of a style. -/
def palette : NoteStyle → Palette
  | .warning => ⟨"#fff8e1", "#f9a825", "#6d4c00"⟩
  | .info => ⟨"#e3f2fd", "#1e88e5", "#0d3c61"⟩
  | .success => ⟨"#e8f5e9", "#43a047", "#1b5e20"⟩
  | .error => ⟨"#ffebee", "#e53935", "#7f1d1d"⟩

end NoteStyle

/-- A note: its style, and its text if it has one. -/
structure Note where
  style : NoteStyle
  text : Option String
deriving DecidableEq, Repr

/-- The note of a block's settings. -/
def Note.ofConfig (config : BlockConfig) : Note where
  style := .ofName (config.text "style")
  text := (config.text "text").or (config.text "content")

end Letterhead
