import Letterhead.Document.Scope
import Letterhead.Variable

/-!
# Inline nodes

A node flows inline if it is inline, or of an unknown type with only such nodes inside. What flows
inline gives runs, and any other node in an inline place gives none.

* `Node.flowsInline`, `allFlowInline` — which nodes these are;
* `Node.runs`, `runsOf` — their runs.
-/

namespace Letterhead

/-! ### What flows -/

mutual

/-- Whether a node becomes part of a line of text. -/
def Node.flowsInline : Node → Bool
  | .text .. => true
  | .hardBreak => true
  | .variable .. => true
  | .unknown _ content => allFlowInline content
  | .document _ => false
  | .paragraph .. => false
  | .heading .. => false
  | .bulletList _ => false
  | .orderedList .. => false
  | .listItem _ => false
  | .blockquote _ => false
  | .horizontalRule => false
  | .dynamicBlock .. => false

/-- Whether all of some nodes do. -/
def allFlowInline : List Node → Bool
  | [] => true
  | node :: rest => node.flowsInline && allFlowInline rest

end

/-! ### Runs -/

/-- The run of a text with its marks. -/
def textRun (text : String) (marks : List Mark) : Run where
  text := text
  bold := marks.contains .bold
  italic := marks.contains .italic
  underline := marks.contains .underline
  strike := marks.contains .strike

/-- The run that stands for a variable without a value: its name in brackets, on a fill that shows
it. -/
def placeholderRun (id : String) (label : Option String) : Run where
  text := "[" ++ Node.placeholderLabel id label ++ "]"
  background := some .placeholder

/-- The run of a variable: its value, or a placeholder. -/
def variableRun (context : Context) (id : String) (label : Option String) : Run :=
  match context.resolve? id with
  | some value => .plain value
  | none => placeholderRun id label

mutual

/-- The runs of a node in an inline place. -/
def Node.runs (context : Context) : Node → List Run
  | .text text marks => [textRun text marks]
  | .hardBreak => [.lineBreak]
  | .variable id label => [variableRun context id label]
  | .unknown _ content => runsOf context content
  | .document _ => []
  | .paragraph .. => []
  | .heading .. => []
  | .bulletList _ => []
  | .orderedList .. => []
  | .listItem _ => []
  | .blockquote _ => []
  | .horizontalRule => []
  | .dynamicBlock .. => []

/-- Node by node. -/
def runsOf (context : Context) : List Node → List Run
  | [] => []
  | node :: rest => node.runs context ++ runsOf context rest

end

end Letterhead
