import Letterhead.Template.Config

/-!
# Template nodes

A template is the tree that a rich-text editor produces: block nodes that hold others, and inline
nodes that flow in a line of text. A node of a type that is not known is a wrapper around its
children.

* `Node`, `Mark`, `Template` — the tree;
* `Tag` — the known types with their spellings;
* `Node.children`, `Node.isInline`, `Node.typeName`, `Node.same` — what the tree shows.
-/

namespace Letterhead

/-! ### The tree -/

/-- A mark on a text. Marks that do not show in print are all the same. -/
inductive Mark where
  | bold
  | italic
  | underline
  | strike
  | other
deriving DecidableEq, Repr

/-- A node of a template. -/
inductive Node where
  | document (content : List Node)
  /-- A paragraph with the alignment written in it. -/
  | paragraph (align : Option String) (content : List Node)
  /-- A heading. Level 1 is a title and 2 a section; a missing level is 1. -/
  | heading (level : Option Nat) (align : Option String) (content : List Node)
  | text (text : String) (marks : List Mark)
  | bulletList (items : List Node)
  /-- A numbered list with its first number; a missing one is 1. -/
  | orderedList (start : Option Nat) (items : List Node)
  | listItem (content : List Node)
  | blockquote (content : List Node)
  | horizontalRule
  | hardBreak
  /-- A placeholder for a value of the context: the path to it, and a name for a reader. -/
  | variable (id : String) (label : Option String)
  /-- A section computed from the context. -/
  | dynamicBlock (blockType : String) (config : BlockConfig)
  /-- A node of another type: a wrapper around its children. -/
  | unknown (typeName : String) (content : List Node)

/-- A template: its top-level nodes. -/
structure Template where
  content : List Node := []

/-- Whether a template has nothing to render. -/
def Template.isEmpty (t : Template) : Bool :=
  t.content.isEmpty

namespace Node

/-- The child nodes. -/
def children : Node → List Node
  | .document content => content
  | .paragraph _ content => content
  | .heading _ _ content => content
  | .bulletList items => items
  | .orderedList _ items => items
  | .listItem content => content
  | .blockquote content => content
  | .unknown _ content => content
  | .text .. => []
  | .horizontalRule => []
  | .hardBreak => []
  | .variable .. => []
  | .dynamicBlock .. => []

/-- Whether a node flows in a line of text. -/
def isInline : Node → Bool
  | .text .. => true
  | .hardBreak => true
  | .variable .. => true
  | _ => false

/-- What stands in the brackets of a placeholder whose value is missing: its label, or its path if
the label shows nothing. -/
def placeholderLabel (id : String) (label : Option String) : String :=
  match label with
  | some l => if Text.isBlankText l then id else l
  | none => id

end Node

/-! ### Types -/

/-- The types of node that are known. -/
inductive Tag where
  | document
  | paragraph
  | heading
  | text
  | bulletList
  | orderedList
  | listItem
  | blockquote
  | horizontalRule
  | hardBreak
  | variable
  | dynamicBlock
deriving DecidableEq, Repr

namespace Tag

/-- The spellings of a type, the usual one first. -/
def spellings : Tag → List String
  | .document => ["doc", "document"]
  | .paragraph => ["paragraph"]
  | .heading => ["heading"]
  | .text => ["text"]
  | .bulletList => ["bulletList", "bulleted-list"]
  | .orderedList => ["orderedList", "ordered-list"]
  | .listItem => ["listItem", "list-item"]
  | .blockquote => ["blockquote"]
  | .horizontalRule => ["horizontalRule", "horizontal-rule"]
  | .hardBreak => ["hardBreak", "hard-break"]
  | .variable => ["variable", "variable-reference"]
  | .dynamicBlock => ["dynamicBlock", "dynamic-block"]

/-- Every known type. -/
def all : List Tag :=
  [.document, .paragraph, .heading, .text, .bulletList, .orderedList, .listItem, .blockquote,
    .horizontalRule, .hardBreak, .variable, .dynamicBlock]

/-- The known type of a spelling. -/
def ofName? (name : String) : Option Tag :=
  all.find? (·.spellings.contains name)

/-- The usual spelling. -/
def name (tag : Tag) : String :=
  tag.spellings.headD ""

/-- No spelling is shared by two types. -/
theorem ofName?_spelling {tag : Tag} {name : String} (h : name ∈ tag.spellings) :
    ofName? name = some tag := by
  have each : ∀ t ∈ all, ∀ n ∈ t.spellings, ofName? n = some t := by decide
  exact each tag (by cases tag <;> decide) name h

end Tag

/-- The usual spelling of a node's type. -/
def Node.typeName : Node → String
  | .document _ => Tag.document.name
  | .paragraph .. => Tag.paragraph.name
  | .heading .. => Tag.heading.name
  | .text .. => Tag.text.name
  | .bulletList _ => Tag.bulletList.name
  | .orderedList .. => Tag.orderedList.name
  | .listItem _ => Tag.listItem.name
  | .blockquote _ => Tag.blockquote.name
  | .horizontalRule => Tag.horizontalRule.name
  | .hardBreak => Tag.hardBreak.name
  | .variable .. => Tag.variable.name
  | .dynamicBlock .. => Tag.dynamicBlock.name
  | .unknown name _ => name

/-! ### Equality -/

mutual

/-- Whether two nodes are the same, values in settings being compared by `Json.same`. -/
def Node.same : Node → Node → Bool
  | .document xs, .document ys => sameNodes xs ys
  | .paragraph a xs, .paragraph b ys => a == b && sameNodes xs ys
  | .heading l a xs, .heading m b ys => l == m && a == b && sameNodes xs ys
  | .text s ms, .text t ns => s == t && ms == ns
  | .bulletList xs, .bulletList ys => sameNodes xs ys
  | .orderedList s xs, .orderedList t ys => s == t && sameNodes xs ys
  | .listItem xs, .listItem ys => sameNodes xs ys
  | .blockquote xs, .blockquote ys => sameNodes xs ys
  | .horizontalRule, .horizontalRule => true
  | .hardBreak, .hardBreak => true
  | .variable i l, .variable j m => i == j && l == m
  | .dynamicBlock t c, .dynamicBlock u d => t == u && sameFields c.entries d.entries
  | .unknown n xs, .unknown m ys => n == m && sameNodes xs ys
  | _, _ => false

/-- Node by node. -/
def sameNodes : List Node → List Node → Bool
  | [], [] => true
  | x :: xs, y :: ys => x.same y && sameNodes xs ys
  | _, _ => false

end

end Letterhead
