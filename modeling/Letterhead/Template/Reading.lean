import Letterhead.Json.Typed
import Letterhead.Template.Node

/-!
# Reading templates

A node is an object whose `type` names it. A known type reads its own fields, each of which may be
`null` for "not given"; content and attributes have two spellings each. What is wrong below a node
of a type that is not known is no error of the document: such a node then has no children.

* `Node.ofJson` — the node a value stands for, or the first thing that is wrong in it;
* `Template.ofJson` — the template a value stands for: the nodes of an array, the content of a
  document node, or any other node by itself;
* `TemplateError.message` — the text of an error, which names the nodes around it.
-/

namespace Letterhead

open Json

/-- What is wrong with a template. -/
inductive TemplateError where
  | notAnObject (value : Json)
  | untyped
  | payload (cause : Mismatch)
  /-- An error in or below a node whose type is written so. -/
  | inside (typeName : String) (cause : TemplateError)
  /-- An error in an element of a top-level array. -/
  | element (index : Nat) (cause : TemplateError)

/-- The text of an error. -/
def TemplateError.message : TemplateError → String
  | .notAnObject value => "expected node object, got " ++ value.compact
  | .untyped => "node object has no string 'type' field"
  | .payload cause => cause.message
  | .inside name cause => name ++ ": " ++ cause.message
  | .element i cause => "content[" ++ toString i ++ "]: " ++ cause.message

/-! ### Attributes -/

/-- The attributes of nodes of all types. A type uses some of them. -/
structure Attributes where
  align : Option String := none
  level : Option Nat := none
  start : Option Nat := none
  id : String := ""
  label : Option String := none
  blockType : String := ""
  config : BlockConfig := {}

/-- Settings are an object. -/
def readConfig (v : Json) : Except Mismatch BlockConfig :=
  match v with
  | .object fields => .ok ⟨fields⟩
  | v => .error ((view v).mismatch .map)

namespace Attributes

/-- A reader of one attribute. -/
abbrev Reader := Field Json Mismatch Attributes

/-- The alignment. -/
def alignField : Reader where
  name := "textAlign"
  read v a := do return { a with align := ← readOptional readText v }

/-- The level of a heading. -/
def levelField : Reader where
  name := "level"
  read v a := do return { a with level := ← readOptional (readNatural 8) v }

/-- The first number of a list. -/
def startField : Reader where
  name := "start"
  read v a := do return { a with start := ← readOptional (readNatural 32) v }

/-- The path of a variable. -/
def idField : Reader where
  name := "id"
  read v a := do return { a with id := (← readOptional readText v).getD "" }

/-- The label of a variable. -/
def labelField : Reader where
  name := "label"
  read v a := do return { a with label := ← readOptional readText v }

/-- The type of a dynamic block. -/
def blockTypeField : Reader where
  name := "blockType"
  read v a := do return { a with blockType := (← readOptional readText v).getD "" }

/-- The settings of a dynamic block. -/
def configField : Reader where
  name := "config"
  read v a := do return { a with config := (← readOptional readConfig v).getD {} }

end Attributes

open Attributes in
/-- The name of a type's attributes and the attributes it has, if it has any. -/
def Tag.attributes? : Tag → Option (String × List Attributes.Reader)
  | .paragraph => some ("AlignAttrs", [alignField])
  | .heading => some ("HeadingAttrs", [levelField, alignField])
  | .orderedList => some ("OrderedListAttrs", [startField])
  | .variable => some ("VariableAttrs", [idField, labelField])
  | .dynamicBlock => some ("DynamicBlockAttrs", [blockTypeField, configField])
  | _ => none

/-- Reads the attributes of a type; `null` gives none of them. -/
def readAttributes (name : String) (fields : List Attributes.Reader) (v : Json) :
    Except Mismatch Attributes := do
  return (← readOptional (readRecord id name fields {}) v).getD {}

/-! ### Marks -/

/-- The mark of a tag. -/
def Mark.ofTag (tag : String) : Mark :=
  match tag with
  | "bold" => .bold
  | "italic" => .italic
  | "underline" => .underline
  | "strike" => .strike
  | _ => .other

/-- The tag of a mark. -/
def readTag (v : Json) : Except Mismatch Mark :=
  match v with
  | .string s => .ok (Mark.ofTag s)
  | v => .error ((view v).mismatch .tag)

/-- A mark is an object with a `type`, whatever else it holds, or an array of its tag alone. -/
def readMark (v : Json) : Except Mismatch Mark :=
  match v with
  | .object fields =>
    match field? "type" fields with
    | some tag => readTag tag
    | none => .error (.absent "type")
  | .array [] => .error (.absent "type")
  | .array (tag :: rest) => do
    let mark ← readTag tag
    if rest.isEmpty then .ok mark else .error (.surplusContent rest.length)
  | v => .error ((view v).mismatch (.tagged "Mark"))

/-! ### Nodes -/

/-- What the fields of a node give. -/
structure Payload where
  content : Option (List Node) := none
  attributes : Option Attributes := none
  text : Option String := none
  marks : Option (List Mark) := none

/-- The fields a node can have. -/
inductive Slot where
  | content
  | attributes
  | text
  | marks
deriving DecidableEq, Repr

/-- The spellings of a field, the usual one first. -/
def Slot.spellings : Slot → List String
  | .content => ["content", "children"]
  | .attributes => ["attrs", "attributes"]
  | .text => ["text"]
  | .marks => ["marks"]

/-- The usual spelling of a field. -/
def Slot.name (slot : Slot) : String :=
  slot.spellings.headD ""

/-- The fields that a type has. -/
def Tag.slots : Tag → List Slot
  | .paragraph | .heading | .orderedList => [.content, .attributes]
  | .variable | .dynamicBlock => [.attributes]
  | .text => [.text, .marks]
  | .horizontalRule | .hardBreak => []
  | .document | .bulletList | .listItem | .blockquote => [.content]

/-- The field of a type that a key names. -/
def Tag.slot? (tag : Tag) (key : String) : Option Slot :=
  tag.slots.find? (·.spellings.contains key)

/-- Whether a field was given. -/
def Payload.has (p : Payload) : Slot → Bool
  | .content => p.content.isSome
  | .attributes => p.attributes.isSome
  | .text => p.text.isSome
  | .marks => p.marks.isSome

/-- The node of a type with what its fields give. -/
def Tag.node (tag : Tag) (p : Payload) : Node :=
  let content := p.content.getD []
  let a := p.attributes.getD {}
  match tag with
  | .document => .document content
  | .paragraph => .paragraph a.align content
  | .heading => .heading a.level a.align content
  | .text => .text (p.text.getD "") (p.marks.getD [])
  | .bulletList => .bulletList content
  | .orderedList => .orderedList a.start content
  | .listItem => .listItem content
  | .blockquote => .blockquote content
  | .horizontalRule => .horizontalRule
  | .hardBreak => .hardBreak
  | .variable => .variable a.id a.label
  | .dynamicBlock => .dynamicBlock a.blockType a.config

/-- Stores a field other than the content. -/
def Payload.store (p : Payload) (tag : Tag) (slot : Slot) (v : Json) : Except Mismatch Payload :=
  match slot with
  | .content => .ok p
  | .attributes =>
    match tag.attributes? with
    | some (name, fields) => do
      return { p with attributes := some (← readAttributes name fields v) }
    | none => .ok p
  | .text => do return { p with text := some ((← readOptional readText v).getD "") }
  | .marks => do
    return { p with marks := some ((← readOptional (readList id readMark) v).getD []) }

mutual

/-- The node that a value stands for. -/
def Node.ofJson : Json → Except TemplateError Node
  | .object fields =>
    match field? "type" fields with
    | some (.string name) =>
      match Tag.ofName? name with
      | some tag =>
        match readPayload tag {} fields with
        | .ok p => .ok (tag.node p)
        | .error e => .error (.inside name e)
      | none =>
        -- A wrapper has the fields of a document; if they cannot be read it is empty.
        match readPayload .document {} fields with
        | .ok p => .ok (.unknown name (p.content.getD []))
        | .error _ => .ok (.unknown name [])
    | _ => .error .untyped
  | .null => .error (.notAnObject .null)
  | .bool b => .error (.notAnObject (.bool b))
  | .number n => .error (.notAnObject (.number n))
  | .string s => .error (.notAnObject (.string s))
  | .array items => .error (.notAnObject (.array items))

/-- Reads the fields of a node of a type, in order, into what was read before. -/
def readPayload (tag : Tag) (p : Payload) : Fields → Except TemplateError Payload
  | [] => .ok p
  | (key, v) :: rest =>
    match tag.slot? key with
    | none => readPayload tag p rest
    | some slot =>
      if p.has slot then .error (.payload (.repeated slot.name))
      else if slot = .content then
        match readContent v with
        | .ok nodes => readPayload tag { p with content := some nodes } rest
        | .error e => .error e
      else
        match p.store tag slot v with
        | .ok p => readPayload tag p rest
        | .error e => .error (.payload e)

/-- The nodes of a content field; `null` holds none. -/
def readContent : Json → Except TemplateError (List Node)
  | .null => .ok []
  | .array items => readNodes items
  | .bool b => .error (.payload ((view (.bool b)).mismatch .sequence))
  | .number n => .error (.payload ((view (.number n)).mismatch .sequence))
  | .string s => .error (.payload ((view (.string s)).mismatch .sequence))
  | .object fields => .error (.payload ((view (.object fields)).mismatch .sequence))

/-- The nodes that the values of a list stand for. -/
def readNodes : List Json → Except TemplateError (List Node)
  | [] => .ok []
  | v :: rest =>
    match Node.ofJson v with
    | .ok node =>
      match readNodes rest with
      | .ok nodes => .ok (node :: nodes)
      | .error e => .error e
    | .error e => .error e

end

/-! ### Templates -/

/-- The nodes of a top-level array, of which `index` came before. -/
def readElements (index : Nat) : List Json → Except TemplateError (List Node)
  | [] => .ok []
  | v :: rest =>
    match Node.ofJson v with
    | .ok node => (readElements (index + 1) rest).map (node :: ·)
    | .error e => .error (.element index e)

/-- The template that a value stands for. -/
def Template.ofJson : Json → Except TemplateError Template
  | .array items => (readElements 0 items).map Template.mk
  | v =>
    match Node.ofJson v with
    | .ok (.document content) => .ok ⟨content⟩
    | .ok node => .ok ⟨[node]⟩
    | .error e => .error e

/-- The template that a text holds. What is wrong with the value is reported before what follows
it; nothing is reported for a text that is not JSON. -/
def Template.ofText (text : String) : Except (Option TemplateError) Template :=
  let (draft, atEnd) := Draft.ofText text
  match draft.value? depthLimit with
  | none => .error none
  | some v =>
    match Template.ofJson v with
    | .error e => .error (some e)
    | .ok t => if atEnd then .ok t else .error none

end Letterhead
