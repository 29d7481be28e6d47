import Letterhead.Json.Token

/-!
# A JSON text as far as it can be read

A reader that knows what it expects meets a wrong value before it meets an error of syntax further
on, and must report the first of the two. So a text is read into a `Draft`: the tree of what stands
there up to the place where it stops being JSON, fields in the order of the text and repeated ones
kept.

* `Draft.ofTokens` — the draft that begins a token list, and what follows it;
* `Draft.value?` — the value of a draft that is whole and nested at most so deep;
* `Json.ofText?` — the value a text holds.
-/

namespace Letterhead.Json

/-- A JSON text as far as it can be read. -/
inductive Draft where
  /-- Where a value is due, the text is not JSON. -/
  | broken
  | null
  | bool (b : Bool)
  /-- A number, unless no floating-point number can hold it. -/
  | number (n : Option Number)
  /-- A string, unless it holds half a surrogate pair. -/
  | string (s : Option String)
  /-- The items of an array; `whole` if the text is JSON up to the closing bracket. -/
  | array (items : List Draft) (whole : Bool)
  /-- The fields of an object, likewise. -/
  | object (fields : List (Option String × Draft)) (whole : Bool)

namespace Draft

/-! ### Building -/

/-- A container that is open, with its contents, last first. -/
inductive Frame where
  | array (items : List Draft)
  | object (fields : List (Option String × Draft))
  /-- An object in which a value is due under the key. -/
  | field (key : Option String) (fields : List (Option String × Draft))

/-- What may come next. -/
inductive Due where
  | value
  /-- A value, or the end of an array that has none yet. -/
  | valueOrEnd
  | key
  /-- A key, or the end of an object that has none yet. -/
  | keyOrEnd
  | colon
  /-- A comma or the end of the container. -/
  | commaOrEnd

/-- The draft around an item at which the text stops being JSON, container by container. -/
def abandon (inner : Option Draft) : List Frame → Draft
  | [] => inner.getD .broken
  | .array items :: outer =>
    abandon (some (.array (inner.toList ++ items).reverse false)) outer
  | .object fields :: outer => abandon (some (.object fields.reverse false)) outer
  | .field key fields :: outer =>
    abandon (some (.object ((key, inner.getD .broken) :: fields).reverse false)) outer

/-- The innermost container with a value put into it. -/
def Frame.put (v : Draft) : Frame → Frame
  | .array items => .array (v :: items)
  | .object fields => .object fields
  | .field key fields => .object ((key, v) :: fields)

/-- The draft that begins a token list inside the open containers `frames`, with what follows the
outermost value. -/
def build (frames : List Frame) (due : Due) : List Token → Draft × List Token
  | [] => (abandon none frames, [])
  | t :: rest =>
    let deliver (v : Draft) (frames : List Frame) : Draft × List Token :=
      match frames with
      | [] => (v, rest)
      | f :: outer => build (f.put v :: outer) .commaOrEnd rest
    match due, t, frames with
    | .valueOrEnd, .closeArray, .array items :: outer => deliver (.array items.reverse true) outer
    | .commaOrEnd, .closeArray, .array items :: outer => deliver (.array items.reverse true) outer
    | .keyOrEnd, .closeObject, .object fields :: outer =>
      deliver (.object fields.reverse true) outer
    | .commaOrEnd, .closeObject, .object fields :: outer =>
      deliver (.object fields.reverse true) outer
    | .commaOrEnd, .comma, .array items :: outer => build (.array items :: outer) .value rest
    | .commaOrEnd, .comma, .object fields :: outer => build (.object fields :: outer) .key rest
    | .key, .string k, .object fields :: outer => build (.field k fields :: outer) .colon rest
    | .keyOrEnd, .string k, .object fields :: outer => build (.field k fields :: outer) .colon rest
    | .colon, .colon, frames => build frames .value rest
    | .value, t, frames | .valueOrEnd, t, frames =>
      match t with
      | .null => deliver .null frames
      | .bool b => deliver (.bool b) frames
      | .number n => deliver (.number n) frames
      | .string s => deliver (.string s) frames
      | .openArray => build (.array [] :: frames) .valueOrEnd rest
      | .openObject => build (.object [] :: frames) .keyOrEnd rest
      | _ => (abandon none frames, .invalid :: rest)
    | _, _, frames => (abandon none frames, .invalid :: rest)

/-- The draft that begins a token list, with what follows it. -/
def ofTokens (ts : List Token) : Draft × List Token :=
  build [] .value ts

/-- The draft that begins a text, and whether nothing but blanks follows it. -/
def ofText (text : String) : Draft × Bool :=
  let (d, rest) := ofTokens (tokens text.toList)
  (d, rest.isEmpty)

/-! ### Values -/

mutual

/-- The value of a draft, if it is whole, every number and string in it has a value, and its
containers nest at most `depth` deep. -/
def value? (depth : Nat) : Draft → Option Json
  | .broken => none
  | .null => some .null
  | .bool b => some (.bool b)
  | .number n => n.map .number
  | .string s => s.map .string
  | .array items whole =>
    if depth = 0 || !whole then none else (values? (depth - 1) items).map .array
  | .object fields whole =>
    if depth = 0 || !whole then none
    else (fieldValues? (depth - 1) fields).map fun fs => .object (sortFields fs)

/-- The values of items. -/
def values? (depth : Nat) : List Draft → Option (List Json)
  | [] => some []
  | d :: rest => do return (← d.value? depth) :: (← values? depth rest)

/-- The fields with their values, in the order of the text. -/
def fieldValues? (depth : Nat) : List (Option String × Draft) → Option Fields
  | [] => some []
  | (key, d) :: rest => do return (← key, ← d.value? depth) :: (← fieldValues? depth rest)

end

end Draft

/-- The value that a text holds, nested at most `depth` deep. -/
def ofText? (depth : Nat) (text : String) : Option Json :=
  match Draft.ofText text with
  | (d, true) => d.value? depth
  | (_, false) => none

end Letterhead.Json
