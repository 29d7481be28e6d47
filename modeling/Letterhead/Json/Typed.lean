import Letterhead.Json.Draft
import Letterhead.Json.Printer
import Letterhead.Text.Quoted

/-!
# Reading typed data from JSON

Data of a known shape is read either from a value or from a text that is still being read. The two
sources differ in the order of fields, in what a repeated field means and in where an error of
syntax comes in; `Source` is what they have in common, and the readers here work on any source.

* `Mismatch` — why JSON does not have the shape that was expected, with `Mismatch.message`;
* `readText`, `readReal`, `readCount`, `readOptional`, `readList` — readers of simple shapes;
* `readRecord` — the reader of records, which are objects, or arrays of their fields in order.
-/

namespace Letterhead.Json

/-! ### What can be wrong -/

/-- What was found, as messages name it. -/
inductive Found where
  | null
  | bool (b : Bool)
  | integer (n : Int)
  | float (x : Float)
  | text (s : String)
  | sequence
  | map

/-- What was expected, as messages name it. -/
inductive Expected where
  | text
  | sequence
  | map
  | real
  /-- An integer below `2 ^ bits`. -/
  | natural (bits : Nat)
  | record (name : String)
  | tagged (name : String)
  | tag

/-- Why JSON does not have the expected shape. -/
inductive Mismatch where
  | wrongType (found : Found) (expected : Expected)
  | outOfRange (n : Int) (expected : Expected)
  /-- An array of this length has more items than the record has fields. -/
  | surplusItems (length : Nat)
  /-- A tag stands in an array with this many items after it. -/
  | surplusContent (length : Nat)
  | repeated (field : String)
  | absent (field : String)
  /-- The text stops being JSON before a mismatch could be found. -/
  | notJson

/-- The name of what was found. -/
def Found.describe : Found → String
  | .null => "null"
  | .bool true => "boolean `true`"
  | .bool false => "boolean `false`"
  | .integer n => "integer `" ++ toString n ++ "`"
  | .float x => "floating point `" ++ doubleText x ++ "`"
  | .text s => "string " ++ Text.quoted s
  | .sequence => "sequence"
  | .map => "map"

/-- The name of what was expected. -/
def Expected.describe : Expected → String
  | .text => "a string"
  | .sequence => "a sequence"
  | .map => "a map"
  | .real => "f64"
  | .natural bits => "u" ++ toString bits
  | .record name => "struct " ++ name
  | .tagged name => "internally tagged enum " ++ name
  | .tag => "variant identifier"

/-- The message of a mismatch. -/
def Mismatch.message : Mismatch → String
  | .wrongType found expected =>
    "invalid type: " ++ found.describe ++ ", expected " ++ expected.describe
  | .outOfRange n expected =>
    "invalid value: integer `" ++ toString n ++ "`, expected " ++ expected.describe
  | .surplusItems n => "invalid length " ++ toString n ++ ", expected fewer elements in array"
  | .surplusContent n => "invalid length " ++ toString n ++ ", expected 0 elements in sequence"
  | .repeated field => "duplicate field `" ++ field ++ "`"
  | .absent field => "missing field `" ++ field ++ "`"
  | .notJson => "not JSON"

/-! ### Sources -/

/-- A source seen one level deep. -/
inductive View (σ : Type) where
  | null
  | bool (b : Bool)
  | number (n : Number)
  | text (s : String)
  /-- Items; `whole` if the array is JSON up to its end. -/
  | array (items : List σ) (whole : Bool)
  /-- Fields, likewise. -/
  | object (fields : List (String × σ)) (whole : Bool)
  | notJson

/-- What typed data can be read from. -/
class Source (σ : Type) where
  view : σ → View σ
  /-- The whole value, if there is one. -/
  value? : σ → Option Json
  /-- What is wrong with an array of the given length that has more items than expected. -/
  surplus : Nat → Mismatch

/-- A value seen one level deep. -/
def view : Json → View Json
  | .null => .null
  | .bool b => .bool b
  | .number n => .number n
  | .string s => .text s
  | .array items => .array items true
  | .object fields => .object fields true

instance : Source Json where
  view := view
  value? := some
  surplus := .surplusItems

/-- The fields up to the first whose key is no text, and whether all are among them. -/
def Draft.namedFields : List (Option String × Draft) → List (String × Draft) × Bool
  | [] => ([], true)
  | (none, _) :: _ => ([], false)
  | (some key, d) :: rest =>
    let (named, all) := namedFields rest
    ((key, d) :: named, all)

/-- A draft seen one level deep. -/
def Draft.view : Draft → View Draft
  | .broken => .notJson
  | .null => .null
  | .bool b => .bool b
  | .number (some n) => .number n
  | .number none => .notJson
  | .string (some s) => .text s
  | .string none => .notJson
  | .array items whole => .array items whole
  | .object fields whole =>
    let (named, all) := namedFields fields
    .object named (whole && all)

/-- How deep containers may nest in a text. -/
def depthLimit : Nat := 127

/-- A draft is read as part of a text in which it stands two containers deep. -/
instance : Source Draft where
  view := Draft.view
  value? := Draft.value? (depthLimit - 2)
  surplus _ := .notJson

/-! ### Simple shapes -/

variable {σ : Type}

/-- The mismatch of a view with what was expected instead. -/
def View.mismatch (v : View σ) (expected : Expected) : Mismatch :=
  match v with
  | .null => .wrongType .null expected
  | .bool b => .wrongType (.bool b) expected
  | .number (.integer n) => .wrongType (.integer n) expected
  | .number (.double x) => .wrongType (.float x) expected
  | .number (.single x) => .wrongType (.float x.toFloat) expected
  | .text s => .wrongType (.text s) expected
  | .array .. => .wrongType .sequence expected
  | .object .. => .wrongType .map expected
  | .notJson => .notJson

/-- A text. -/
def readText [Source σ] (s : σ) : Except Mismatch String :=
  match Source.view s with
  | .text t => .ok t
  | v => .error (v.mismatch .text)

/-- A number; an integer is taken for the nearest floating-point number. -/
def readReal [Source σ] (s : σ) : Except Mismatch Float :=
  match Source.view s with
  | .number (.integer n) => .ok (Float.ofInt n)
  | .number (.double x) => .ok x
  | .number (.single x) => .ok x.toFloat
  | v => .error (v.mismatch .real)

/-- A natural number below `2 ^ bits`. A number written with a fraction is none, whatever its
value. -/
def readNatural [Source σ] (bits : Nat) (s : σ) : Except Mismatch Nat :=
  match Source.view s with
  | .number (.integer n) =>
    if 0 ≤ n && n < (Nat.pow 2 bits : Nat) then .ok n.toNat else .error (.outOfRange n (.natural bits))
  | v => .error (v.mismatch (.natural bits))

/-- Nothing for `null`, otherwise what the reader reads. -/
def readOptional [Source σ] {ε α : Type} (read : σ → Except ε α) (s : σ) :
    Except ε (Option α) :=
  match Source.view s with
  | .null => .ok none
  | _ => (read s).map some

/-- A list of what the reader reads. -/
def readList [Source σ] {ε α : Type} (lift : Mismatch → ε) (read : σ → Except ε α) (s : σ) :
    Except ε (List α) :=
  match Source.view s with
  | .array items whole => do
    let values ← items.mapM read
    if whole then .ok values else .error (lift .notJson)
  | v => .error (lift (v.mismatch .sequence))

/-! ### Records -/

/-- A field of a record: its name, and how it is read and stored. -/
structure Field (σ ε α : Type) where
  name : String
  read : σ → α → Except ε α

variable {ε α : Type}

/-- Reads the fields of an object one by one into a record. Fields of other names are passed over;
one that was read before is an error. -/
def readNamed (lift : Mismatch → ε) (fields : List (Field σ ε α)) (seen : List String)
    (record : α) : List (String × σ) → Except ε α
  | [] => .ok record
  | (key, s) :: rest =>
    match fields.find? (·.name == key) with
    | none => readNamed lift fields seen record rest
    | some field =>
      if seen.contains key then .error (lift (.repeated key))
      else
        match field.read s record with
        | .ok record => readNamed lift fields (key :: seen) record rest
        | .error e => .error e

/-- Reads the items of an array into the fields of a record, in order. Gives the items left over
too. -/
def readOrdered (record : α) : List (Field σ ε α) → List σ → Except ε (α × List σ)
  | field :: fields, s :: rest =>
    match field.read s record with
    | .ok record => readOrdered record fields rest
    | .error e => .error e
  | _, rest => .ok (record, rest)

/-- Reads a record, given with its name, its fields and its content when no field is given. -/
def readRecord [Source σ] (lift : Mismatch → ε) (name : String) (fields : List (Field σ ε α))
    (empty : α) (s : σ) : Except ε α :=
  match Source.view s with
  | .object given whole => do
    let record ← readNamed lift fields [] empty given
    if whole then .ok record else .error (lift .notJson)
  | .array items whole => do
    let (record, rest) ← readOrdered empty fields items
    if !rest.isEmpty then .error (lift (Source.surplus σ items.length))
    else if whole then .ok record
    else .error (lift .notJson)
  | v => .error (lift (v.mismatch (.record name)))

end Letterhead.Json
