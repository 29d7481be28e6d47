/-!
# JSON values

A value is a tree. An object is a list of fields: values that were read keep their keys strictly
ascending and so at most once, values that are written keep the order they were built in.

* `Json`, `Number` — the values;
* `insertField`, `sortFields` — fields by ascending key, the last value given for a key staying;
* `Json.field?` — the value under a key.
-/

namespace Letterhead

/-- A JSON number. Integers within 64 bits stay exact, others are 64-bit floating-point numbers;
the sizes in a render tree are 32-bit ones. -/
inductive Number where
  | integer (n : Int)
  | double (x : Float)
  | single (x : Float32)

/-- A JSON value. -/
inductive Json where
  | null
  | bool (b : Bool)
  | number (n : Number)
  | string (s : String)
  | array (items : List Json)
  | object (fields : List (String × Json))

instance : Inhabited Json := ⟨.null⟩

/-- The fields of an object. -/
abbrev Fields := List (String × Json)

/-! ### Equality -/

/-- Numbers are equal as numbers of one kind: an integer is not a floating-point number, and zero
equals minus zero. -/
def Number.same : Number → Number → Bool
  | .integer m, .integer n => m == n
  | .double x, .double y => x == y
  | .single x, .single y => x == y
  | _, _ => false

mutual

/-- Whether two values are the same, numbers being compared by `Number.same`. -/
def Json.same : Json → Json → Bool
  | .null, .null => true
  | .bool a, .bool b => a == b
  | .number m, .number n => m.same n
  | .string s, .string t => s == t
  | .array xs, .array ys => sameItems xs ys
  | .object fs, .object gs => sameFields fs gs
  | _, _ => false

/-- Item by item. -/
def sameItems : List Json → List Json → Bool
  | [], [] => true
  | x :: xs, y :: ys => x.same y && sameItems xs ys
  | _, _ => false

/-- Field by field. -/
def sameFields : Fields → Fields → Bool
  | [], [] => true
  | (k, v) :: fs, (l, w) :: gs => k == l && v.same w && sameFields fs gs
  | _, _ => false

end

/-! ### Fields -/

/-- Fields in ascending order with one more, which replaces the one under its key. -/
def insertField (key : String) (value : Json) : Fields → Fields
  | [] => [(key, value)]
  | (k, v) :: rest =>
    if key < k then (key, value) :: (k, v) :: rest
    else if key = k then (key, value) :: rest
    else (k, v) :: insertField key value rest

/-- The fields by ascending key; of several under one key, the last. -/
def sortFields (fields : Fields) : Fields :=
  fields.foldl (fun sorted f => insertField f.1 f.2 sorted) []

/-- The value under a key. -/
def field? (key : String) (fields : Fields) : Option Json :=
  fields.lookup key

section

variable {key name : String} {v : Json} {fields more : Fields}

@[simp] theorem field?_nil : field? key [] = none := rfl

@[simp] theorem field?_cons :
    field? key ((name, v) :: fields) = if key = name then some v else field? key fields := by
  unfold field?
  rw [List.lookup_cons]
  by_cases h : key = name
  · rw [if_pos h, h, beq_self_eq_true]
  · rw [if_neg h, beq_eq_false_iff_ne.mpr h]

@[simp] theorem field?_append :
    field? key (fields ++ more) = (field? key fields).or (field? key more) :=
  List.lookup_append

theorem mem_of_field? (h : field? key fields = some v) : (key, v) ∈ fields := by
  obtain ⟨before, after, rfl, -⟩ := List.lookup_eq_some_iff.mp h
  exact List.mem_append_right _ List.mem_cons_self

end

/-- The value under a key of an object. -/
def Json.field? (key : String) : Json → Option Json
  | .object fields => Letterhead.field? key fields
  | _ => none

/-- The text, if the value is one. -/
def Json.text? : Json → Option String
  | .string s => some s
  | _ => none

end Letterhead
