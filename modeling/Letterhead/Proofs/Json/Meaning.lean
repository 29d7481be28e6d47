import Letterhead.Proofs.Json.Numbers

/-!
# What a JSON text says

Two texts say the same if they are the same up to blanks, the spelling of numbers and the order of
fields. What a value says is therefore a tree in which a number is a rational number and an object is
what stands under each key; of several fields under one key the last counts. A floating-point number
that is not finite is written as `null`, and so it says nothing.

* `Json.Meaning`, `Json.meaning` — what a value says;
* `fieldMeaning_append` — what stands under a key of some fields after others;
* `beq_of_meaning_eq` — finite numbers of the 32-bit format that say the same are equal.
-/

namespace Letterhead

namespace Json

/-- What a value says. -/
inductive Meaning where
  | null
  | bool (b : Bool)
  | number (q : ℚ)
  | string (s : String)
  | array (items : List Meaning)
  | object (fields : String → Option Meaning)

/-- What a number says. -/
def numberMeaning (n : Number) : Meaning :=
  match numberValue? n.text.toList with
  | some q => .number q
  | none => .null

mutual

/-- What a value says. -/
def meaning : Json → Meaning
  | .null => .null
  | .bool b => .bool b
  | .number n => numberMeaning n
  | .string s => .string s
  | .array items => .array (meanings items)
  | .object fields => .object (fieldMeaning fields)

/-- Item by item. -/
def meanings : List Json → List Meaning
  | [] => []
  | v :: rest => v.meaning :: meanings rest

/-- What stands under a key. -/
def fieldMeaning : Fields → String → Option Meaning
  | [], _ => none
  | (k, v) :: rest, key =>
    (fieldMeaning rest key).or (if key = k then some v.meaning else none)

end

@[simp] theorem meaning_bool (b : Bool) : (Json.bool b).meaning = .bool b := by
  rw [meaning]

@[simp] theorem meaning_string (s : String) : (Json.string s).meaning = .string s := by
  rw [meaning]

@[simp] theorem meaning_array (items : List Json) :
    (Json.array items).meaning = .array (meanings items) := by
  rw [meaning]

theorem meanings_eq_map (items : List Json) : meanings items = items.map meaning := by
  induction items with
  | nil => rfl
  | cons v rest ih => rw [meanings, ih, List.map_cons]

section Fields

variable {key name : String} {v : Json} {fields more : Fields}

@[simp] theorem fieldMeaning_nil : fieldMeaning [] key = none := rfl

@[simp] theorem fieldMeaning_cons :
    fieldMeaning ((name, v) :: fields) key =
      (fieldMeaning fields key).or (if key = name then some v.meaning else none) := rfl

/-- Fields after others count before them. -/
@[simp] theorem fieldMeaning_append :
    fieldMeaning (fields ++ more) key = (fieldMeaning more key).or (fieldMeaning fields key) := by
  induction fields with
  | nil => rw [List.nil_append, fieldMeaning, Option.or_none]
  | cons f rest ih =>
    obtain ⟨k, v⟩ := f
    rw [List.cons_append, fieldMeaning, fieldMeaning, ih, Option.or_assoc]

end Fields

/-! ### Numbers -/

/-- A finite number says what its text reads as. -/
theorem exists_meaning_single {x : Float32} (h : x.isFinite = true) :
    ∃ q, numberValue? (singleText x).toList = some q ∧
      (Json.number (.single x)).meaning = .number q := by
  obtain ⟨s, e, f, -, hvalue⟩ := exists_numberValue? h
  refine ⟨_, hvalue, ?_⟩
  change (match numberValue? (singleText x).toList with
    | some q => Meaning.number q
    | none => .null) = _
  rw [hvalue]

/-- Numbers whose texts read alike say the same. -/
theorem meaning_single_congr {x y : Float32}
    (h : numberValue? (singleText x).toList = numberValue? (singleText y).toList) :
    (Json.number (.single x)).meaning = (Json.number (.single y)).meaning := by
  change (match numberValue? (singleText x).toList with
    | some q => Meaning.number q
    | none => .null) = _
  rw [h]
  rfl

/-- **Finite numbers that say the same are equal.** -/
theorem beq_of_meaning_eq {x y : Float32} (hx : x.isFinite = true) (hy : y.isFinite = true)
    (h : (Json.number (.single x)).meaning = (Json.number (.single y)).meaning) :
    (x == y) = true := by
  obtain ⟨p, hp, hmeaning⟩ := exists_meaning_single hx
  obtain ⟨q, hq, hmeaning'⟩ := exists_meaning_single hy
  rw [hmeaning, hmeaning', Meaning.number.injEq] at h
  exact beq_of_numberValue?_eq hx hy (by rw [hp, hq, h])

end Json

end Letterhead
