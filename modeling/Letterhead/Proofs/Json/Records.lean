import Mathlib.Data.List.Forall2
import Mathlib.Data.List.Nodup
import Letterhead.Json.Typed

/-!
# What typed data can be read from

Readers succeed on the values of certain shapes. The shapes are said here without the readers, and
without what is read: a record has a table of names, each with the shape of what may stand under it.

* `SameOutcome` — readings that give the same value, or both fail;
* `IsText`, `IsNatural`, `IsObject`, `IsListOf`, `OrNull` — simple shapes;
* `KeyedFit` — fields that fit the places of their keys, each at most once;
* `NamedFit`, `OrderedFit`, `RecordFits` — records that fit a table, as objects and as arrays;
* `Field.Takes` — a field that reads just the values of a shape;
* `exists_readNamed`, `exists_readOrdered`, `exists_readRecord` — records can be read exactly if
  they fit the table of their fields.
-/

namespace Letterhead.Json

/-! ### Success -/

section Success

variable {ε α β : Type}

theorem not_exists_ok (e : ε) : ¬ ∃ a : α, Except.error e = Except.ok a :=
  fun ⟨_, h⟩ => nomatch h

theorem bind_eq_ok {x : Except ε α} {f : α → Except ε β} {b : β} :
    x.bind f = .ok b ↔ ∃ a, x = .ok a ∧ f a = .ok b := by
  cases x with
  | error e => exact iff_of_false (fun h => nomatch h) fun ⟨_, h, _⟩ => nomatch h
  | ok a =>
    simp only [Except.ok.injEq, exists_eq_left']
    exact Iff.rfl

theorem map_eq_ok {x : Except ε α} {f : α → β} {b : β} :
    x.map f = .ok b ↔ ∃ a, x = .ok a ∧ f a = b := by
  cases x with
  | error e => exact iff_of_false (fun h => nomatch h) fun ⟨_, h, _⟩ => nomatch h
  | ok a =>
    simp only [Except.ok.injEq, exists_eq_left']
    exact ⟨Except.ok.inj, congrArg Except.ok⟩

theorem mapError_eq_ok {δ : Type} {x : Except ε α} {g : ε → δ} {a : α} :
    x.mapError g = .ok a ↔ x = .ok a := by
  cases x with
  | error e => exact iff_of_false (fun h => nomatch h) fun h => nomatch h
  | ok b =>
    show Except.ok b = .ok a ↔ Except.ok b = .ok a
    rw [Except.ok.injEq, Except.ok.injEq]

theorem exists_map_ok {x : Except ε α} {f : α → β} :
    (∃ b, x.map f = .ok b) ↔ ∃ a, x = .ok a := by
  cases x with
  | error e => exact iff_of_false (not_exists_ok _) (not_exists_ok _)
  | ok a => exact ⟨fun _ => ⟨a, rfl⟩, fun _ => ⟨f a, rfl⟩⟩

theorem mapError_map {δ : Type} (x : Except ε α) (f : α → β) (g : ε → δ) :
    (x.map f).mapError g = (x.mapError g).map f := by
  cases x <;> rfl

theorem bind_pure_eq_map (x : Except ε α) (f : α → β) : (do return f (← x)) = x.map f := by
  cases x <;> rfl

theorem exists_mapError_ok {δ : Type} {x : Except ε α} {g : ε → δ} :
    (∃ a, x.mapError g = .ok a) ↔ ∃ a, x = .ok a :=
  exists_congr fun _ => mapError_eq_ok

theorem exists_bind_pure_ok {x : Except ε α} {f : α → β} :
    (∃ b, (do return f (← x)) = Except.ok b) ↔ ∃ a, x = .ok a := by
  rw [bind_pure_eq_map]
  exact exists_map_ok

/-- Two readings come out the same: they give the same value, or both fail, be it for different
reasons. -/
def SameOutcome (x y : Except ε α) : Prop :=
  ∀ a, x = .ok a ↔ y = .ok a

namespace SameOutcome

variable {x y z : Except ε α}

theorem refl (x : Except ε α) : SameOutcome x x :=
  fun _ => Iff.rfl

theorem symm (h : SameOutcome x y) : SameOutcome y x :=
  fun a => (h a).symm

theorem trans (h : SameOutcome x y) (h' : SameOutcome y z) : SameOutcome x z :=
  fun a => (h a).trans (h' a)

theorem of_failures (hx : ¬ ∃ a, x = .ok a) (hy : ¬ ∃ a, y = .ok a) : SameOutcome x y :=
  fun a => iff_of_false (fun h => hx ⟨a, h⟩) fun h => hy ⟨a, h⟩

theorem bind {f g : α → Except ε β} (h : SameOutcome x y) (hf : ∀ a, SameOutcome (f a) (g a)) :
    SameOutcome (x.bind f) (y.bind g) := by
  cases x with
  | ok a =>
    have hy : y = .ok a := (h a).mp rfl
    rw [hy]
    exact hf a
  | error e =>
    cases y with
    | ok b => exact nomatch (h b).mpr rfl
    | error e' => exact of_failures (not_exists_ok e) (not_exists_ok e')

theorem map (h : SameOutcome x y) (f : α → β) : SameOutcome (x.map f) (y.map f) := by
  cases x with
  | ok a =>
    have hy : y = .ok a := (h a).mp rfl
    rw [hy]
    exact refl _
  | error e =>
    cases y with
    | ok b => exact nomatch (h b).mpr rfl
    | error e' => exact of_failures (not_exists_ok e) (not_exists_ok e')

end SameOutcome

/-- A list can be read exactly if each of its items can. -/
theorem exists_mapM_ok {read : α → Except ε β} {items : List α} :
    (∃ values, items.mapM read = .ok values) ↔ ∀ s ∈ items, ∃ b, read s = .ok b := by
  induction items with
  | nil => exact ⟨fun _ => List.forall_mem_nil _, fun _ => ⟨[], rfl⟩⟩
  | cons s rest ih =>
    rw [List.forall_mem_cons, ← ih, List.mapM_cons]
    cases hs : read s with
    | error e => exact iff_of_false (not_exists_ok _) fun h => not_exists_ok _ h.1
    | ok b =>
      rw [and_iff_right ⟨b, rfl⟩]
      exact exists_bind_pure_ok

end Success

/-! ### Simple shapes -/

/-- A text. -/
def IsText (v : Json) : Prop :=
  ∃ s, v = .string s

/-- A natural number below `2 ^ bits`, written without a fraction. -/
def IsNatural (bits : Nat) (v : Json) : Prop :=
  ∃ n : Int, v = .number (.integer n) ∧ 0 ≤ n ∧ n < (Nat.pow 2 bits : Nat)

/-- An object. -/
def IsObject (v : Json) : Prop :=
  ∃ fields, v = .object fields

/-- A value of a shape, or `null`. -/
def OrNull (shape : Json → Prop) (v : Json) : Prop :=
  v = .null ∨ shape v

theorem exists_readText (v : Json) : (∃ s, readText v = .ok s) ↔ IsText v := by
  unfold readText
  cases v with
  | string s => exact ⟨fun _ => ⟨s, rfl⟩, fun _ => ⟨s, rfl⟩⟩
  | null | bool | number | array | object =>
    exact iff_of_false (not_exists_ok _) fun ⟨_, h⟩ => nomatch h

theorem exists_readNatural (bits : Nat) (v : Json) :
    (∃ n, readNatural bits v = .ok n) ↔ IsNatural bits v := by
  unfold readNatural
  cases v with
  | number x =>
    cases x with
    | integer n =>
      dsimp only [Source.view, view]
      by_cases hn : (0 ≤ n && n < (Nat.pow 2 bits : Nat)) = true
      · rw [if_pos hn]
        rw [Bool.and_eq_true, decide_eq_true_eq, decide_eq_true_eq] at hn
        exact ⟨fun _ => ⟨n, rfl, hn⟩, fun _ => ⟨n.toNat, rfl⟩⟩
      · rw [if_neg hn]
        refine iff_of_false (not_exists_ok _) fun ⟨m, hm, hrange⟩ => hn ?_
        cases hm
        rw [Bool.and_eq_true, decide_eq_true_eq, decide_eq_true_eq]
        exact hrange
    | double | single => exact iff_of_false (not_exists_ok _) fun ⟨_, h, _⟩ => nomatch h
  | null | bool | string | array | object =>
    exact iff_of_false (not_exists_ok _) fun ⟨_, h, _⟩ => nomatch h

theorem exists_readOptional {ε α : Type} {read : Json → Except ε α} {shape : Json → Prop}
    (h : ∀ v, (∃ x, read v = .ok x) ↔ shape v) (v : Json) :
    (∃ x, readOptional read v = .ok x) ↔ OrNull shape v := by
  unfold readOptional OrNull
  cases v with
  | null => exact ⟨fun _ => Or.inl rfl, fun _ => ⟨none, rfl⟩⟩
  | bool | number | string | array | object =>
    rw [or_iff_right (by exact Json.noConfusion), ← h]
    exact exists_map_ok

/-- A list of values of a shape. -/
def IsListOf (shape : Json → Prop) (v : Json) : Prop :=
  ∃ items, v = .array items ∧ ∀ s ∈ items, shape s

theorem isListOf_array {shape : Json → Prop} {items : List Json} :
    IsListOf shape (.array items) ↔ ∀ s ∈ items, shape s := by
  refine ⟨fun ⟨_, h, hitems⟩ => ?_, fun hitems => ⟨items, rfl, hitems⟩⟩
  cases h
  exact hitems

theorem exists_readList {ε α : Type} {lift : Mismatch → ε} {read : Json → Except ε α}
    {shape : Json → Prop} (h : ∀ v, (∃ x, read v = .ok x) ↔ shape v) (v : Json) :
    (∃ x, readList lift read v = .ok x) ↔ IsListOf shape v := by
  unfold readList
  cases v with
  | array items =>
    have hitems : (∀ s ∈ items, shape s) ↔ ∃ values, items.mapM read = .ok values := by
      rw [exists_mapM_ok]
      exact forall₂_congr fun s _ => (h s).symm
    rw [isListOf_array, hitems]
    exact exists_bind_pure_ok
  | null | bool | number | string | object =>
    exact iff_of_false (not_exists_ok _) fun ⟨_, h, _⟩ => nomatch h

/-! ### Fields under keys -/

section Keyed

variable {κ σ : Type} {place? : String → Option κ} {shape : κ → σ → Prop}

/-- The places that fields take, as often as they take them, if their keys have any. -/
def takenPlaces (place? : String → Option κ) (given : List (String × σ)) : List κ :=
  given.filterMap fun f => place? f.1

/-- Fields that take no place twice, and each of which has the shape of its place. Fields whose keys
have no place are free. -/
structure KeyedFit (place? : String → Option κ) (shape : κ → σ → Prop)
    (given : List (String × σ)) : Prop where
  once : (takenPlaces place? given).Nodup
  fits : ∀ f ∈ given, ∀ k, place? f.1 = some k → shape k f.2

theorem keyedFit_nil : KeyedFit place? shape [] :=
  ⟨List.nodup_nil, List.forall_mem_nil _⟩

/-- Fields without places fit. -/
theorem keyedFit_of_free {given : List (String × σ)} (h : ∀ key, place? key = none) :
    KeyedFit place? shape given := by
  constructor
  · rw [takenPlaces, List.filterMap_eq_nil_iff.mpr fun f _ => h f.1]
    exact List.nodup_nil
  · intro f _ k hk
    rw [h] at hk
    cases hk

/-- Fewer fields fit where all do. -/
theorem KeyedFit.of_sublist {given fewer : List (String × σ)} (h : KeyedFit place? shape given)
    (hsub : fewer.Sublist given) : KeyedFit place? shape fewer where
  once := h.once.sublist (hsub.filterMap _)
  fits f hf := h.fits f (hsub.subset hf)

section Free

variable {key : String} (h : place? key = none)

include h

theorem takenPlaces_cons_none (s : σ) (rest : List (String × σ)) :
    takenPlaces place? ((key, s) :: rest) = takenPlaces place? rest :=
  List.filterMap_cons_none h

theorem keyedFit_cons_none {s : σ} {rest : List (String × σ)} :
    KeyedFit place? shape ((key, s) :: rest) ↔ KeyedFit place? shape rest := by
  constructor
  · rintro ⟨honce, hfits⟩
    rw [takenPlaces_cons_none h] at honce
    exact ⟨honce, fun f hf => hfits f (List.mem_cons_of_mem _ hf)⟩
  · rintro ⟨honce, hfits⟩
    refine ⟨?_, List.forall_mem_cons.mpr ⟨fun k hk => ?_, hfits⟩⟩
    · rw [takenPlaces_cons_none h]
      exact honce
    · rw [h] at hk
      cases hk

end Free

section Placed

variable {key : String} {k : κ} (h : place? key = some k)

include h

theorem takenPlaces_cons_some (s : σ) (rest : List (String × σ)) :
    takenPlaces place? ((key, s) :: rest) = k :: takenPlaces place? rest :=
  List.filterMap_cons_some h

theorem keyedFit_cons_some {s : σ} {rest : List (String × σ)} :
    KeyedFit place? shape ((key, s) :: rest) ↔
      k ∉ takenPlaces place? rest ∧ shape k s ∧ KeyedFit place? shape rest := by
  constructor
  · rintro ⟨honce, hfits⟩
    rw [takenPlaces_cons_some h, List.nodup_cons] at honce
    rw [List.forall_mem_cons] at hfits
    exact ⟨honce.1, hfits.1 k h, honce.2, hfits.2⟩
  · rintro ⟨hk, hs, honce, hfits⟩
    refine ⟨?_, List.forall_mem_cons.mpr ⟨fun k' hk' => ?_, hfits⟩⟩
    · rw [takenPlaces_cons_some h, List.nodup_cons]
      exact ⟨hk, honce⟩
    · rw [h, Option.some.injEq] at hk'
      rwa [← hk']

end Placed

end Keyed

/-! ### Records -/

/-- The names of a record with the shapes of what may stand under them. -/
abbrev Table (σ : Type) := List (String × (σ → Prop))

section Records

variable {σ ε α : Type}

/-- The name of a table that a key is, if it is one. -/
def Table.name? (table : Table σ) (key : String) : Option String :=
  (table.lookup key).map fun _ => key

/-- Fields that fit a table: no name of the table is given twice, and what stands under each has its
shape. -/
def NamedFit (table : Table σ) (given : List (String × σ)) : Prop :=
  KeyedFit table.name? (fun name s => ∀ shape, table.lookup name = some shape → shape s) given

/-- Items that fit a table in order, up to any of its names. -/
def OrderedFit : Table σ → List σ → Prop
  | _, [] => True
  | [], _ :: _ => False
  | (_, shape) :: table, s :: rest => shape s ∧ OrderedFit table rest

/-- A field with the name of a table's entry, which reads just the values of its shape, whatever was
read before. -/
structure Field.Takes (field : Field σ ε α) (entry : String × (σ → Prop)) : Prop where
  name : field.name = entry.1
  read : ∀ s r, (∃ r', field.read s r = .ok r') ↔ entry.2 s

variable {fields : List (Field σ ε α)} {table : Table σ}

/-- A key names a field exactly if the table has it, and then the field takes the table's shape. -/
theorem find?_of_takes (h : List.Forall₂ Field.Takes fields table) (key : String) :
    fields.find? (·.name == key) = none ∧ table.lookup key = none ∨
      ∃ field shape, fields.find? (·.name == key) = some field ∧ table.lookup key = some shape ∧
        field.Takes (key, shape) := by
  induction h with
  | nil => exact Or.inl ⟨rfl, rfl⟩
  | @cons field entry fields table hfield _ ih =>
    obtain ⟨name, shape⟩ := entry
    have hname : field.name = name := hfield.name
    rw [List.find?_cons, List.lookup_cons, hname]
    by_cases hkey : name = key
    · subst hkey
      exact Or.inr ⟨field, shape, by simp, by simp, hfield⟩
    · have hkey' : (key == name) = false := beq_false_of_ne (Ne.symm hkey)
      rw [beq_false_of_ne hkey, hkey']
      exact ih

/-- The fields of an object can be read exactly if they fit the table and give no name that was
seen before. -/
theorem exists_readNamed {lift : Mismatch → ε} (h : List.Forall₂ Field.Takes fields table)
    (given : List (String × σ)) (seen : List String) (r : α) :
    (∃ r', readNamed lift fields seen r given = .ok r') ↔
      NamedFit table given ∧ ∀ name ∈ takenPlaces table.name? given, name ∉ seen := by
  unfold NamedFit
  induction given generalizing seen r with
  | nil => exact ⟨fun _ => ⟨keyedFit_nil, List.forall_mem_nil _⟩, fun _ => ⟨r, rfl⟩⟩
  | cons f rest ih =>
    obtain ⟨key, s⟩ := f
    unfold readNamed
    rcases find?_of_takes h key with ⟨hfind, hlookup⟩ | ⟨field, shape, hfind, hlookup, htakes⟩
    · have hname : table.name? key = none := by rw [Table.name?, hlookup, Option.map_none]
      rw [hfind, keyedFit_cons_none hname, takenPlaces_cons_none hname]
      exact ih seen r
    · have hname : table.name? key = some key := by rw [Table.name?, hlookup, Option.map_some]
      have hshape : (∀ shape, table.lookup key = some shape → shape s) ↔ shape s := by
        rw [hlookup]
        exact ⟨fun h => h shape rfl, fun hs _ h => by rwa [← Option.some.inj h]⟩
      rw [hfind, keyedFit_cons_some hname, takenPlaces_cons_some hname, List.forall_mem_cons,
        hshape]
      dsimp only
      by_cases hseen : key ∈ seen
      · rw [if_pos (List.contains_iff_mem.mpr hseen)]
        exact iff_of_false (not_exists_ok _) fun ⟨_, hnew, _⟩ => hnew hseen
      · rw [if_neg fun hcontains => hseen (List.contains_iff_mem.mp hcontains)]
        have hread := htakes.read s r
        cases hr : field.read s r with
        | error e =>
          rw [hr] at hread
          exact iff_of_false (not_exists_ok _) fun ⟨⟨_, hs, _⟩, _⟩ => not_exists_ok _ (hread.mpr hs)
        | ok r' =>
          rw [hr] at hread
          have hs : shape s := hread.mp ⟨r', rfl⟩
          dsimp only
          rw [ih (key :: seen) r']
          -- what was seen now is the key too, which the rest may not give again
          simp only [List.mem_cons, not_or, forall_and, hs, hseen, not_false_eq_true, true_and]
          constructor
          · rintro ⟨hfit, hkey, hnew⟩
            exact ⟨⟨fun hmem => hkey key hmem rfl, hfit⟩, hnew⟩
          · rintro ⟨⟨hkey, hfit⟩, hnew⟩
            exact ⟨hfit, fun name hmem heq => hkey (heq ▸ hmem), hnew⟩

/-- The items of an array can be read exactly if they fit the table in order. -/
theorem exists_readOrdered (h : List.Forall₂ Field.Takes fields table) (items : List σ) (r : α) :
    (∃ r', readOrdered r fields items = .ok (r', [])) ↔ OrderedFit table items := by
  induction h generalizing items r with
  | nil =>
    cases items with
    | nil => exact ⟨fun _ => trivial, fun _ => ⟨r, rfl⟩⟩
    | cons s rest => exact iff_of_false (fun ⟨_, h⟩ => nomatch h) fun h => h
  | @cons field entry fields table htakes _ ih =>
    cases items with
    | nil => exact ⟨fun _ => trivial, fun _ => ⟨r, rfl⟩⟩
    | cons s rest =>
      obtain ⟨name, shape⟩ := entry
      have hread := htakes.read s r
      unfold readOrdered OrderedFit
      cases hr : field.read s r with
      | error e =>
        rw [hr] at hread
        exact iff_of_false (fun ⟨_, h⟩ => nomatch h) fun ⟨hs, _⟩ => not_exists_ok _ (hread.mpr hs)
      | ok r' =>
        rw [hr] at hread
        rw [and_iff_right (hread.mp ⟨r', rfl⟩)]
        exact ih rest r'

end Records

/-- Values that fit a table: objects of fields that fit it, or arrays of items that do in order. -/
inductive RecordFits (table : Table Json) : Json → Prop
  | object {given : Fields} (h : NamedFit table given) : RecordFits table (.object given)
  | array {items : List Json} (h : OrderedFit table items) : RecordFits table (.array items)

/-- **Records** can be read exactly if they fit the table of their fields. -/
theorem exists_readRecord {ε α : Type} {lift : Mismatch → ε} {name : String}
    {fields : List (Field Json ε α)} {table : Table Json}
    (h : List.Forall₂ Field.Takes fields table) (empty : α) (v : Json) :
    (∃ r, readRecord lift name fields empty v = .ok r) ↔ RecordFits table v := by
  unfold readRecord
  cases v with
  | object given =>
    have hfits : RecordFits table (.object given) ↔ NamedFit table given :=
      ⟨fun h => by cases h; assumption, .object⟩
    have hnew : ∀ name ∈ takenPlaces table.name? given, name ∉ [] :=
      fun _ _ => List.not_mem_nil
    have hnamed : (∃ r, readNamed lift fields [] empty given = .ok r) ↔ NamedFit table given := by
      rw [exists_readNamed h given [] empty, and_iff_left hnew]
    rw [hfits, ← hnamed]
    exact exists_bind_pure_ok
  | array items =>
    have hfits : RecordFits table (.array items) ↔ OrderedFit table items :=
      ⟨fun h => by cases h; assumption, .array⟩
    rw [hfits, ← exists_readOrdered h items empty]
    dsimp only [Source.view, view]
    cases readOrdered empty fields items with
    | error e => exact iff_of_false (not_exists_ok _) fun ⟨_, h⟩ => nomatch h
    | ok result =>
      obtain ⟨r, rest⟩ := result
      cases rest with
      | nil => exact ⟨fun _ => ⟨r, rfl⟩, fun _ => ⟨r, rfl⟩⟩
      | cons s rest => exact iff_of_false (not_exists_ok _) fun ⟨_, h⟩ => nomatch h
  | null | bool | number | string =>
    exact iff_of_false (not_exists_ok _) fun h => nomatch h

end Letterhead.Json
