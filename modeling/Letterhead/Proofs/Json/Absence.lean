import Mathlib.Data.List.Pairwise
import Letterhead.Proofs.Json.Records

/-!
# Null for a missing value

A field stores what it reads, and most fields store nothing for `null`: the record rests. As fields
are stored apart from each other, it makes no difference then what else was read before, and the
object might as well not have the field.

* `storedField` — a field that stores what it reads;
* `Field.Steady`, `Field.Apart` — fields that succeed whatever is stored already, and fields that
  can be read in either order;
* `exists_readRecord_remove` — an object that can be read can be read with a field less;
* `readNamed_null` — a field that holds `null`, on which the record rests, is no field;
* `ReadsPart` — a reader that reads of a part of its value no more than another reader does, with
  the parts that records and lists have.
-/

namespace Letterhead.Json

variable {ε α β γ : Type}

/-! ### Fields -/

/-- A field that stores what it reads. -/
def storedField (name : String) (read : Json → Except ε β) (store : β → α → α) :
    Field Json ε α where
  name := name
  read s r := (read s).map (store · r)

/-- Whether a field can be read does not depend on the record. -/
def Field.Steady (field : Field Json ε α) : Prop :=
  ∀ s r r', (∃ a, field.read s r = .ok a) → ∃ a, field.read s r' = .ok a

/-- Two fields can be read in either order. -/
def Field.Apart (f g : Field Json ε α) : Prop :=
  ∀ s t r, SameOutcome ((f.read s r).bind (g.read t)) ((g.read t r).bind (f.read s))

instance : Std.Symm (@Field.Apart ε α) where
  symm _ _ h s t r := (h t s r).symm

theorem storedField_steady (name : String) (read : Json → Except ε β) (store : β → α → α) :
    (storedField name read store).Steady := by
  intro s r r' h
  exact exists_map_ok.mpr (exists_map_ok.mp h)

/-- Fields are apart that are stored in different places. -/
theorem storedField_apart {name name' : String} {read : Json → Except ε β}
    {read' : Json → Except ε γ} {store : β → α → α} {store' : γ → α → α}
    (h : ∀ b c r, store' c (store b r) = store b (store' c r)) :
    (storedField name read store).Apart (storedField name' read' store') := by
  intro s t r
  show SameOutcome (((read s).map (store · r)).bind fun r' => (read' t).map (store' · r'))
    (((read' t).map (store' · r)).bind fun r' => (read s).map (store · r'))
  cases read s with
  | error e =>
    cases read' t <;> exact .of_failures (not_exists_ok _) (not_exists_ok _)
  | ok b =>
    cases read' t with
    | error e => exact .of_failures (not_exists_ok e) (not_exists_ok e)
    | ok c =>
      intro a
      show Except.ok (store' c (store b r)) = .ok a ↔ Except.ok (store b (store' c r)) = .ok a
      rw [h]

/-- A record on which a field rests for `null` stays so when another field is read. -/
theorem Field.Apart.rests {f g : Field Json ε α} (h : f.Apart g) {s : Json} {r r' : α}
    (hrest : f.read .null r = .ok r) (hread : g.read s r = .ok r') :
    f.read .null r' = .ok r' := by
  have hfirst : (f.read .null r).bind (g.read s) = .ok r' := by
    rw [hrest]
    exact hread
  have hsecond := (h .null s r r').mp hfirst
  rw [hread] at hsecond
  exact hsecond

theorem name_of_find? {fields : List (Field Json ε α)} {key : String} {f : Field Json ε α}
    (h : fields.find? (·.name == key) = some f) : f.name = key :=
  beq_iff_eq.mp (List.find?_some (p := fun f : Field Json ε α => f.name == key) h)

/-- Fields that are found under different names are apart. -/
theorem apart_of_find? {fields : List (Field Json ε α)} (h : fields.Pairwise Field.Apart)
    {key key' : String} {f g : Field Json ε α} (hne : key ≠ key')
    (hf : fields.find? (·.name == key) = some f) (hg : fields.find? (·.name == key') = some g) :
    f.Apart g := by
  have hdistinct : f ≠ g := by
    intro heq
    exact hne ((name_of_find? hf).symm.trans (heq ▸ name_of_find? hg))
  exact h.forall (List.mem_of_find?_eq_some hf) (List.mem_of_find?_eq_some hg) hdistinct

/-! ### Fields of an object -/

section Object

variable {fields : List (Field Json ε α)}

/-- The names of fields, each with what it can be read from. -/
def accepts (fields : List (Field Json ε α)) : Table Json :=
  fields.map fun f => (f.name, fun s => ∃ r a, f.read s r = .ok a)

theorem takes_accepts (h : ∀ f ∈ fields, f.Steady) :
    List.Forall₂ Field.Takes fields (accepts fields) := by
  rw [accepts, List.forall₂_map_right_iff, List.forall₂_same]
  intro f hf
  exact ⟨rfl, fun s r => ⟨fun hread => ⟨r, hread⟩, fun ⟨r', hread⟩ => h f hf s r' r hread⟩⟩

theorem sublist_remove (before after : Fields) (f : String × Json) :
    (before ++ after).Sublist (before ++ f :: after) :=
  (List.sublist_cons_self f after).append_left before

/-- An object that fits a table does so with a field less. -/
theorem RecordFits.remove {table : Table Json} {before after : Fields} {f : String × Json}
    (h : RecordFits table (.object (before ++ f :: after))) :
    RecordFits table (.object (before ++ after)) := by
  cases h with
  | object h => exact .object (h.of_sublist (sublist_remove before after f))

variable {lift : Mismatch → ε} {name : String} {empty : α}

theorem readRecord_object (given : Fields) :
    readRecord lift name fields empty (.object given) = readNamed lift fields [] empty given := by
  unfold readRecord
  dsimp only [Source.view, view]
  cases readNamed lift fields [] empty given <;> rfl

/-- An object that can be read can be read with a field less. -/
theorem exists_readRecord_remove (hsteady : ∀ f ∈ fields, f.Steady) {before after : Fields}
    {f : String × Json} {r : α}
    (h : readRecord lift name fields empty (.object (before ++ f :: after)) = .ok r) :
    ∃ r', readRecord lift name fields empty (.object (before ++ after)) = .ok r' := by
  have hfits := (exists_readRecord (takes_accepts hsteady) empty _).mp ⟨r, h⟩
  exact (exists_readRecord (takes_accepts hsteady) empty _).mpr hfits.remove

/-- A field of another name is passed over. -/
theorem readNamed_cons_none {key : String} (hfind : fields.find? (·.name == key) = none)
    (seen : List String) (r : α) (s : Json) (rest : Fields) :
    readNamed lift fields seen r ((key, s) :: rest) = readNamed lift fields seen r rest := by
  rw [readNamed, hfind]

/-- A field of the record is read, unless it was seen before, and then the other fields are. -/
theorem readNamed_cons_some {key : String} {field : Field Json ε α}
    (hfind : fields.find? (·.name == key) = some field) (seen : List String) (r : α) (s : Json)
    (rest : Fields) :
    readNamed lift fields seen r ((key, s) :: rest) =
      if key ∈ seen then .error (lift (.repeated key))
      else (field.read s r).bind fun r' => readNamed lift fields (key :: seen) r' rest := by
  rw [readNamed, hfind]
  dsimp only
  by_cases hseen : key ∈ seen
  · rw [if_pos hseen, if_pos (List.contains_iff_mem.mpr hseen)]
  · rw [if_neg hseen, if_neg fun h => hseen (List.contains_iff_mem.mp h)]
    cases field.read s r <;> rfl

theorem of_readNamed_cons {key : String} {field : Field Json ε α}
    (hfind : fields.find? (·.name == key) = some field) {seen : List String} {r r' : α} {s : Json}
    {rest : Fields} (h : readNamed lift fields seen r ((key, s) :: rest) = .ok r') :
    key ∉ seen ∧
      ∃ r₁, field.read s r = .ok r₁ ∧ readNamed lift fields (key :: seen) r₁ rest = .ok r' := by
  rw [readNamed_cons_some hfind] at h
  by_cases hseen : key ∈ seen
  · rw [if_pos hseen] at h
    cases h
  · rw [if_neg hseen] at h
    exact ⟨hseen, bind_eq_ok.mp h⟩

/-- Names that are not given need not be remembered. -/
theorem readNamed_congr_seen {given : Fields} {seen seen' : List String} (r : α)
    (h : ∀ f ∈ given, f.1 ∈ seen ↔ f.1 ∈ seen') :
    readNamed lift fields seen r given = readNamed lift fields seen' r given := by
  induction given generalizing seen seen' r with
  | nil => rfl
  | cons f rest ih =>
    obtain ⟨key, s⟩ := f
    rw [List.forall_mem_cons] at h
    obtain ⟨hkey, hrest⟩ := h
    cases hfind : fields.find? (·.name == key) with
    | none =>
      rw [readNamed_cons_none hfind, readNamed_cons_none hfind]
      exact ih r hrest
    | some field =>
      rw [readNamed_cons_some hfind, readNamed_cons_some hfind, if_congr hkey rfl rfl]
      have hmore : ∀ r', readNamed lift fields (key :: seen) r' rest =
          readNamed lift fields (key :: seen') r' rest := by
        refine fun r' => ih r' fun g hg => ?_
        rw [List.mem_cons, List.mem_cons, hrest g hg]
      simp only [hmore]

/-- A field of another name is no field. -/
theorem readNamed_unknown {key : String} (hfind : fields.find? (·.name == key) = none)
    {before after : Fields} {seen : List String} {r : α} (s : Json) :
    readNamed lift fields seen r (before ++ (key, s) :: after) =
      readNamed lift fields seen r (before ++ after) := by
  induction before generalizing seen r with
  | nil => exact readNamed_cons_none hfind seen r s after
  | cons f rest ih =>
    rw [List.cons_append, List.cons_append, readNamed, readNamed]
    simp only [ih]

/-- **Null.** A field that holds `null`, and on which the record rests then, is no field. -/
theorem readNamed_null (hapart : fields.Pairwise Field.Apart) {key : String}
    {field : Field Json ε α} (hfind : fields.find? (·.name == key) = some field)
    {before after : Fields} {seen : List String} {r : α} (hrest : field.read .null r = .ok r)
    (hseen : key ∉ seen) (hkey : key ∉ (before ++ after).map Prod.fst) :
    readNamed lift fields seen r (before ++ (key, .null) :: after) =
      readNamed lift fields seen r (before ++ after) := by
  -- what is read before the field keeps the record at rest
  induction before generalizing seen r with
  | nil =>
    rw [List.nil_append, List.nil_append, readNamed_cons_some hfind, if_neg hseen, hrest]
    refine readNamed_congr_seen r fun f hf => ?_
    have hne : f.1 ≠ key := fun heq => hkey (heq ▸ List.mem_map_of_mem hf)
    rw [List.mem_cons, or_iff_right hne]
  | cons f rest ih =>
    obtain ⟨k, s⟩ := f
    rw [List.cons_append, List.map_cons, List.mem_cons, not_or] at hkey
    obtain ⟨hne, hkey⟩ := hkey
    rw [List.cons_append, List.cons_append]
    cases hother : fields.find? (·.name == k) with
    | none =>
      rw [readNamed_cons_none hother, readNamed_cons_none hother]
      exact ih hrest hseen hkey
    | some other =>
      rw [readNamed_cons_some hother, readNamed_cons_some hother]
      split
      · rfl
      · cases hread : other.read s r with
        | error e => rfl
        | ok r' =>
          have hfar : field.Apart other := apart_of_find? hapart hne hfind hother
          refine ih (hfar.rests hrest hread) ?_ hkey
          rw [List.mem_cons, not_or]
          exact ⟨hne, hseen⟩

/-- An object in which a field rests for `null` is read as if it had not that field. -/
theorem readRecord_null (hapart : fields.Pairwise Field.Apart) {key : String}
    {before after : Fields}
    (h : ∀ field, fields.find? (·.name == key) = some field →
      field.read .null empty = .ok empty ∧ key ∉ (before ++ after).map Prod.fst) :
    readRecord lift name fields empty (.object (before ++ (key, .null) :: after)) =
      readRecord lift name fields empty (.object (before ++ after)) := by
  rw [readRecord_object, readRecord_object]
  cases hfind : fields.find? (·.name == key) with
  | none => exact readNamed_unknown hfind .null
  | some field =>
    obtain ⟨hrest, hkey⟩ := h field hfind
    exact readNamed_null hapart hfind hrest List.not_mem_nil hkey

/-- No field of the record is given twice in an object that can be read. -/
theorem not_mem_keys_of_readRecord (hsteady : ∀ f ∈ fields, f.Steady) {key : String}
    {field : Field Json ε α} (hfind : fields.find? (·.name == key) = some field)
    {before after : Fields} {x : Json} {r : α}
    (h : readRecord lift name fields empty (.object (before ++ (key, x) :: after)) = .ok r) :
    key ∉ (before ++ after).map Prod.fst := by
  have hfits := (exists_readRecord (takes_accepts hsteady) empty _).mp ⟨r, h⟩
  -- the table has the name of the field
  have hname : (accepts fields).name? key = some key := by
    rcases find?_of_takes (takes_accepts hsteady) key with ⟨hnone, -⟩ | ⟨_, shape, -, hsome, -⟩
    · rw [hfind] at hnone
      cases hnone
    · rw [Table.name?, hsome, Option.map_some]
  cases hfits with
  | object hfits =>
    -- in another order the field comes first
    have honce : (takenPlaces (accepts fields).name? ((key, x) :: (before ++ after))).Nodup :=
      (List.perm_middle.filterMap _).nodup_iff.mp hfits.once
    rw [takenPlaces_cons_some hname, List.nodup_cons] at honce
    intro hmem
    obtain ⟨f, hf, hkey⟩ := List.mem_map.mp hmem
    exact honce.1 (List.mem_filterMap.mpr ⟨f, hf, hkey ▸ hname⟩)

end Object

/-! ### Parts of a value -/

/-- A reader reads a part of its value just as another reader does, and goes on with what that
gives. Where the part is `null` nothing is said. -/
def ReadsPart (read : Json → Except ε α) (part : Json → Except ε β) (place : Json → Json) : Prop :=
  ∃ rest : β → α, ∀ s, s ≠ .null → read (place s) = (part s).map rest

namespace ReadsPart

variable {read : Json → Except ε α} {part : Json → Except ε β} {sub : Json → Except ε γ}
  {place inner : Json → Json}

theorem refl (read : Json → Except ε α) : ReadsPart read read id := by
  refine ⟨id, fun s _ => ?_⟩
  rw [id_eq]
  cases read s <;> rfl

/-- A part of a part. -/
theorem trans (h : ReadsPart read part place) (hinner : ReadsPart part sub inner)
    (hnull : ∀ s, inner s ≠ .null) : ReadsPart read sub (place ∘ inner) := by
  obtain ⟨rest, hrest⟩ := h
  obtain ⟨rest', hrest'⟩ := hinner
  refine ⟨rest ∘ rest', fun s hs => ?_⟩
  rw [Function.comp_apply, hrest _ (hnull s), hrest' s hs]
  cases sub s <;> rfl

/-- Where the value can be read, so can the part. -/
theorem exists_part_ok (h : ReadsPart read part place) {s : Json} (hs : s ≠ .null)
    (hread : ∃ a, read (place s) = .ok a) : ∃ b, part s = .ok b := by
  obtain ⟨rest, hrest⟩ := h
  rw [hrest s hs] at hread
  exact exists_map_ok.mp hread

end ReadsPart

theorem readsPart_optional (read : Json → Except ε β) : ReadsPart (readOptional read) read id := by
  refine ⟨some, fun s hs => ?_⟩
  unfold readOptional
  cases s with
  | null => exact absurd rfl hs
  | bool | number | string | array | object => rfl

/-- A field that stores what it reads has for part what is read. -/
theorem readsPart_storedField {read : Json → Except ε β} {part : Json → Except ε γ}
    (h : ReadsPart read part id) (name : String) (store : β → α → α) (r : α) :
    ReadsPart ((storedField name read store).read · r) part id := by
  obtain ⟨rest, hrest⟩ := h
  refine ⟨fun c => store (rest c) r, fun s hs => ?_⟩
  show (read (id s)).map (store · r) = _
  rw [hrest s hs]
  cases part s <;> rfl

/-- A list has its items for parts. -/
theorem readsPart_item {lift : Mismatch → ε} {read : Json → Except ε α} {before after : List Json}
    {x : Json} (h : ∃ values, readList lift read (.array (before ++ x :: after)) = .ok values) :
    ReadsPart (readList lift read) read fun s => .array (before ++ s :: after) := by
  have hitems : ∀ items, readList lift read (.array items) = items.mapM read := by
    intro items
    unfold readList
    dsimp only [Source.view, view]
    cases items.mapM read <;> rfl
  simp only [hitems] at h
  rw [exists_mapM_ok, List.forall_mem_append, List.forall_mem_cons] at h
  obtain ⟨hbefore, -, hafter⟩ := h
  obtain ⟨earlier, hearlier⟩ := exists_mapM_ok.mpr hbefore
  obtain ⟨later, hlater⟩ := exists_mapM_ok.mpr hafter
  refine ⟨fun value => earlier ++ value :: later, fun s _ => ?_⟩
  rw [hitems, List.mapM_append, List.mapM_cons, hearlier, hlater]
  cases read s <;> rfl

/-- Where the field of a record stands that has one of its names: under the name, or, if the record
is an array, at its place among them. -/
inductive FieldAt (names : List String) (name : String) : (Json → Json) → Prop
  | named (before after : Fields) :
      FieldAt names name fun s => .object (before ++ (name, s) :: after)
  | placed {before : List Json} (h : before.length = names.idxOf name) (after : List Json) :
      FieldAt names name fun s => .array (before ++ s :: after)

theorem FieldAt.ne_null {names : List String} {name : String} {place : Json → Json}
    (h : FieldAt names name place) (s : Json) : place s ≠ .null := by
  cases h <;> exact Json.noConfusion

section Record

variable {fields : List (Field Json ε α)} {lift : Mismatch → ε} {name : String} {empty : α}

/-- What is read after a field of an object does not depend on it. -/
theorem readNamed_field (hsteady : ∀ f ∈ fields, f.Steady) {key : String} {field : Field Json ε α}
    (hfind : fields.find? (·.name == key) = some field) {before after : Fields} {x : Json}
    {seen : List String} {r r' : α}
    (h : readNamed lift fields seen r (before ++ (key, x) :: after) = .ok r') :
    ∃ (r₀ : α) (rest : α → α), ∀ s,
      readNamed lift fields seen r (before ++ (key, s) :: after) = (field.read s r₀).map rest := by
  induction before generalizing seen r with
  | nil =>
    obtain ⟨hseen, r₁, -, hmore⟩ := of_readNamed_cons hfind h
    -- the other fields can be read into any record
    have hafter : ∀ r₂, ∃ r₃, readNamed lift fields (key :: seen) r₂ after = .ok r₃ := by
      intro r₂
      exact (exists_readNamed (takes_accepts hsteady) after _ r₂).mpr
        ((exists_readNamed (takes_accepts hsteady) after _ r₁).mp ⟨r', hmore⟩)
    choose rest hrest using hafter
    refine ⟨r, rest, fun s => ?_⟩
    rw [List.nil_append, readNamed_cons_some hfind, if_neg hseen]
    cases field.read s r with
    | error e => rfl
    | ok r₂ => exact hrest r₂
  | cons f more ih =>
    obtain ⟨k, v⟩ := f
    rw [List.cons_append] at h
    cases hother : fields.find? (·.name == k) with
    | none =>
      rw [readNamed_cons_none hother] at h
      obtain ⟨r₀, rest, hrest⟩ := ih h
      refine ⟨r₀, rest, fun s => ?_⟩
      rw [List.cons_append, readNamed_cons_none hother]
      exact hrest s
    | some other =>
      obtain ⟨hseen, r₁, hv, hmore⟩ := of_readNamed_cons hother h
      obtain ⟨r₀, rest, hrest⟩ := ih hmore
      refine ⟨r₀, rest, fun s => ?_⟩
      rw [List.cons_append, readNamed_cons_some hother, if_neg hseen, hv]
      exact hrest s

theorem readOrdered_cons (r : α) (field : Field Json ε α) (fields : List (Field Json ε α))
    (s : Json) (rest : List Json) :
    readOrdered r (field :: fields) (s :: rest) =
      (field.read s r).bind fun r' => readOrdered r' fields rest := by
  rw [readOrdered]
  cases field.read s r <;> rfl

/-- What is read after a field of an array does not depend on it. -/
theorem readOrdered_field (hsteady : ∀ f ∈ fields, f.Steady) {key : String}
    {field : Field Json ε α} (hfind : fields.find? (·.name == key) = some field)
    {before after : List Json} (hbefore : before.length = (fields.map Field.name).idxOf key)
    {x : Json} {r r' : α} (h : readOrdered r fields (before ++ x :: after) = .ok (r', [])) :
    ∃ (r₀ : α) (rest : α → α × List Json), (∀ r₁, (rest r₁).2 = []) ∧ ∀ s,
      readOrdered r fields (before ++ s :: after) = (field.read s r₀).map rest := by
  -- the field is found as far behind as the item stands
  induction fields generalizing before r with
  | nil => cases hfind
  | cons f more ih =>
    rw [List.forall_mem_cons] at hsteady
    rw [List.map_cons, List.idxOf_cons] at hbefore
    rw [List.find?_cons] at hfind
    cases hname : f.name == key with
    | true =>
      rw [hname, Option.some.injEq] at hfind
      rw [hname] at hbefore
      subst hfind
      cases List.eq_nil_of_length_eq_zero hbefore
      rw [List.nil_append, readOrdered_cons] at h
      obtain ⟨r₁, -, hmore⟩ := bind_eq_ok.mp h
      have hafter : ∀ r₂, ∃ r₃, readOrdered r₂ more after = .ok (r₃, []) := by
        intro r₂
        exact (exists_readOrdered (takes_accepts hsteady.2) after r₂).mpr
          ((exists_readOrdered (takes_accepts hsteady.2) after r₁).mp ⟨r', hmore⟩)
      choose rest hrest using hafter
      refine ⟨r, fun r₂ => (rest r₂, []), fun _ => rfl, fun s => ?_⟩
      rw [List.nil_append, readOrdered_cons]
      cases f.read s r with
      | error e => rfl
      | ok r₂ => exact hrest r₂
    | false =>
      rw [hname] at hfind hbefore
      cases before with
      | nil => cases hbefore
      | cons v before =>
        rw [List.cons_append, readOrdered_cons] at h
        obtain ⟨r₁, hv, hmore⟩ := bind_eq_ok.mp h
        obtain ⟨r₀, rest, hnone, hrest⟩ := ih hsteady.2 hfind (Nat.succ.inj hbefore) hmore
        refine ⟨r₀, rest, hnone, fun s => ?_⟩
        rw [List.cons_append, readOrdered_cons, hv]
        exact hrest s

/-- What is read after a field of a record does not depend on it. -/
theorem readRecord_field (hsteady : ∀ f ∈ fields, f.Steady) {key : String}
    {field : Field Json ε α} (hfind : fields.find? (·.name == key) = some field)
    {place : Json → Json} (hplace : FieldAt (fields.map Field.name) key place) {x : Json}
    (h : ∃ r, readRecord lift name fields empty (place x) = .ok r) :
    ∃ (r₀ : α) (rest : α → α), ∀ s,
      readRecord lift name fields empty (place s) = (field.read s r₀).map rest := by
  cases hplace with
  | named before after =>
    obtain ⟨r, hread⟩ := h
    simp only [readRecord_object] at hread ⊢
    exact readNamed_field hsteady hfind hread
  | @placed before hbefore after =>
    obtain ⟨r', hread⟩ : ∃ r', readOrdered empty fields (before ++ x :: after) = .ok (r', []) := by
      have hfits := (exists_readRecord (takes_accepts hsteady) empty _).mp h
      cases hfits with
      | array hfits => exact (exists_readOrdered (takes_accepts hsteady) _ empty).mpr hfits
    obtain ⟨r₀, rest, hnone, hrest⟩ := readOrdered_field hsteady hfind hbefore hread
    refine ⟨r₀, fun r₁ => (rest r₁).1, fun s => ?_⟩
    -- no item is left over, whatever the field gives
    unfold readRecord
    dsimp only [Source.view, view]
    rw [hrest s]
    cases field.read s r₀ with
    | error e => rfl
    | ok r₁ =>
      show (if !(rest r₁).2.isEmpty then _ else _) = _
      rw [hnone r₁]
      rfl

/-- A record has for parts what its fields read. -/
theorem readsPart_field (hsteady : ∀ f ∈ fields, f.Steady) {key : String}
    {field : Field Json ε α} (hfind : fields.find? (·.name == key) = some field)
    {part : Json → Except ε β} (hpart : ∀ r, ReadsPart (field.read · r) part id)
    {place : Json → Json} (hplace : FieldAt (fields.map Field.name) key place) {x : Json}
    (h : ∃ r, readRecord lift name fields empty (place x) = .ok r) :
    ReadsPart (readRecord lift name fields empty) part place := by
  obtain ⟨r₀, rest, hrest⟩ := readRecord_field hsteady hfind hplace h
  obtain ⟨rest', hrest'⟩ := hpart r₀
  refine ⟨rest ∘ rest', fun s hs => ?_⟩
  have hfield : field.read s r₀ = (part s).map rest' := hrest' s hs
  rw [hrest s, hfield]
  cases part s <;> rfl

end Record

end Letterhead.Json
