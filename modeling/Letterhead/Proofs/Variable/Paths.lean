import Letterhead.Proofs.Variable.Facets

/-!
# The paths of variables

A variable may be named by any text. Trimmed and cut at its dots, it is a path in the context, and
the path is followed through whatever it meets: objects, the list of the lines, texts and numbers.
Most paths lead to nothing that is shown. They name no facet, or one that is not there, or no field
of it; they have an empty segment; they stop at the list of lines or at one of the lines; they go
on behind a text; or what they lead to is blank.

`Context.Resolves` lists what is left. A path of two segments names a facet and a leaf in it. A path
of four segments names a line of the proposal by its position and a leaf in the line. There is
nothing else, because the objects of the other facets are flat, and so is that of a line: only a
proposal has a field with parts, and these parts are lines.

The same is said of both ways to find a value, of the records by the names of their fields and of
the values by following a path. So these agree on every text.

* `IsFlat`, `IsFlat.at?_shows` — flat objects, and the paths that end in them;
* `Proposal.at?_shows` — the paths that end in a proposal;
* `Context.Resolves` — the paths that lead to something, and what they show;
* `walk?_eq_some_iff`, `datum?_eq_some_iff` — following a path, and looking it up in the records;
* `variables_resolve_leaves` — the variables that have a text, and which.
-/

namespace Letterhead

open Decimal

/-! ### Flat objects -/

/-- An object of leaves. -/
def IsFlat (fields : Fields) : Prop :=
  ∀ f ∈ fields, f.2.IsLeaf

section Flat

variable {fields : Fields} {key text : String} {v : Json}

theorem IsFlat.isLeaf (h : IsFlat fields) (hv : field? key fields = some v) : v.IsLeaf :=
  h (key, v) (mem_of_field? hv)

theorem isFlat_withDerived (h : IsFlat fields) (key : String) (text : Option String) :
    IsFlat (withDerived key text fields) := by
  unfold withDerived
  cases text with
  | none => exact h
  | some s =>
    dsimp only
    split
    · exact h
    · intro f hf
      rcases List.mem_append.mp hf with hown | hderived
      · exact h f hown
      · rw [List.mem_singleton.mp hderived]
        exact .text s

theorem Company.isFlat_object (c : Company) : IsFlat c.object := by
  refine isFlat_withDerived ?_ _ _
  simp [IsFlat, Company.fields, Address.fields, Json.isLeaf_ofText]

theorem Client.isFlat_object (c : Client) : IsFlat c.object := by
  refine isFlat_withDerived (isFlat_withDerived ?_ _ _) _ _
  simp [IsFlat, Client.fields, Address.fields, Json.isLeaf_ofText]

theorem Property.isFlat_object (p : Property) : IsFlat p.object := by
  refine isFlat_withDerived ?_ _ _
  simp [IsFlat, Property.fields, Address.fields, Json.isLeaf_ofText, Json.isLeaf_ofCount,
    Json.isLeaf_ofReal]

theorem LineItem.isFlat_object (i : LineItem) : IsFlat i.object := by
  simp [IsFlat, LineItem.object, Json.IsLeaf.text, Json.isLeaf_ofText, Json.isLeaf_ofReal]

/-- What is shown of the field of a key, if all there can be is a leaf. -/
theorem bind_shown?_iff {found : Option Json} (h : ∀ v, found = some v → v.IsLeaf) :
    found.bind Json.shown? = some text ↔ ∃ v, found = some v ∧ v.Shows text := by
  rw [Option.bind_eq_some_iff]
  refine exists_congr fun v => and_congr_right fun hv => ?_
  exact (h v hv).shown?_eq_some_iff

/-- A path that ends in a flat object has one segment, which is the key of a leaf. -/
theorem IsFlat.at?_shows (h : IsFlat fields) (path : List String) :
    ((Json.object fields).at? path).bind Json.shown? = some text ↔
      ∃ key v, path = [key] ∧ field? key fields = some v ∧ v.Shows text := by
  match path with
  | [] =>
    -- an object as a whole shows nothing
    constructor
    · rintro ⟨⟩
    · rintro ⟨_, _, ⟨⟩, -⟩
  | [key] =>
    rw [Json.at?_singleton, bind_shown?_iff fun v hv => h.isLeaf hv]
    constructor
    · rintro ⟨v, hv, hshows⟩
      exact ⟨key, v, rfl, hv, hshows⟩
    · rintro ⟨_, v, ⟨⟩, hv, hshows⟩
      exact ⟨v, hv, hshows⟩
  | key :: segment :: rest =>
    constructor
    · intro hshown
      -- there is nothing behind a leaf
      obtain ⟨w, hat, -⟩ := Option.bind_eq_some_iff.mp hshown
      obtain ⟨v, hv, hrest⟩ := Option.bind_eq_some_iff.mp hat
      rw [(h.isLeaf hv).at?_cons] at hrest
      cases hrest
    · rintro ⟨_, _, ⟨⟩, -⟩

end Flat

/-! ### Proposals -/

section Proposals

variable {p : Proposal} {key text : String} {v : Json}

/-- A field of a proposal is a leaf, unless it is the list of lines. -/
theorem Proposal.field?_cases (hv : field? key p.object = some v) :
    v.IsLeaf ∨ (key = "voci" ∧ v = .array p.lineValues) := by
  have hmem : (key, v) ∈ p.object := mem_of_field? hv
  simp only [Proposal.object, List.mem_cons, Prod.mk.injEq, List.not_mem_nil, or_false] at hmem
  rcases hmem with ⟨rfl, rfl⟩ | ⟨rfl, rfl⟩ | ⟨rfl, rfl⟩ | ⟨rfl, rfl⟩ | ⟨rfl, rfl⟩ | ⟨rfl, rfl⟩
  · exact .inl (Json.isLeaf_ofText _)
  · exact .inl (Json.isLeaf_ofText _)
  · exact .inl (Json.isLeaf_ofReal _)
  · exact .inl (Json.isLeaf_ofReal _)
  · exact .inl (Json.isLeaf_ofReal _)
  · exact .inr ⟨rfl, rfl⟩

/-- What is shown of a field of a proposal is a leaf. -/
theorem Proposal.bind_shown?_iff :
    (field? key p.object).bind Json.shown? = some text ↔
      ∃ v, field? key p.object = some v ∧ v.Shows text := by
  rw [Option.bind_eq_some_iff]
  refine exists_congr fun v => and_congr_right fun hv => ?_
  rcases Proposal.field?_cases hv with hleaf | ⟨-, rfl⟩
  · exact hleaf.shown?_eq_some_iff
  · -- the list of lines itself shows nothing
    constructor
    · rintro ⟨⟩
    · rintro ⟨⟩

/-- A line of a proposal at a position that a path writes, and a leaf in it. -/
def Proposal.ShowsLine (p : Proposal) (position key text : String) : Prop :=
  ∃ i item v, Text.numeral? 64 position.toList = some i ∧ p.lines[i]? = some item ∧
    field? key item.object = some v ∧ v.Shows text

/-- A path that ends in the list of lines has two segments. -/
theorem Proposal.at?_lineValues (p : Proposal) (path : List String) :
    ((Json.array p.lineValues).at? path).bind Json.shown? = some text ↔
      ∃ position key, path = [position, key] ∧ p.ShowsLine position key text := by
  cases path with
  | nil =>
    constructor
    · rintro ⟨⟩
    · rintro ⟨_, _, ⟨⟩, -⟩
  | cons position rest =>
    have hline : ∀ i : Nat,
        p.lineValues[i]? = (p.lines[i]?).map fun item => Json.object item.object :=
      fun i => List.getElem?_map
    constructor
    · intro hshown
      obtain ⟨w, hat, hw⟩ := Option.bind_eq_some_iff.mp hshown
      obtain ⟨v, hv, hrest⟩ := Option.bind_eq_some_iff.mp hat
      obtain ⟨i, hi, hvalue⟩ := Option.bind_eq_some_iff.mp hv
      -- what is at a position is the object of a line, which is flat
      rw [hline] at hvalue
      obtain ⟨item, hitem, rfl⟩ := Option.map_eq_some_iff.mp hvalue
      have hflat := (item.isFlat_object.at?_shows rest).mp
        (Option.bind_eq_some_iff.mpr ⟨w, hrest, hw⟩)
      obtain ⟨key, leaf, rfl, hleaf, hshows⟩ := hflat
      exact ⟨position, key, rfl, i, item, leaf, hi, hitem, hleaf, hshows⟩
    · rintro ⟨_, key, ⟨⟩, i, item, leaf, hi, hitem, hleaf, hshows⟩
      have hat : (Json.array p.lineValues).at? [position, key] =
          (Json.object item.object).at? [key] := by
        show ((Text.numeral? 64 position.toList).bind (p.lineValues[·]?)).bind _ = _
        rw [hi, Option.bind_some, hline, hitem]
        rfl
      rw [hat]
      exact (item.isFlat_object.at?_shows [key]).mpr ⟨key, leaf, rfl, hleaf, hshows⟩

/-- A path that ends in a proposal leads to a leaf of it or to one of its lines. -/
theorem Proposal.at?_shows (p : Proposal) (path : List String) :
    ((Json.object p.object).at? path).bind Json.shown? = some text ↔
      (∃ key v, path = [key] ∧ field? key p.object = some v ∧ v.Shows text) ∨
        ∃ position key, path = ["voci", position, key] ∧ p.ShowsLine position key text := by
  cases path with
  | nil =>
    constructor
    · rintro ⟨⟩
    · rintro (⟨_, _, ⟨⟩, -⟩ | ⟨_, _, ⟨⟩, -⟩)
  | cons key rest =>
    constructor
    · intro hshown
      obtain ⟨w, hat, hw⟩ := Option.bind_eq_some_iff.mp hshown
      obtain ⟨v, hv, hrest⟩ := Option.bind_eq_some_iff.mp hat
      rcases Proposal.field?_cases hv with hleaf | ⟨rfl, rfl⟩
      · cases rest with
        | nil =>
          -- the path ends here, at the leaf itself
          cases hrest
          exact .inl ⟨key, w, rfl, hv, hleaf.shown?_eq_some_iff.mp hw⟩
        | cons segment rest =>
          rw [hleaf.at?_cons] at hrest
          cases hrest
      · -- the path goes on in the list of lines
        have hlines := (p.at?_lineValues rest).mp (Option.bind_eq_some_iff.mpr ⟨w, hrest, hw⟩)
        obtain ⟨position, field, rfl, hline⟩ := hlines
        exact .inr ⟨position, field, rfl, hline⟩
    · rintro (⟨_, v, ⟨⟩, hv, hshows⟩ | ⟨position, field, ⟨⟩, hline⟩)
      · rw [Json.at?_singleton]
        exact Proposal.bind_shown?_iff.mpr ⟨v, hv, hshows⟩
      · exact (p.at?_lineValues [position, field]).mpr ⟨position, field, rfl, hline⟩

end Proposals

/-! ### Records and their objects -/

section Records

variable (key : String)

theorem shown?_ofText (text : Option String) :
    (Json.ofText text).shown? = (text.map Datum.text).bind Datum.shown? := by
  cases text <;> rfl

theorem bind_shown?_string (text : Option String) :
    (text.map Json.string).bind Json.shown? = (text.map Datum.text).bind Datum.shown? := by
  cases text <;> rfl

theorem shown?_ofCount (count : Option Nat) :
    (Json.ofCount count).shown? = (count.map Datum.count).bind Datum.shown? := by
  cases count <;> rfl

/-- What is no number shows nothing, whether it is written or not. -/
theorem shown?_ofReal (number : Option Float) :
    (Json.ofReal number).shown? = (number.map Datum.number).bind Datum.shown? := by
  cases number with
  | none => rfl
  | some x =>
    have hempty := isEmpty_numberText_iff x
    show (if (Binary.ofFloat x).isSome then Json.number (.double x) else .null).shown? =
      if (numberText x).isEmpty then none else some (numberText x)
    cases hsome : (Binary.ofFloat x).isSome with
    | true =>
      -- it is written as it is, and its text is not empty
      rw [hsome] at hempty
      rw [if_pos rfl, (Json.shown?_double x _).mpr ⟨hsome, rfl⟩]
      exact (if_neg fun h => Bool.noConfusion (hempty.mp h)).symm
    | false =>
      rw [if_neg Bool.false_ne_true, if_pos (hempty.mpr hsome)]
      rfl

/-- An address shows its fields and, under a key of its own, all of them. -/
theorem Address.shown_datum? (a : Address) :
    (a.datum? key).bind Datum.shown? =
      (field? key (withDerived "indirizzo_completo" a.line a.fields)).bind Json.shown? := by
  rw [field?_withDerived]
  unfold Address.datum? Address.fields
  -- one case for each key, and the last for any other
  split
  case h_6 =>
    simp (disch := assumption) only [field?_cons, field?_nil, if_neg, Option.none_or]
    rfl
  all_goals simp [shown?_ofText, bind_shown?_string]

/-- A company shows the same by its fields and as an object. -/
theorem Company.shown_datum? (c : Company) :
    (c.datum? key).bind Datum.shown? = (field? key c.object).bind Json.shown? := by
  unfold Company.datum? Company.object
  rw [field?_withDerived]
  unfold Company.fields
  split
  case h_11 =>
    -- no field of its own, so one of the address or none
    rw [Address.shown_datum?, field?_withDerived]
    simp (disch := assumption) only [field?_cons, field?_append, field?_nil, if_neg,
      Option.or_none]
  all_goals simp [shown?_ofText, Address.fields]

/-- A client shows the same by its fields and as an object. -/
theorem Client.shown_datum? (c : Client) :
    (c.datum? key).bind Datum.shown? = (field? key c.object).bind Json.shown? := by
  unfold Client.datum? Client.object
  rw [field?_withDerived, field?_withDerived]
  unfold Client.fields
  split
  case h_8 =>
    rw [Address.shown_datum?, field?_withDerived]
    simp (disch := assumption) only [field?_cons, field?_append, field?_nil, if_neg,
      Option.or_none]
  all_goals simp [shown?_ofText, bind_shown?_string, Address.fields]

/-- A property shows the same by its fields and as an object. -/
theorem Property.shown_datum? (p : Property) :
    (p.datum? key).bind Datum.shown? = (field? key p.object).bind Json.shown? := by
  unfold Property.datum? Property.object
  rw [field?_withDerived]
  unfold Property.fields
  split
  case h_8 =>
    rw [Address.shown_datum?, field?_withDerived]
    simp (disch := assumption) only [field?_cons, field?_append, field?_nil, if_neg,
      Option.or_none]
  all_goals simp [shown?_ofText, shown?_ofCount, shown?_ofReal, Address.fields]

/-- A line item shows the same by its fields and as an object. -/
theorem LineItem.shown_datum? (i : LineItem) :
    (i.datum? key).bind Datum.shown? = (field? key i.object).bind Json.shown? := by
  unfold LineItem.datum? LineItem.object
  split
  case h_9 =>
    simp (disch := assumption) only [field?_cons, field?_nil, if_neg]
    rfl
  case h_1 => rfl
  all_goals simp [shown?_ofText, shown?_ofReal]

/-- A proposal shows the same by its fields and as an object, where the list of lines shows
nothing. -/
theorem Proposal.shown_datum? (p : Proposal) :
    (p.datum? key).bind Datum.shown? = (field? key p.object).bind Json.shown? := by
  unfold Proposal.datum? Proposal.object
  split
  case h_6 =>
    -- of the other keys one leads to the list of lines, the rest to nothing
    simp (disch := assumption) only [field?_cons, field?_nil, if_neg]
    split <;> rfl
  all_goals simp [shown?_ofText, shown?_ofReal]

end Records

/-! ### Paths in a context -/

/-- The paths that lead to something, and what they show. -/
inductive Context.Resolves (c : Context) : List String → String → Prop
  /-- A leaf of a facet. -/
  | leaf {facet key text : String} {object : Fields} {v : Json}
      (hfacet : c.facet? facet = some object) (hv : field? key object = some v)
      (hshows : v.Shows text) : Resolves c [facet, key] text
  /-- A leaf of a line of the proposal. -/
  | line {position key text : String} {p : Proposal} (hp : c.proposal = some p)
      (hline : p.ShowsLine position key text) : Resolves c ["proposta", "voci", position, key] text

section Context

variable {c : Context} {facet key text : String} {object : Fields} {path : List String}

theorem facet?_proposal {p : Proposal} (hp : c.proposal = some p) :
    c.facet? "proposta" = some p.object := by
  show c.proposal.map Proposal.object = some p.object
  rw [hp, Option.map_some]

/-- A facet is flat, unless it is the proposal. -/
theorem facet?_cases (h : c.facet? facet = some object) :
    IsFlat object ∨ (facet = "proposta" ∧ ∃ p, c.proposal = some p ∧ p.object = object) := by
  unfold Context.facet? at h
  split at h
  · obtain ⟨company, -, rfl⟩ := Option.map_eq_some_iff.mp h
    exact .inl company.isFlat_object
  · obtain ⟨client, -, rfl⟩ := Option.map_eq_some_iff.mp h
    exact .inl client.isFlat_object
  · obtain ⟨property, -, rfl⟩ := Option.map_eq_some_iff.mp h
    exact .inl property.isFlat_object
  · obtain ⟨p, hp, rfl⟩ := Option.map_eq_some_iff.mp h
    exact .inr ⟨rfl, p, hp, rfl⟩
  · cases h

/-- No key is empty. -/
theorem facet?_empty_key (h : c.facet? facet = some object) : field? "" object = none := by
  unfold Context.facet? at h
  split at h
  · obtain ⟨company, -, rfl⟩ := Option.map_eq_some_iff.mp h
    simp [Company.object, Company.fields, Address.fields, field?_withDerived]
  · obtain ⟨client, -, rfl⟩ := Option.map_eq_some_iff.mp h
    simp [Client.object, Client.fields, Address.fields, field?_withDerived]
  · obtain ⟨property, -, rfl⟩ := Option.map_eq_some_iff.mp h
    simp [Property.object, Property.fields, Address.fields, field?_withDerived]
  · obtain ⟨p, -, rfl⟩ := Option.map_eq_some_iff.mp h
    simp [Proposal.object]
  · cases h

/-- A path that leads to something has more segments than the name of the facet, none empty. -/
theorem Context.Resolves.segments (h : c.Resolves (facet :: path) text) :
    path ≠ [] ∧ ∀ segment ∈ path, segment ≠ "" := by
  cases h with
  | leaf hfacet hv hshows =>
    refine ⟨List.cons_ne_nil _ _, List.forall_mem_singleton.mpr ?_⟩
    -- an empty key would have been found
    rintro rfl
    rw [facet?_empty_key hfacet] at hv
    cases hv
  | @line position key _ _ _ hline =>
    obtain ⟨i, item, v, hi, -, hv, -⟩ := hline
    -- an empty position is no numeral, and an empty key is none of a line
    have hposition : position ≠ "" := by
      rintro rfl
      cases hi
    have hkey : key ≠ "" := by
      rintro rfl
      simp [LineItem.object] at hv
    simp [hposition, hkey]

/-- What a path leads to is not blank. -/
theorem Context.Resolves.not_blank (h : c.Resolves path text) :
    Text.isBlankText text = false := by
  cases h with
  | leaf _ _ hshows => exact hshows.not_blank
  | line _ hline =>
    obtain ⟨_, _, _, -, -, -, hshows⟩ := hline
    exact hshows.not_blank

/-- A path goes on in the facet that it names, and what is shown there is what it leads to. -/
theorem at?_facet_iff (hfacet : c.facet? facet = some object) (rest : List String) :
    ((Json.object object).at? rest).bind Json.shown? = some text ↔
      c.Resolves (facet :: rest) text := by
  constructor
  · intro hshown
    rcases facet?_cases hfacet with hflat | ⟨rfl, p, hp, rfl⟩
    · obtain ⟨key, v, rfl, hv, hshows⟩ := (hflat.at?_shows rest).mp hshown
      exact .leaf hfacet hv hshows
    · rcases (p.at?_shows rest).mp hshown with ⟨key, v, rfl, hv, hshows⟩ | ⟨position, key, rfl, h⟩
      · exact .leaf hfacet hv hshows
      · exact .line hp h
  · intro h
    cases h with
    | @leaf _ key _ object' v hfacet' hv hshows =>
      obtain rfl : object' = object := Option.some.inj (hfacet'.symm.trans hfacet)
      rcases facet?_cases hfacet with hflat | ⟨-, p, -, rfl⟩
      · exact (hflat.at?_shows [key]).mpr ⟨key, v, rfl, hv, hshows⟩
      · exact (p.at?_shows [key]).mpr (.inl ⟨key, v, rfl, hv, hshows⟩)
    | @line position key _ p hp hline =>
      -- only the proposal has lines, so that the facet is this proposal
      obtain rfl : p.object = object := Option.some.inj ((facet?_proposal hp).symm.trans hfacet)
      exact (p.at?_shows ["voci", position, key]).mpr (.inr ⟨position, key, rfl, hline⟩)

/-- A path that leads to something names a facet that is there. -/
theorem Context.Resolves.exists_facet (h : c.Resolves (facet :: path) text) :
    ∃ object, c.facet? facet = some object := by
  cases h with
  | leaf hfacet _ _ => exact ⟨_, hfacet⟩
  | line hp _ => exact ⟨_, facet?_proposal hp⟩

/-- Without an empty segment, a path is followed in the facet. -/
theorem walk?_cons (hne : path ≠ []) (hsegments : ∀ segment ∈ path, segment ≠ "") :
    c.walk? (facet :: path) =
      (c.facet? facet).bind fun object => ((Json.object object).at? path).bind Json.shown? := by
  have hguard : (path.isEmpty || path.any (·.isEmpty)) = false := by
    simpa [String.isEmpty_iff] using And.intro hne hsegments
  exact if_neg (Bool.eq_false_iff.mp hguard)

/-- Following a path shows what it leads to, and nothing else. -/
theorem walk?_eq_some_iff : c.walk? path = some text ↔ c.Resolves path text := by
  cases path with
  | nil =>
    constructor
    · rintro ⟨⟩
    · rintro ⟨⟩
  | cons facet rest =>
    constructor
    · intro hwalk
      unfold Context.walk? at hwalk
      dsimp only at hwalk
      split at hwalk
      · cases hwalk
      · obtain ⟨object, hfacet, hat⟩ := Option.bind_eq_some_iff.mp hwalk
        exact (at?_facet_iff hfacet rest).mp hat
    · intro h
      obtain ⟨object, hfacet⟩ := h.exists_facet
      -- what leads to something has segments, and none of them is empty
      obtain ⟨hne, hsegments⟩ := h.segments
      rw [walk?_cons hne hsegments, hfacet]
      exact (at?_facet_iff hfacet rest).mpr h

/-- What is shown of the field of a facet is a leaf. -/
theorem facet_bind_shown?_iff (h : c.facet? facet = some object) :
    (field? key object).bind Json.shown? = some text ↔
      ∃ v, field? key object = some v ∧ v.Shows text := by
  rcases facet?_cases h with hflat | ⟨-, p, -, rfl⟩
  · exact bind_shown?_iff fun v hv => hflat.isLeaf hv
  · exact Proposal.bind_shown?_iff

/-- The records know a field of a facet just as its object does. -/
theorem datum?_facet (c : Context) (facet key : String) :
    (c.datum? [facet, key]).bind Datum.shown? =
      (c.facet? facet).bind fun object => (field? key object).bind Json.shown? := by
  unfold Context.facet?
  split
  · show (c.company.bind (·.datum? key)).bind Datum.shown? = _
    rw [Option.bind_assoc, Option.bind_map]
    exact congrArg _ (funext fun company => company.shown_datum? key)
  · show (c.client.bind (·.datum? key)).bind Datum.shown? = _
    rw [Option.bind_assoc, Option.bind_map]
    exact congrArg _ (funext fun client => client.shown_datum? key)
  · show (c.property.bind (·.datum? key)).bind Datum.shown? = _
    rw [Option.bind_assoc, Option.bind_map]
    exact congrArg _ (funext fun property => property.shown_datum? key)
  · show (c.proposal.bind (·.datum? key)).bind Datum.shown? = _
    rw [Option.bind_assoc, Option.bind_map]
    exact congrArg _ (funext fun p => p.shown_datum? key)
  · next hcompany hclient hproperty hproposal =>
    -- the name is that of no facet, for the records as well
    have hnone : c.datum? [facet, key] = none := by
      unfold Context.datum?
      split <;> simp_all
    rw [hnone]
    rfl

/-- The records know a field of a line just as its object does. -/
theorem datum?_line (c : Context) (position key : String) :
    (c.datum? ["proposta", "voci", position, key]).bind Datum.shown? = some text ↔
      ∃ p, c.proposal = some p ∧ p.ShowsLine position key text := by
  have hline : ∀ item : LineItem, (item.datum? key).bind Datum.shown? = some text ↔
      ∃ v, field? key item.object = some v ∧ v.Shows text := by
    intro item
    rw [item.shown_datum? key]
    exact bind_shown?_iff fun v hv => item.isFlat_object.isLeaf hv
  have hpath : c.datum? ["proposta", "voci", position, key] =
      c.proposal.bind fun p =>
        ((Text.numeral? 64 position.toList).bind (p.lines[·]?)).bind (·.datum? key) := rfl
  constructor
  · intro hshown
    rw [hpath, Option.bind_assoc] at hshown
    obtain ⟨p, hp, hshown⟩ := Option.bind_eq_some_iff.mp hshown
    rw [Option.bind_assoc, Option.bind_assoc] at hshown
    obtain ⟨i, hi, hshown⟩ := Option.bind_eq_some_iff.mp hshown
    obtain ⟨item, hitem, hshown⟩ := Option.bind_eq_some_iff.mp hshown
    obtain ⟨v, hv, hshows⟩ := (hline item).mp hshown
    exact ⟨p, hp, i, item, v, hi, hitem, hv, hshows⟩
  · rintro ⟨p, hp, i, item, v, hi, hitem, hv, hshows⟩
    -- the proposal, the numeral and the line are there one after the other
    rw [hpath, hp, Option.bind_some, hi, Option.bind_some, hitem, Option.bind_some]
    exact (hline item).mpr ⟨v, hv, hshows⟩

/-- Looking a path up in the records shows what it leads to, and nothing else. -/
theorem datum?_eq_some_iff :
    (c.datum? path).bind Datum.shown? = some text ↔ c.Resolves path text := by
  have hpair : ∀ facet key, (c.datum? [facet, key]).bind Datum.shown? = some text →
      c.Resolves [facet, key] text := by
    intro facet key hshown
    rw [datum?_facet] at hshown
    obtain ⟨object, hfacet, hfield⟩ := Option.bind_eq_some_iff.mp hshown
    obtain ⟨v, hv, hshows⟩ := (facet_bind_shown?_iff hfacet).mp hfield
    exact .leaf hfacet hv hshows
  constructor
  · intro hshown
    obtain ⟨d, hd, -⟩ := Option.bind_eq_some_iff.mp hshown
    -- the records know four facets with one key, and the lines
    unfold Context.datum? at hd
    split at hd
    · exact hpair _ _ hshown
    · exact hpair _ _ hshown
    · exact hpair _ _ hshown
    · exact hpair _ _ hshown
    · obtain ⟨p, hp, hline⟩ := (datum?_line c _ _).mp hshown
      exact .line hp hline
    · cases hd
  · intro h
    cases h with
    | leaf hfacet hv hshows =>
      rw [datum?_facet, hfacet]
      exact (facet_bind_shown?_iff hfacet).mpr ⟨_, hv, hshows⟩
    | line hp hline => exact (datum?_line c _ _).mpr ⟨_, hp, hline⟩

end Context

/-! ### Variables -/

/-- **The variables that have a text.** A variable has a text just if its path leads to one: to a
leaf of a facet that is there or to a leaf of a line of the proposal at a position that there is,
and the leaf is a text that is not blank, or a number. The text is then that text as it is, or that
of the number. It is never blank, and it is found by following the path in the facets written as
objects. -/
theorem variables_resolve_leaves (c : Context) (id : String) :
    (∀ text, c.resolve? id = some text ↔ c.Resolves (pathSegments id) text) ∧
      (∀ text, c.resolve? id = some text → Text.isBlankText text = false) ∧
      c.resolve? id = c.walk? (pathSegments id) := by
  have hiff : ∀ text, c.resolve? id = some text ↔ c.Resolves (pathSegments id) text :=
    fun text => datum?_eq_some_iff
  refine ⟨hiff, ?_, ?_⟩
  · intro text htext
    exact ((hiff text).mp htext).not_blank
  · exact Option.ext fun text => (hiff text).trans walk?_eq_some_iff.symm

/-- A field of the second line of a proposal, by its position. -/
theorem variables_resolve_leaves_line :
    let lines : List LineItem := [{ name := "Kit" }, { name := "Foto", total := some 120.5 }]
    let c : Context := { proposal := some { lines } }
    let id := " proposta.voci.+1.prezzo_totale "
    c.Resolves (pathSegments id) "120,5" ∧ c.resolve? id = some "120,5" ∧
      Text.isBlankText "120,5" = false ∧ c.walk? (pathSegments id) = some "120,5" := by
  intro lines c id
  have hpath : pathSegments id = ["proposta", "voci", "+1", "prezzo_totale"] := by decide +kernel
  have htext : numberText 120.5 = "120,5" := by decide +kernel
  have hshows : (Json.number (.double 120.5)).Shows "120,5" := by
    rw [← htext]
    exact .double (by decide +kernel)
  have hresolves : c.Resolves (pathSegments id) "120,5" := by
    rw [hpath]
    have hfinite : (Binary.ofFloat 120.5).isSome = true := by decide +kernel
    refine .line rfl ⟨1, _, _, by decide, rfl, ?_, hshows⟩
    simp [LineItem.object, Json.ofReal, Json.orNull, hfinite]
  have h := variables_resolve_leaves c id
  have hresolved : c.resolve? id = some "120,5" := (h.1 "120,5").mpr hresolves
  exact ⟨hresolves, hresolved, h.2.1 _ hresolved, h.2.2 ▸ hresolved⟩

end Letterhead
