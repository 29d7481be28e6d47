import Letterhead.Context.Reading
import Letterhead.Proofs.Json.Absence

/-!
# Null in a context

A context may say `null` where it has nothing to say: a field that holds `null` is no field, in
every record of the context. Two fields are not so. The line items of a proposal must be a list and
the name of a line item a text, and one `null` there rejects the whole context, although both may be
left out.

* `Record` — the records of a context with their fields;
* `Record.demand?` — what a field must be that may not be `null`;
* `Record.At` — where the records of a context stand;
* `Record.null_is_absent` — what `null` says in a record;
* `Context.null_is_absent_unless_demanded` — and what it says in a record of a context.
-/

namespace Letterhead

open Json

/-! ### Kinds of field -/

namespace Context

section Stored

variable {α : Type}

theorem textField_eq (name : String) (set : Option String → α → α) :
    textField name set =
      storedField name (fun s => (readOptional readText s).mapError .mismatch) set := by
  simp only [textField, storedField, mapError_map]

theorem realField_eq (name : String) (set : Option Float → α → α) :
    realField name set =
      storedField name (fun s => (readOptional readReal s).mapError .mismatch) set := by
  simp only [realField, storedField, mapError_map]

theorem countField_eq (name : String) (set : Option Nat → α → α) :
    countField name set =
      storedField name (fun s => (readOptional (readNatural 32) s).mapError .mismatch) set := by
  simp only [countField, storedField, mapError_map]

theorem templateField_eq (name : String) (set : Option Template → α → α) :
    templateField name set = storedField name (readOptional readTemplate) set := rfl

theorem recordField_eq {β : Type} (name : String) (read : Json → Except ContextError β)
    (set : Option β → α → α) :
    recordField name read set = storedField name (readOptional read) set := rfl

theorem itemNameField_eq : itemNameField =
    storedField "nome" (fun s => (readText s).mapError ContextError.mismatch)
      fun v (i : LineItem) => { i with name := v } := by
  simp only [itemNameField, storedField, mapError_map]

theorem linesField_eq : linesField =
    storedField "voci" (readList ContextError.mismatch readItem)
      fun v (p : Proposal) => { p with lines := v } := rfl

end Stored

end Context

/-! ### The records of a context -/

/-- The records of a context. -/
inductive Record where
  | context
  | company
  | client
  | property
  | proposal
  | lineItem

namespace Record

/-- What is read of a record. -/
abbrev Content : Record → Type
  | .context => Context
  | .company => Company
  | .client => Client
  | .property => Property
  | .proposal => Proposal
  | .lineItem => LineItem

/-- What a record holds when no field is given. -/
def empty : (kind : Record) → kind.Content
  | .context => {}
  | .company => {}
  | .client => {}
  | .property => {}
  | .proposal => {}
  | .lineItem => {}

/-- The fields of a record. -/
def fields : (kind : Record) → List (Field Json ContextError kind.Content)
  | .context => Context.facetFields
  | .company => Context.companyFields
  | .client => Context.clientFields
  | .property => Context.propertyFields
  | .proposal => Context.proposalFields
  | .lineItem => Context.itemFields

/-- The reader of a record. -/
def read : (kind : Record) → Json → Except ContextError kind.Content
  | .context => Context.read
  | .company => Context.readCompany
  | .client => Context.readClient
  | .property => Context.readProperty
  | .proposal => Context.readProposal
  | .lineItem => Context.readItem

/-- The names of the fields of a record. -/
def names (kind : Record) : List String :=
  kind.fields.map Field.name

/-- What a field must be that may not be `null`. -/
def demand? : Record → String → Option Expected
  | .proposal, "voci" => some .sequence
  | .lineItem, "nome" => some .text
  | _, _ => none

theorem read_eq (kind : Record) :
    ∃ name, kind.read = readRecord .mismatch name kind.fields kind.empty := by
  cases kind <;> exact ⟨_, rfl⟩

open Context in
theorem steady (kind : Record) : ∀ f ∈ kind.fields, f.Steady := by
  cases kind <;> dsimp only [fields] <;>
    simp only [facetFields, companyFields, clientFields, propertyFields, proposalFields, itemFields,
      textField_eq, realField_eq, countField_eq, templateField_eq, recordField_eq, itemNameField_eq,
      linesField_eq, storedField_steady, List.forall_mem_cons, List.not_mem_nil, false_implies,
      implies_true, and_true]

open Context in
theorem apart (kind : Record) : kind.fields.Pairwise Field.Apart := by
  cases kind <;> dsimp only [fields] <;>
    simp only [facetFields, companyFields, clientFields, propertyFields, proposalFields, itemFields,
      textField_eq, realField_eq, countField_eq, templateField_eq, recordField_eq, itemNameField_eq,
      linesField_eq, List.pairwise_cons, List.Pairwise.nil, List.forall_mem_cons, List.not_mem_nil,
      false_implies, implies_true, and_true] <;>
    and_intros <;> exact storedField_apart fun _ _ _ => rfl

open Context in
/-- For `null` a field leaves the record as it is when nothing was read before; but one of which
more is demanded rejects it. -/
theorem read_null (kind : Record) : ∀ f ∈ kind.fields,
    match kind.demand? f.name with
    | none => f.read .null kind.empty = .ok kind.empty
    | some e => ∀ r, f.read .null r = .error (.mismatch (.wrongType .null e)) := by
  cases kind <;> dsimp only [fields] <;>
    simp only [facetFields, companyFields, clientFields, propertyFields, proposalFields, itemFields,
      List.forall_mem_cons, List.not_mem_nil, false_implies, implies_true, and_true] <;>
    and_intros <;> first | rfl | exact fun _ => rfl

/-- What more is demanded of is a field of the record. -/
theorem exists_field_of_demand {kind : Record} {key : String} {e : Expected}
    (h : kind.demand? key = some e) : ∃ f, kind.fields.find? (·.name == key) = some f := by
  unfold demand? at h
  split at h
  · exact ⟨_, rfl⟩
  · exact ⟨_, rfl⟩
  · cases h

/-- **Null in a record.** A record that can be read can be read with a field less. If that field is
`null` instead, it is read just the same, unless something is demanded of it; then the `null` is
reported. -/
theorem null_is_absent (kind : Record) {key : String} {before after : Fields} {x : Json}
    {r : kind.Content} (h : kind.read (.object (before ++ (key, x) :: after)) = .ok r) :
    ∃ r', kind.read (.object (before ++ after)) = .ok r' ∧
      kind.read (.object (before ++ (key, .null) :: after)) =
        match kind.demand? key with
        | none => .ok r'
        | some e => .error (.mismatch (.wrongType .null e)) := by
  obtain ⟨name, hkind⟩ := kind.read_eq
  rw [hkind] at h ⊢
  obtain ⟨r', hremoved⟩ := exists_readRecord_remove kind.steady h
  refine ⟨r', hremoved, ?_⟩
  have hnull : ∀ f, kind.fields.find? (·.name == key) = some f →
      match kind.demand? key with
      | none => f.read .null kind.empty = .ok kind.empty
      | some e => ∀ r, f.read .null r = .error (.mismatch (.wrongType .null e)) := by
    intro f hf
    exact name_of_find? hf ▸ kind.read_null f (List.mem_of_find?_eq_some hf)
  cases hdemand : kind.demand? key with
  | none =>
    -- the field rests where nothing was read, and so wherever it stands among the others
    simp only [hdemand] at hnull
    have hkeys : ∀ f, kind.fields.find? (·.name == key) = some f →
        key ∉ (before ++ after).map Prod.fst :=
      fun f hf => not_mem_keys_of_readRecord kind.steady hf h
    rw [readRecord_null kind.apart fun f hf => ⟨hnull f hf, hkeys f hf⟩]
    exact hremoved
  | some e =>
    simp only [hdemand] at hnull
    obtain ⟨f, hf⟩ := exists_field_of_demand hdemand
    -- what comes before the field was read, so the first thing that is wrong is the field
    obtain ⟨r₀, rest, hrest⟩ := readRecord_field kind.steady hf (.named before after) ⟨r, h⟩
    rw [hrest .null, hnull f hf r₀]
    rfl

/-- The names under which the facets stand in a context. -/
def facetName? : Record → Option String
  | .company => some "azienda"
  | .client => some "cliente"
  | .property => some "proprieta"
  | .proposal => some "proposta"
  | .context | .lineItem => none

/-- Where the records of a context stand: the context itself, its facets, and the line items in the
list of a proposal. A record that holds others may be an object or an array. -/
inductive At : Record → (Json → Json) → Prop
  | root : At .context id
  | facet {kind : Record} {name : String} (hname : kind.facetName? = some name)
      {place : Json → Json} (hplace : FieldAt Record.context.names name place) : At kind place
  | line {place inner : Json → Json} (h : At .proposal place)
      (hinner : FieldAt Record.proposal.names "voci" inner) (before after : List Json) :
      At .lineItem (place ∘ inner ∘ fun s => .array (before ++ s :: after))

/-- A facet is read as a record of its kind. -/
theorem readsPart_facet {kind : Record} {name : String} (hname : kind.facetName? = some name)
    {place : Json → Json} (hplace : FieldAt Record.context.names name place) {x : Json}
    (h : ∃ c, Context.ofJson (place x) = .ok c) : ReadsPart Context.ofJson kind.read place := by
  have hsteady := Record.context.steady
  cases kind with
  | company =>
    cases hname
    exact readsPart_field hsteady rfl (readsPart_storedField (readsPart_optional _) _ _) hplace h
  | client =>
    cases hname
    exact readsPart_field hsteady rfl (readsPart_storedField (readsPart_optional _) _ _) hplace h
  | property =>
    cases hname
    exact readsPart_field hsteady rfl (readsPart_storedField (readsPart_optional _) _ _) hplace h
  | proposal =>
    cases hname
    exact readsPart_field hsteady rfl (readsPart_storedField (readsPart_optional _) _ _) hplace h
  | context | lineItem => cases hname

/-- Every record of a context is read as a record of its kind. -/
theorem At.readsPart {kind : Record} {place : Json → Json} (hat : kind.At place) {x : Json}
    (h : ∃ c, Context.ofJson (place x) = .ok c) : ReadsPart Context.ofJson kind.read place := by
  induction hat generalizing x with
  | root => exact .refl _
  | facet hname hplace => exact readsPart_facet hname hplace h
  | @line place inner _ hinner before after ih =>
    -- the item is a part of the list, this of the proposal, and this of the context
    have hproposal : ReadsPart Context.ofJson Context.readProposal place := ih h
    have hread := hproposal.exists_part_ok (hinner.ne_null _) h
    have hlines : ReadsPart Context.readProposal (readList .mismatch Context.readItem) inner :=
      readsPart_field Record.proposal.steady rfl (readsPart_storedField (.refl _) _ _) hinner hread
    have hlist := hlines.exists_part_ok Json.noConfusion hread
    exact hproposal.trans (hlines.trans (readsPart_item hlist) fun _ => Json.noConfusion)
      fun _ => hinner.ne_null _

end Record

namespace Context

/-- **Null in a context.** A context that can be read can be read with any field of any of its
records left out. With `null` in place of the field it is the same context, but for the line items
of a proposal and the name of a line item: there the `null` is reported, and there is no context. -/
theorem null_is_absent_unless_demanded {kind : Record} {place : Json → Json} (hat : kind.At place)
    {key : String} {before after : Fields} {x : Json} {c : Context}
    (h : Context.ofJson (place (.object (before ++ (key, x) :: after))) = .ok c) :
    ∃ c', Context.ofJson (place (.object (before ++ after))) = .ok c' ∧
      Context.ofJson (place (.object (before ++ (key, .null) :: after))) =
        match kind.demand? key with
        | none => .ok c'
        | some e => .error (.mismatch (.wrongType .null e)) := by
  have hpart := hat.readsPart ⟨c, h⟩
  obtain ⟨r, hr⟩ := hpart.exists_part_ok (by exact Json.noConfusion) ⟨c, h⟩
  obtain ⟨rest, hrest⟩ := hpart
  obtain ⟨r', hremoved, hnulled⟩ := kind.null_is_absent hr
  refine ⟨rest r', ?_, ?_⟩
  · rw [hrest _ (by exact Json.noConfusion), hremoved]
    rfl
  · rw [hrest _ (by exact Json.noConfusion), hnulled]
    cases kind.demand? key <;> rfl

/-- The note of a line item is `null`, and so there is none. -/
theorem null_is_absent_unless_demanded_note :
    let place : Json → Json := fun item =>
      .object [("proposta", .object [("numero", .string "12"), ("voci", .array [item])])]
    let written : LineItem → Context := fun item =>
      { proposal := some { number := some "12", lines := [item] } }
    let c := written { name := "a" }
    Record.At .lineItem place ∧
      Context.ofJson (place (.object [("nome", .string "a"), ("note", .string "b")])) =
        .ok (written { name := "a", note := some "b" }) ∧
      Context.ofJson (place (.object [("nome", .string "a")])) = .ok c ∧
      Context.ofJson (place (.object [("nome", .string "a"), ("note", .null)])) = .ok c := by
  intro place written c
  have hproposal : Record.At .proposal fun s => .object [("proposta", s)] :=
    .facet rfl (.named [] [])
  have hat : Record.At .lineItem place :=
    .line hproposal (.named [("numero", .string "12")] []) [] []
  have hread : Context.ofJson (place (.object [("nome", .string "a"), ("note", .string "b")])) =
      .ok (written { name := "a", note := some "b" }) := rfl
  obtain ⟨c', hremoved, hnulled⟩ :=
    @null_is_absent_unless_demanded _ _ hat "note" [("nome", .string "a")] [] _ _ hread
  have hc : c' = c := Except.ok.inj hremoved.symm
  exact ⟨hat, hread, hc ▸ hremoved, hc ▸ hnulled⟩

/-- A proposal may be given without a list of line items, but not with `null` for one. -/
theorem null_lines_rejected :
    let place : Json → Json := fun proposal => .object [("proposta", proposal)]
    Context.ofJson (place (.object [("voci", .array [])])) = .ok { proposal := some {} } ∧
      Context.ofJson (place (.object [])) = .ok { proposal := some {} } ∧
      Context.ofJson (place (.object [("voci", .null)])) =
        .error (.mismatch (.wrongType .null .sequence)) :=
  ⟨rfl, rfl, rfl⟩

end Context

end Letterhead
