import Letterhead.Context.Reading
import Letterhead.Proofs.Money.Display
import Letterhead.Variable

/-!
# A context as a tree of values

A variable names a value by its path in the context. One way to find it is by the records: each kind
of record knows its fields by name, and a path has one of two shapes. Another way is by the values:
a facet is written out as an object, with `null` for what is missing and with the full name and the
whole address as fields of their own, and the path is followed segment by segment, whatever it meets
there, to a value that is shown if it is a text or a number.

This module has the second way. It is told apart from the first in three points, each of which could
go wrong on its own: which fields are written and under which keys, where a path may lead, and what
a value shows.

* `Company.object`, `Client.object`, `Property.object`, `Proposal.object`, `LineItem.object` — the
  records as objects;
* `Context.facet?` — the facet of a name as an object;
* `Json.at?` — the value at a path;
* `Json.shown?` — what a value shows;
* `Json.IsLeaf`, `Json.Shows` — the values without parts, and what they show.
-/

namespace Letterhead

open Decimal

/-! ### Values that may be missing -/

/-- A value, or `null` in its place. -/
def Json.orNull {α : Type} (write : α → Json) : Option α → Json
  | some a => write a
  | none => .null

/-- A text, if there is one. -/
def Json.ofText (text : Option String) : Json :=
  .orNull .string text

/-- A natural number, if there is one. -/
def Json.ofCount (count : Option Nat) : Json :=
  .orNull (fun n => .number (.integer n)) count

/-- A number, if there is one. What is no number is written as nothing. -/
def Json.ofReal (number : Option Float) : Json :=
  .orNull (fun x => if (Binary.ofFloat x).isSome then .number (.double x) else .null) number

/-! ### Records as objects -/

/-- The fields of an address, which stand among those of the record it is in. -/
def Address.fields (a : Address) : Fields := [
  ("indirizzo", .ofText a.street),
  ("citta", .ofText a.city),
  ("cap", .ofText a.postcode),
  ("provincia", .ofText a.province)]

/-- An object with a field that is derived from others, if there is a text for it. A field of its
own goes first. -/
def withDerived (key : String) (text : Option String) (fields : Fields) : Fields :=
  match text with
  | some s => if (field? key fields).isSome then fields else fields ++ [(key, .string s)]
  | none => fields

/-- The fields of a company. Its own header and footer are not among them. -/
def Company.fields (c : Company) : Fields :=
  ("nome", .ofText c.name) :: (c.address.fields ++ [
    ("telefono", .ofText c.phone),
    ("email", .ofText c.email),
    ("sito_web", .ofText c.website),
    ("partita_iva", .ofText c.vatNumber),
    ("codice_fiscale", .ofText c.taxCode),
    ("colore_primario", .ofText c.primaryColor),
    ("colore_secondario", .ofText c.secondaryColor),
    ("font_titoli", .ofText c.headingFont),
    ("font_testo", .ofText c.bodyFont)])

/-- A company with its whole address. -/
def Company.object (c : Company) : Fields :=
  withDerived "indirizzo_completo" c.address.line c.fields

/-- The fields of a client. -/
def Client.fields (c : Client) : Fields :=
  ("nome", .ofText c.name) :: ("cognome", .ofText c.surname) :: (c.address.fields ++ [
    ("telefono", .ofText c.phone),
    ("email", .ofText c.email),
    ("codice_fiscale", .ofText c.taxCode),
    ("partita_iva", .ofText c.vatNumber)])

/-- A client with the full name and the whole address. -/
def Client.object (c : Client) : Fields :=
  withDerived "indirizzo_completo" c.address.line
    (withDerived "nome_completo" c.fullName c.fields)

/-- The fields of a property. -/
def Property.fields (p : Property) : Fields :=
  ("nome", .ofText p.name) :: (p.address.fields ++ [
    ("metri_quadri", .ofReal p.squareMetres),
    ("camere", .ofCount p.bedrooms),
    ("bagni", .ofCount p.bathrooms),
    ("posti_letto", .ofCount p.guests),
    ("codice_cir", .ofText p.regionalCode),
    ("codice_cin", .ofText p.nationalCode)])

/-- A property with its whole address. -/
def Property.object (p : Property) : Fields :=
  withDerived "indirizzo_completo" p.address.line p.fields

/-- A line item. Its name is always there. -/
def LineItem.object (i : LineItem) : Fields := [
  ("nome", .string i.name),
  ("descrizione", .ofText i.description),
  ("quantita", .ofReal i.quantity),
  ("prezzo_unitario", .ofReal i.unitPrice),
  ("prezzo_totale", .ofReal i.total),
  ("sconto_percentuale", .ofReal i.discountRate),
  ("commissione_percentuale", .ofReal i.commission),
  ("note", .ofText i.note)]

/-- The lines of a proposal, in order. -/
def Proposal.lineValues (p : Proposal) : List Json :=
  p.lines.map fun i => .object i.object

/-- A proposal with its lines. -/
def Proposal.object (p : Proposal) : Fields := [
  ("numero", .ofText p.number),
  ("data", .ofText p.date),
  ("subtotale", .ofReal p.subtotal),
  ("sconto", .ofReal p.discount),
  ("totale", .ofReal p.total),
  ("voci", .array p.lineValues)]

/-- The facet of a name, if it is there. -/
def Context.facet? (c : Context) (name : String) : Option Fields :=
  match name with
  | "azienda" => c.company.map Company.object
  | "cliente" => c.client.map Client.object
  | "proprieta" => c.property.map Property.object
  | "proposta" => c.proposal.map Proposal.object
  | _ => none

/-! A record is written under the names that it is read by. -/

example : (Context.companyFields (σ := Json)).map (·.name) =
    (Company.fields {}).map (·.1) ++ ["header_template", "footer_template"] := rfl
example : (Context.clientFields (σ := Json)).map (·.name) = (Client.fields {}).map (·.1) := rfl
example : (Context.propertyFields (σ := Json)).map (·.name) = (Property.fields {}).map (·.1) := rfl
example : (Context.itemFields (σ := Json)).map (·.name) = (LineItem.object {}).map (·.1) := rfl
example : (Context.proposalFields (σ := Json)).map (·.name) = (Proposal.object {}).map (·.1) := rfl

/-! ### Looking up a field -/

section Fields

variable (key name : String) (fields : Fields) (text : Option String)

/-- A derived field is found under its key, unless there is one of its own. -/
theorem field?_withDerived :
    field? key (withDerived name text fields) =
      (field? key fields).or (if key = name then text.map .string else none) := by
  unfold withDerived
  cases text with
  | none => simp
  | some s =>
    dsimp only
    split
    · next hown =>
      -- with a field of its own, nothing is added, and this field is the first to be found
      by_cases h : key = name
      · obtain ⟨own, hfield⟩ := Option.isSome_iff_exists.mp hown
        rw [h, hfield, Option.some_or]
      · rw [if_neg h, Option.or_none]
    · rw [field?_append, field?_cons, field?_nil, Option.map_some]

end Fields

/-! ### Following a path -/

/-- The value that a path leads to. A segment is a key of an object or a position in an array. -/
def Json.at? : Json → List String → Option Json
  | v, [] => some v
  | .object fields, key :: path => (Letterhead.field? key fields).bind (·.at? path)
  | .array items, position :: path =>
    ((Text.numeral? 64 position.toList).bind (items[·]?)).bind (·.at? path)
  | _, _ :: _ => none

theorem Json.at?_singleton (fields : Fields) (key : String) :
    (Json.object fields).at? [key] = Letterhead.field? key fields :=
  Option.bind_fun_some _

/-- What a value shows: a text that is not blank, a number, or a switch. -/
def Json.shown? : Json → Option String
  | .string s => if Text.isBlankText s then none else some s
  | .number (.integer n) => some (toString n)
  | .number (.double x) => some (numberText x) |>.filter (! ·.isEmpty)
  | .number (.single x) => some (numberText x.toFloat) |>.filter (! ·.isEmpty)
  | .bool true => some "Sì"
  | .bool false => some "No"
  | _ => none

/-- What the value at a path shows. The first segment names a facet, and there must be others, none
of which may be empty. -/
def Context.walk? (c : Context) (path : List String) : Option String :=
  match path with
  | [] => none
  | facet :: rest =>
    if rest.isEmpty || rest.any (·.isEmpty) then none
    else do
      let object ← c.facet? facet
      let v ← (Json.object object).at? rest
      v.shown?

/-! ### Leaves -/

/-- A value without parts that a field of a record may have. -/
inductive Json.IsLeaf : Json → Prop
  | null : IsLeaf .null
  | text (s : String) : IsLeaf (.string s)
  | integer (n : Int) : IsLeaf (.number (.integer n))
  | double (x : Float) : IsLeaf (.number (.double x))

/-- What a leaf shows: a text that is not blank shows itself, an integer its decimal, and a number
that is one its text. -/
inductive Json.Shows : Json → String → Prop
  | text {s : String} (h : Text.isBlankText s = false) : Shows (.string s) s
  | integer (n : Int) : Shows (.number (.integer n)) (toString n)
  | double {x : Float} (h : (Binary.ofFloat x).isSome = true) :
      Shows (.number (.double x)) (numberText x)

namespace Json

variable {v : Json} {text : String}

/-- What is shown is not blank. -/
theorem Shows.not_blank (h : v.Shows text) : Text.isBlankText text = false := by
  cases h with
  | text h => exact h
  | integer n => exact isBlankText_toString n
  | double h => exact isBlankText_numberText h

theorem shown?_string (s : String) (text : String) :
    (Json.string s).shown? = some text ↔ Text.isBlankText s = false ∧ s = text := by
  unfold shown?
  cases hblank : Text.isBlankText s with
  | true => simp [hblank]
  | false => simp [hblank]

theorem shown?_double (x : Float) (text : String) :
    (Json.number (.double x)).shown? = some text ↔
      (Binary.ofFloat x).isSome = true ∧ numberText x = text := by
  -- what is no number has no text, and only that
  have hshown : (!(numberText x).isEmpty) = (Binary.ofFloat x).isSome := by
    have hempty := isEmpty_numberText_iff x
    cases hsome : (Binary.ofFloat x).isSome with
    | true => simpa [hsome] using hempty
    | false => simpa [hsome] using hempty
  rw [shown?, Option.filter_some, hshown]
  cases (Binary.ofFloat x).isSome <;> simp

/-- A leaf shows what it is said to. -/
theorem IsLeaf.shown?_eq_some_iff (h : v.IsLeaf) : v.shown? = some text ↔ v.Shows text := by
  cases h with
  | null =>
    constructor
    · intro hnone
      cases hnone
    · intro hshows
      cases hshows
  | text s =>
    rw [shown?_string]
    constructor
    · rintro ⟨hblank, rfl⟩
      exact .text hblank
    · rintro ⟨hblank⟩
      exact ⟨hblank, rfl⟩
  | integer n =>
    constructor
    · rintro ⟨⟩
      exact .integer n
    · rintro ⟨⟩
      rfl
  | double x =>
    rw [shown?_double]
    constructor
    · rintro ⟨hsome, rfl⟩
      exact .double hsome
    · rintro ⟨⟩
      next hsome => exact ⟨hsome, rfl⟩

/-- A path ends at a leaf. -/
theorem IsLeaf.at?_cons (h : v.IsLeaf) (segment : String) (path : List String) :
    v.at? (segment :: path) = none := by
  cases h <;> rfl

theorem isLeaf_ofText (text : Option String) : (ofText text).IsLeaf := by
  cases text with
  | none => exact .null
  | some s => exact .text s

theorem isLeaf_ofCount (count : Option Nat) : (ofCount count).IsLeaf := by
  cases count with
  | none => exact .null
  | some n => exact .integer n

theorem isLeaf_ofReal (number : Option Float) : (ofReal number).IsLeaf := by
  cases number with
  | none => exact .null
  | some x =>
    show (if (Binary.ofFloat x).isSome then Json.number (.double x) else .null).IsLeaf
    split
    · exact .double x
    · exact .null

end Json

end Letterhead
