import Letterhead.Context.Basic
import Letterhead.Money.Display
import Letterhead.Text.Numeral

/-!
# Variables

A variable names a value of the context by a path: a facet and one of its fields, as in
`cliente.nome`, or, for the lines of a proposal, the position of a line and one of its fields, as in
`proposta.voci.0.nome`. A path that leads to no value that shows something is no error.

* `Company.datum?`, `Client.datum?`, `Property.datum?`, `Proposal.datum?`, `LineItem.datum?` — the
  value of a field by its name;
* `Context.resolve?` — the text that a path leads to.
-/

namespace Letterhead

/-- A single value of the context. -/
inductive Datum where
  | text (s : String)
  | count (n : Nat)
  | number (x : Float)

/-- A value as it is shown, if it shows something. -/
def Datum.shown? : Datum → Option String
  | .text s => if Text.isBlankText s then none else some s
  | .count n => some (toString n)
  | .number x =>
    let s := numberText x
    if s.isEmpty then none else some s

/-- The value of an address field, or the whole address. -/
def Address.datum? (a : Address) (field : String) : Option Datum :=
  match field with
  | "indirizzo" => a.street.map .text
  | "citta" => a.city.map .text
  | "cap" => a.postcode.map .text
  | "provincia" => a.province.map .text
  | "indirizzo_completo" => a.line.map .text
  | _ => none

/-- The value of a company's field. Its own header and footer are no values. -/
def Company.datum? (c : Company) (field : String) : Option Datum :=
  match field with
  | "nome" => c.name.map .text
  | "telefono" => c.phone.map .text
  | "email" => c.email.map .text
  | "sito_web" => c.website.map .text
  | "partita_iva" => c.vatNumber.map .text
  | "codice_fiscale" => c.taxCode.map .text
  | "colore_primario" => c.primaryColor.map .text
  | "colore_secondario" => c.secondaryColor.map .text
  | "font_titoli" => c.headingFont.map .text
  | "font_testo" => c.bodyFont.map .text
  | _ => c.address.datum? field

/-- The value of a client's field, or the full name. -/
def Client.datum? (c : Client) (field : String) : Option Datum :=
  match field with
  | "nome" => c.name.map .text
  | "cognome" => c.surname.map .text
  | "nome_completo" => c.fullName.map .text
  | "telefono" => c.phone.map .text
  | "email" => c.email.map .text
  | "codice_fiscale" => c.taxCode.map .text
  | "partita_iva" => c.vatNumber.map .text
  | _ => c.address.datum? field

/-- The value of a property's field. -/
def Property.datum? (p : Property) (field : String) : Option Datum :=
  match field with
  | "nome" => p.name.map .text
  | "metri_quadri" => p.squareMetres.map .number
  | "camere" => p.bedrooms.map .count
  | "bagni" => p.bathrooms.map .count
  | "posti_letto" => p.guests.map .count
  | "codice_cir" => p.regionalCode.map .text
  | "codice_cin" => p.nationalCode.map .text
  | _ => p.address.datum? field

/-- The value of a line item's field. -/
def LineItem.datum? (i : LineItem) (field : String) : Option Datum :=
  match field with
  | "nome" => some (.text i.name)
  | "descrizione" => i.description.map .text
  | "quantita" => i.quantity.map .number
  | "prezzo_unitario" => i.unitPrice.map .number
  | "prezzo_totale" => i.total.map .number
  | "sconto_percentuale" => i.discountRate.map .number
  | "commissione_percentuale" => i.commission.map .number
  | "note" => i.note.map .text
  | _ => none

/-- The value of a proposal's field. -/
def Proposal.datum? (p : Proposal) (field : String) : Option Datum :=
  match field with
  | "numero" => p.number.map .text
  | "data" => p.date.map .text
  | "subtotale" => p.subtotal.map .number
  | "sconto" => p.discount.map .number
  | "totale" => p.total.map .number
  | _ => none

/-- The line item at a position written in a path. -/
def Proposal.line? (p : Proposal) (position : String) : Option LineItem :=
  (Text.numeral? 64 position.toList).bind (p.lines[·]?)

/-- The segments of a path. -/
def pathSegments (id : String) : List String :=
  ((Text.trim id.toList).splitOn '.').map String.ofList

/-- The value that a path leads to. -/
def Context.datum? (c : Context) (path : List String) : Option Datum :=
  match path with
  | ["azienda", field] => c.company.bind (·.datum? field)
  | ["cliente", field] => c.client.bind (·.datum? field)
  | ["proprieta", field] => c.property.bind (·.datum? field)
  | ["proposta", field] => c.proposal.bind (·.datum? field)
  | ["proposta", "voci", position, field] => do
    let item ← (← c.proposal).line? position
    item.datum? field
  | _ => none

/-- The text of the variable that a path names. -/
def Context.resolve? (c : Context) (id : String) : Option String :=
  (c.datum? (pathSegments id)).bind Datum.shown?

end Letterhead
