import Letterhead.Template.Reading
import Letterhead.Context.Basic

/-!
# Reading a context

Every record may be an object, whose unknown fields are passed over, or an array of its fields in
the order they are listed here. A missing field keeps its default; `null` stands for a missing value
where a value is optional, which the name of a line item and the list of line items are not.

* `Context.ofJson` — the context a value stands for;
* `Context.ofText` — the context a text holds, read from left to right;
* `ContextError.message?` — the text of an error; a text that is not JSON has none.
-/

namespace Letterhead

open Json

/-- What is wrong with a context. -/
inductive ContextError where
  | mismatch (cause : Mismatch)
  /-- An error in the company's own header or footer. -/
  | template (cause : TemplateError)

/-- The text of an error, unless the text read was not JSON. -/
def ContextError.message? : ContextError → Option String
  | .mismatch .notJson => none
  | .mismatch cause => some cause.message
  | .template cause => some cause.message

namespace Context

variable {σ : Type} [Source σ] {α : Type}

/-! ### Kinds of field -/

/-- An optional text. -/
def textField (name : String) (set : Option String → α → α) : Field σ ContextError α where
  name := name
  read s a := ((readOptional readText s).map (set · a)).mapError .mismatch

/-- An optional number. -/
def realField (name : String) (set : Option Float → α → α) : Field σ ContextError α where
  name := name
  read s a := ((readOptional readReal s).map (set · a)).mapError .mismatch

/-- An optional natural number of 32 bits. -/
def countField (name : String) (set : Option Nat → α → α) : Field σ ContextError α where
  name := name
  read s a := ((readOptional (readNatural 32) s).map (set · a)).mapError .mismatch

/-- A template. -/
def readTemplate (s : σ) : Except ContextError Template :=
  match Source.value? s with
  | some v => (Template.ofJson v).mapError .template
  | none => .error (.mismatch .notJson)

/-- An optional template. -/
def templateField (name : String) (set : Option Template → α → α) : Field σ ContextError α where
  name := name
  read s a := (readOptional readTemplate s).map (set · a)

/-- An optional record. -/
def recordField {β : Type} (name : String) (read : σ → Except ContextError β)
    (set : Option β → α → α) : Field σ ContextError α where
  name := name
  read s a := (readOptional read s).map (set · a)

/-! ### Records -/

/-- The fields of a company. -/
def companyFields : List (Field σ ContextError Company) := [
  textField "nome" fun v c => { c with name := v },
  textField "indirizzo" fun v c => { c with address.street := v },
  textField "citta" fun v c => { c with address.city := v },
  textField "cap" fun v c => { c with address.postcode := v },
  textField "provincia" fun v c => { c with address.province := v },
  textField "telefono" fun v c => { c with phone := v },
  textField "email" fun v c => { c with email := v },
  textField "sito_web" fun v c => { c with website := v },
  textField "partita_iva" fun v c => { c with vatNumber := v },
  textField "codice_fiscale" fun v c => { c with taxCode := v },
  textField "colore_primario" fun v c => { c with primaryColor := v },
  textField "colore_secondario" fun v c => { c with secondaryColor := v },
  textField "font_titoli" fun v c => { c with headingFont := v },
  textField "font_testo" fun v c => { c with bodyFont := v },
  templateField "header_template" fun v c => { c with header := v },
  templateField "footer_template" fun v c => { c with footer := v }]

/-- The fields of a client. -/
def clientFields : List (Field σ ContextError Client) := [
  textField "nome" fun v c => { c with name := v },
  textField "cognome" fun v c => { c with surname := v },
  textField "indirizzo" fun v c => { c with address.street := v },
  textField "citta" fun v c => { c with address.city := v },
  textField "cap" fun v c => { c with address.postcode := v },
  textField "provincia" fun v c => { c with address.province := v },
  textField "telefono" fun v c => { c with phone := v },
  textField "email" fun v c => { c with email := v },
  textField "codice_fiscale" fun v c => { c with taxCode := v },
  textField "partita_iva" fun v c => { c with vatNumber := v }]

/-- The fields of a property. -/
def propertyFields : List (Field σ ContextError Property) := [
  textField "nome" fun v p => { p with name := v },
  textField "indirizzo" fun v p => { p with address.street := v },
  textField "citta" fun v p => { p with address.city := v },
  textField "cap" fun v p => { p with address.postcode := v },
  textField "provincia" fun v p => { p with address.province := v },
  realField "metri_quadri" fun v p => { p with squareMetres := v },
  countField "camere" fun v p => { p with bedrooms := v },
  countField "bagni" fun v p => { p with bathrooms := v },
  countField "posti_letto" fun v p => { p with guests := v },
  textField "codice_cir" fun v p => { p with regionalCode := v },
  textField "codice_cin" fun v p => { p with nationalCode := v }]

/-- The name of a line item, which is a text. -/
def itemNameField : Field σ ContextError LineItem where
  name := "nome"
  read s item := ((readText s).map fun v => { item with name := v }).mapError .mismatch

/-- The fields of a line item. -/
def itemFields : List (Field σ ContextError LineItem) := [
  itemNameField,
  textField "descrizione" fun v i => { i with description := v },
  realField "quantita" fun v i => { i with quantity := v },
  realField "prezzo_unitario" fun v i => { i with unitPrice := v },
  realField "prezzo_totale" fun v i => { i with total := v },
  realField "sconto_percentuale" fun v i => { i with discountRate := v },
  realField "commissione_percentuale" fun v i => { i with commission := v },
  textField "note" fun v i => { i with note := v }]

/-- A line item. -/
def readItem (s : σ) : Except ContextError LineItem :=
  readRecord .mismatch "VoceProposta" itemFields {} s

/-- The line items of a proposal, which are a list. -/
def linesField : Field σ ContextError Proposal where
  name := "voci"
  read s p := (readList .mismatch readItem s).map fun v => { p with lines := v }

/-- The fields of a proposal. -/
def proposalFields : List (Field σ ContextError Proposal) := [
  textField "numero" fun v p => { p with number := v },
  textField "data" fun v p => { p with date := v },
  realField "subtotale" fun v p => { p with subtotal := v },
  realField "sconto" fun v p => { p with discount := v },
  realField "totale" fun v p => { p with total := v },
  linesField]

/-- A company. -/
def readCompany (s : σ) : Except ContextError Company :=
  readRecord .mismatch "Azienda" companyFields {} s

/-- A client. -/
def readClient (s : σ) : Except ContextError Client :=
  readRecord .mismatch "Cliente" clientFields {} s

/-- A property. -/
def readProperty (s : σ) : Except ContextError Property :=
  readRecord .mismatch "Proprieta" propertyFields {} s

/-- A proposal. -/
def readProposal (s : σ) : Except ContextError Proposal :=
  readRecord .mismatch "Proposta" proposalFields {} s

/-- The facets of a context. -/
def facetFields : List (Field σ ContextError Context) := [
  recordField "azienda" readCompany fun v c => { c with company := v },
  recordField "cliente" readClient fun v c => { c with client := v },
  recordField "proprieta" readProperty fun v c => { c with property := v },
  recordField "proposta" readProposal fun v c => { c with proposal := v }]

/-- A context, from any source. -/
def read (s : σ) : Except ContextError Context :=
  readRecord .mismatch "TemplateContext" facetFields {} s

end Context

/-- The context that a value stands for. -/
def Context.ofJson (v : Json) : Except ContextError Context :=
  Context.read v

/-- The context that a text holds. The first thing that is wrong from the left is reported. -/
def Context.ofText (text : String) : Except ContextError Context :=
  let (draft, atEnd) := Draft.ofText text
  match Context.read draft with
  | .error e => .error e
  | .ok c => if atEnd then .ok c else .error (.mismatch .notJson)

end Letterhead
