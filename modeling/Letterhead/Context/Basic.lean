import Letterhead.Template.Node
import Letterhead.Money.Amount

/-!
# The data a template is rendered against

A context holds up to four facets: the company that makes a proposal, its client, the property it
is about, and the proposal itself with its line items. Every facet and nearly every field may be
missing; what is missing shows as a placeholder or not at all.

* `Context`, `Company`, `Client`, `Property`, `Proposal`, `LineItem`, `Address` — the data;
* `Address.line`, `Client.fullName` — what is shown of several fields together;
* `LineItem.amount`, `LineItem.count`, `LineItem.discount` — the figures of a line, with their
  defaults.
-/

namespace Letterhead

/-- A postal address. -/
structure Address where
  street : Option String := none
  postcode : Option String := none
  city : Option String := none
  province : Option String := none

/-- The company: its brand, contacts and legal identifiers. -/
structure Company where
  name : Option String := none
  address : Address := {}
  phone : Option String := none
  email : Option String := none
  website : Option String := none
  vatNumber : Option String := none
  taxCode : Option String := none
  primaryColor : Option String := none
  secondaryColor : Option String := none
  headingFont : Option String := none
  bodyFont : Option String := none
  /-- A header of its own, in place of the usual one. -/
  header : Option Template := none
  /-- A footer of its own, in place of the usual one. -/
  footer : Option Template := none

/-- The client. -/
structure Client where
  name : Option String := none
  surname : Option String := none
  address : Address := {}
  phone : Option String := none
  email : Option String := none
  taxCode : Option String := none
  vatNumber : Option String := none

/-- The property that is let. -/
structure Property where
  name : Option String := none
  address : Address := {}
  squareMetres : Option Float := none
  bedrooms : Option Nat := none
  bathrooms : Option Nat := none
  guests : Option Nat := none
  /-- The code of the regional register. -/
  regionalCode : Option String := none
  /-- The code of the national register. -/
  nationalCode : Option String := none

/-- One service of a proposal. -/
structure LineItem where
  name : String := ""
  description : Option String := none
  quantity : Option Float := none
  unitPrice : Option Float := none
  total : Option Float := none
  /-- The discount that the total includes, in percent. -/
  discountRate : Option Float := none
  /-- The fee of a service that is paid by a share of the revenue, in percent. -/
  commission : Option Float := none
  note : Option String := none

/-- A proposal. -/
structure Proposal where
  number : Option String := none
  date : Option String := none
  subtotal : Option Float := none
  discount : Option Float := none
  total : Option Float := none
  lines : List LineItem := []

/-- Everything a template is rendered against. -/
structure Context where
  company : Option Company := none
  client : Option Client := none
  property : Option Property := none
  proposal : Option Proposal := none

/-! ### Combined fields -/

/-- The address on one line: the street, then postcode, city and the province in brackets. -/
def Address.line (a : Address) : Option String :=
  let province := (a.province.bind Text.present).map fun p => "(" ++ p ++ ")"
  let locality := Text.joinPresent " " [a.postcode, a.city, province]
  Text.joinPresent ", " [a.street, locality]

/-- Name and surname, or the one that is there. -/
def Client.fullName (c : Client) : Option String :=
  Text.joinPresent " " [c.name, c.surname]

/-! ### Figures of a line -/

namespace LineItem

/-- How many; one if it is not said. -/
def count (item : LineItem) : Float :=
  item.quantity.getD 1.0

/-- The price of the line; nothing if it is not said. -/
def amount (item : LineItem) : Float :=
  item.total.getD 0.0

/-- The discount, if there is one. -/
def discount (item : LineItem) : Option Float :=
  item.discountRate.filter Amount.isPositive

end LineItem

end Letterhead
