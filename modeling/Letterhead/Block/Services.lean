import Letterhead.Context.Basic
import Letterhead.Text.Casing

/-!
# The services of a proposal

The line items of a proposal fall into three buckets by their names: the management of a property,
which is paid by a share of the revenue, the launch of its listing, which is a promotional bundle,
and everything else, the services that set it up. A setup service without a price is not shown.

* `ServiceCategory.ofName` — the bucket of a name;
* `listPrice` — the price before a discount that a total includes;
* `ServiceLine`, `ServiceTable` — what is shown of a line item, and of all of them.
-/

namespace Letterhead

/-- The buckets of services. -/
inductive ServiceCategory where
  | management
  | launch
  | setup
deriving DecidableEq, Repr

/-- Whether a text occurs in another. -/
def occursIn (needle : List Char) : List Char → Bool
  | [] => needle.isEmpty
  | c :: cs => needle.isPrefixOf (c :: cs) || occursIn needle cs

/-- The bucket of a service by its name, whatever its case. -/
def ServiceCategory.ofName (name : String) : ServiceCategory :=
  let name := Text.lower name.toList
  if occursIn "gestione online".toList name || occursIn "gestione completa".toList name then
    .management
  else if occursIn "lancio ota".toList name then .launch
  else .setup

/-- The price before a discount of `rate` percent that leaves `total`, rounded to a whole number. A
rate that is not between zero and one hundred leaves the total as it is. -/
def listPrice {α : Type} [Amount α] (total : α) (rate : Option α) : α :=
  match rate with
  | some d =>
    if Amount.isPositive d && Amount.less d (Amount.ofNat 100) then
      Amount.round (total / (Amount.ofNat 1 - d / Amount.ofNat 100))
    else total
  | none => total

/-- What is shown of a line item. -/
structure ServiceLine where
  name : String
  description : Option String
  quantity : Float
  unitPrice : Option Float
  /-- The price that is charged. -/
  total : Float
  /-- The price before the discount. -/
  listPrice : Float
  discount : Option Float
  /-- The fee of a management service, in percent. -/
  feeRate : Option Float
  note : Option String

/-- What is shown of a line item: the fee is its commission, or else its unit price, if that is
positive. -/
def ServiceLine.ofItem (item : LineItem) : ServiceLine where
  name := item.name
  description := item.description.bind Text.present
  quantity := item.count
  unitPrice := item.unitPrice
  total := item.amount
  listPrice := Letterhead.listPrice item.amount item.discount
  discount := item.discount
  feeRate := (item.commission.or item.unitPrice).filter Amount.isPositive
  note := item.note.bind Text.present

/-- The lines of a proposal by bucket. -/
structure ServiceTable where
  setup : List ServiceLine := []
  launch : List ServiceLine := []
  management : List ServiceLine := []

namespace ServiceTable

/-- The line items of a bucket. -/
def bucket (category : ServiceCategory) (items : List LineItem) : List LineItem :=
  items.filter fun item => ServiceCategory.ofName item.name == category

/-- The lines of a proposal by bucket, setup services without a positive total left out. -/
def ofItems (items : List LineItem) : ServiceTable where
  setup := ((bucket .setup items).map .ofItem).filter fun line => Amount.isPositive line.total
  launch := (bucket .launch items).map .ofItem
  management := (bucket .management items).map .ofItem

/-- Whether there is nothing to show. -/
def isEmpty (t : ServiceTable) : Bool :=
  t.setup.isEmpty && t.launch.isEmpty && t.management.isEmpty

/-- The sum of the totals of the setup services. -/
def setupSubtotal (t : ServiceTable) : Float :=
  Amount.sum (t.setup.map (·.total))

end ServiceTable

end Letterhead
