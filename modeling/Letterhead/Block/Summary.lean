import Letterhead.Context.Basic
import Letterhead.Money.Display
import Letterhead.Template.Config

/-!
# Summaries of company, client and property

A summary is a title and labelled lines, each of which is there if the context has something to
show for it and the block's settings do not switch its group off.

* `companySummary`, `clientSummary`, `propertySummary` — the summary of a facet; that of a missing
  facet is empty.
-/

namespace Letterhead

/-- A labelled line. -/
structure SummaryLine where
  label : String
  value : String
deriving DecidableEq, Repr

/-- A title and labelled lines. -/
structure Summary where
  title : Option String := none
  lines : List SummaryLine := []
deriving DecidableEq, Repr

/-- Whether there is nothing to show. -/
def Summary.isEmpty (s : Summary) : Bool :=
  s.title.isNone && s.lines.isEmpty

/-- A line for each label that has a value. -/
def labelled (values : List (String × Option String)) : List SummaryLine :=
  values.filterMap fun (label, value) => value.map (SummaryLine.mk label)

/-- The lines of a group, unless the settings switch it off. -/
def group (config : BlockConfig) (key : String) (values : List (String × Option String)) :
    List SummaryLine :=
  if config.flag key true then labelled values else []

/-- A value that shows something, trimmed. -/
def shown (value : Option String) : Option String :=
  value.bind Text.present

/-- The summary of the company. -/
def companySummary (config : BlockConfig) (ctx : Context) : Summary :=
  match ctx.company with
  | none => {}
  | some c =>
    { title := shown c.name
      lines :=
        group config "showAddress" [("Address", c.address.line)] ++
        group config "showContacts"
          [("Phone", shown c.phone), ("Email", shown c.email), ("Website", shown c.website)] ++
        group config "showPiva" [("VAT number", shown c.vatNumber)] ++
        group config "showCf" [("Tax code", shown c.taxCode)] }

/-- The summary of the client. -/
def clientSummary (config : BlockConfig) (ctx : Context) : Summary :=
  match ctx.client with
  | none => {}
  | some c =>
    { title := c.fullName
      lines :=
        group config "showAddress" [("Address", c.address.line)] ++
        group config "showContacts" [("Phone", shown c.phone), ("Email", shown c.email)] ++
        group config "showCf" [("Tax code", shown c.taxCode)] ++
        group config "showPiva" [("VAT number", shown c.vatNumber)] }

/-- The area of a property, if it has one. -/
def areaText (squareMetres : Option Float) : Option String :=
  (squareMetres.filter Amount.isPositive).map fun m => numberText m ++ " m²"

/-- The summary of the property. -/
def propertySummary (config : BlockConfig) (ctx : Context) : Summary :=
  match ctx.property with
  | none => {}
  | some p =>
    { title := shown p.name
      lines :=
        group config "showAddress" [("Address", p.address.line)] ++
        group config "showDetails"
          [("Size", areaText p.squareMetres), ("Bedrooms", p.bedrooms.map toString),
            ("Bathrooms", p.bathrooms.map toString), ("Max guests", p.guests.map toString)] ++
        group config "showCodes" [("CIR", shown p.regionalCode), ("CIN", shown p.nationalCode)] }

end Letterhead
