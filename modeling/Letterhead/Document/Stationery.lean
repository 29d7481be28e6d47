import Letterhead.Document.Flow

/-!
# The whole document

A document is the body that a template gives, between a header and a footer. A company may have
templates of its own for these two; otherwise the header is its name and contacts above a rule in
its colour, and the footer its legal details below one.

* `Context.header`, `Context.footer` — the elements of the two;
* `Template.render`, `Template.renderAll` — the document of a context, and those of several.
-/

namespace Letterhead

/-! ### Header and footer -/

/-- The rule between the body and a header or footer. -/
def brandRule (style : BrandStyle) : Element :=
  .divider style.primary 1.5

/-- The usual header of a company. -/
def companyHeader (style : BrandStyle) (c : Company) : List Element :=
  let name := c.name.bind Text.present
  let contacts := Text.joinPresent " · " [c.phone, c.email, c.website]
  (name.map fun n => brandedLine style Size.subheading n).toList ++
    (contacts.map fun t => textElement [.plain t] style.secondary Size.small).toList

/-- The legal details of a company on one line. -/
def Company.legalLine (c : Company) : Option String :=
  let vat := (c.vatNumber.bind Text.present).map ("VAT " ++ ·)
  let tax := (c.taxCode.bind Text.present).map ("Tax code " ++ ·)
  Text.joinPresent " · " [c.name, c.address.line, vat, tax]

/-- The usual footer of a company. -/
def companyFooter (style : BrandStyle) (c : Company) : List Element :=
  (c.legalLine.map fun t => Element.text
    { runs := [.plain t], size := Size.small, align := .center, color := style.secondary }).toList

/-- The header: the company's own, or the usual one above a rule. -/
def Scope.header (scope : Scope) : List Element :=
  match scope.context.company.bind (·.header) with
  | some own => scope.render own.content
  | none =>
    ((scope.context.company.map (companyHeader scope.style)).getD []) ++ [brandRule scope.style]

/-- The footer: the company's own, or the usual one below a rule. -/
def Scope.footer (scope : Scope) : List Element :=
  match scope.context.company.bind (·.footer) with
  | some own => scope.render own.content
  | none =>
    brandRule scope.style :: (scope.context.company.map (companyFooter scope.style)).getD []

/-! ### Documents -/

/-- The style of a context with the families that are registered. -/
def FontRegistry.styleFor (fonts : FontRegistry) (context : Context) : BrandStyle :=
  (BrandStyle.ofContext context).restrictTo fonts

namespace Template

/-- The document of a context, in a style. -/
def renderIn (style : BrandStyle) (t : Template) (context : Context) (margins : Bool) :
    Document :=
  let margin : Scope := { context, style, place := .margin }
  let body : Scope := { context, style, place := .body }
  { page := { font := style.bodyFont }
    header := if margins then some ⟨true, margin.header⟩ else none
    body := ⟨false, body.render t.content⟩
    footer := if margins then some ⟨true, margin.footer⟩ else none }

/-- The document of a context: with header and footer if `margins` says so, and with the fonts
that are registered. -/
def render (fonts : FontRegistry) (t : Template) (context : Context) (margins : Bool := true) :
    Document :=
  renderIn (fonts.styleFor context) t context margins

/-- The documents of several contexts, in order. -/
def renderAll (fonts : FontRegistry) (t : Template) (contexts : List Context)
    (margins : Bool := true) : List Document :=
  contexts.map fun context => t.render fonts context margins

end Template

end Letterhead
