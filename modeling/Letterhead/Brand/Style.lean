import Letterhead.Brand.Fonts
import Letterhead.Context.Basic

/-!
# Brand style

A company's brand is two colours and two font families. Each is used if it is usable, and replaced
by its default by itself otherwise.

* `BrandStyle.ofContext` — the style that a context asks for;
* `BrandStyle.restrictTo` — the same with families that a registry knows.
-/

namespace Letterhead

/-- A colour: a hash sign and three or six hexadecimal digits. -/
abbrev Color := String

/-- The colours and families that a document is set with. -/
structure BrandStyle where
  primary : Color := "#1a1a1a"
  secondary : Color := "#666666"
  headingFont : String := defaultFont
  bodyFont : String := defaultFont
deriving DecidableEq, Repr

/-- Whether a character is a hexadecimal digit. -/
def isHexDigit (c : Char) : Bool :=
  c.isDigit || ('a' ≤ c && c ≤ 'f') || ('A' ≤ c && c ≤ 'F')

/-- Whether a text is a hash sign and three or six hexadecimal digits. -/
def isColor (cs : List Char) : Bool :=
  match cs with
  | '#' :: digits => (digits.length == 3 || digits.length == 6) && digits.all isHexDigit
  | _ => false

/-- A colour in lower case, if the text is one; otherwise the fallback. -/
def colorOr (value : Option String) (fallback : Color) : Color :=
  match value.map Text.trimmed with
  | some v => if isColor v.toList then Text.lowered v else fallback
  | none => fallback

/-- A text that shows something, trimmed; otherwise the fallback. -/
def textOr (value : Option String) (fallback : String) : String :=
  (value.bind Text.present).getD fallback

/-- The style that a company asks for. -/
def BrandStyle.ofCompany (c : Company) : BrandStyle :=
  let usual : BrandStyle := {}
  { primary := colorOr c.primaryColor usual.primary
    secondary := colorOr c.secondaryColor usual.secondary
    headingFont := textOr c.headingFont usual.headingFont
    bodyFont := textOr c.bodyFont usual.bodyFont }

/-- The style that a context asks for. -/
def BrandStyle.ofContext (c : Context) : BrandStyle :=
  match c.company with
  | some company => .ofCompany company
  | none => {}

/-- The style with the families that a registry has for it. -/
def BrandStyle.restrictTo (fonts : FontRegistry) (s : BrandStyle) : BrandStyle :=
  { s with headingFont := fonts.resolve s.headingFont, bodyFont := fonts.resolve s.bodyFont }

end Letterhead
