import Letterhead.Block.Data
import Letterhead.Document.Basic

/-!
# What a template is rendered in

* `Scope` — the context, the brand style, and the place on the page;
* `Scope.textColor`, `Scope.headingColor`, `Scope.ruleColor` — the colours of a place: the brand's
  in a header or footer, neutral ones in the body.
-/

namespace Letterhead

/-- A place on the page. -/
inductive Place where
  | body
  /-- The header or the footer. -/
  | margin
deriving DecidableEq, Repr

/-- What a template is rendered in. -/
structure Scope where
  context : Context
  style : BrandStyle
  place : Place

namespace Scope

/-- The colour of paragraphs. -/
def textColor (scope : Scope) : Color :=
  match scope.place with
  | .body => .ink
  | .margin => scope.style.secondary

/-- The colour of headings. -/
def headingColor (scope : Scope) : Color :=
  match scope.place with
  | .body => .ink
  | .margin => scope.style.primary

/-- The colour of rules. -/
def ruleColor (scope : Scope) : Color :=
  match scope.place with
  | .body => .rule
  | .margin => scope.style.primary

/-- A paragraph without text. -/
def paragraph (scope : Scope) (align : Align) : TextBlock :=
  { color := scope.textColor, align }

/-- A heading without text. -/
def heading (scope : Scope) (size : Float32) (align : Align) : TextBlock :=
  { size, color := scope.headingColor, align, font := some scope.style.headingFont, bold := true }

end Scope

end Letterhead
