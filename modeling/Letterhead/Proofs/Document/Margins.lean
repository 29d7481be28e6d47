import Letterhead.Document.Stationery

/-!
# Header and footer stand apart from the body

The templates of a company's own header and footer are part of the context, and the walk over a
body hands the whole context to every variable and every dynamic block. Yet these two templates show
in the header and the footer only. The walk reads a context by the texts of variables and by the
data of dynamic blocks, and none of these comes from a header or a footer.

* `Context.ReadsAlike` — contexts of which the walk reads the same;
* `Scope.render_congr` — the walk over a template in two such contexts;
* `Context.withHeader`, `Context.withFooter` — a context whose company has another header or footer;
* `Context.readsAlike_withHeader`, `Context.readsAlike_withFooter` — the walk does not read them;
* `Template.margins_apart` — body, header and footer do not depend on each other.
-/

namespace Letterhead

/-! ### What the walk reads of a context -/

/-- Contexts that give every variable the same text and every dynamic block the same data. -/
structure Context.ReadsAlike (c c' : Context) : Prop where
  texts : ∀ id, c.resolve? id = c'.resolve? id
  blocks : ∀ name config, BlockData.resolve name config c = BlockData.resolve name config c'

section Walk

variable {c c' : Context} {style : BrandStyle} {place : Place}

theorem Context.ReadsAlike.trans {c'' : Context} (h : c.ReadsAlike c') (h' : c'.ReadsAlike c'') :
    c.ReadsAlike c'' where
  texts id := (h.texts id).trans (h'.texts id)
  blocks name config := (h.blocks name config).trans (h'.blocks name config)

theorem variableRun_congr (h : c.ReadsAlike c') (id : String) (label : Option String) :
    variableRun c id label = variableRun c' id label := by
  unfold variableRun
  rw [h.texts]

theorem blockElements_congr (h : c.ReadsAlike c') (style : BrandStyle) (name : String)
    (config : BlockConfig) :
    blockElements style c name config = blockElements style c' name config := by
  unfold blockElements
  rw [h.blocks]

mutual

theorem Node.runs_congr (h : c.ReadsAlike c') : (node : Node) → node.runs c = node.runs c'
  | .text .. | .hardBreak | .document _ | .paragraph .. | .heading .. | .bulletList _
  | .orderedList .. | .listItem _ | .blockquote _ | .horizontalRule | .dynamicBlock .. => by
    rw [Node.runs, Node.runs]
  | .variable id label => by
    rw [Node.runs, Node.runs, variableRun_congr h]
  | .unknown _ content => by
    rw [Node.runs, Node.runs, runsOf_congr h content]

theorem runsOf_congr (h : c.ReadsAlike c') : (nodes : List Node) → runsOf c nodes = runsOf c' nodes
  | [] => by
    rw [runsOf, runsOf]
  | node :: rest => by
    rw [runsOf, runsOf, Node.runs_congr h node, runsOf_congr h rest]

end

namespace Scope

theorem soleParagraph?_congr (h : c.ReadsAlike c') (content : List Node) :
    soleParagraph? ⟨c, style, place⟩ content = soleParagraph? ⟨c', style, place⟩ content := by
  unfold soleParagraph?
  split
  · rw [runsOf_congr h]
    rfl
  · rfl

mutual

theorem elements_congr (h : c.ReadsAlike c') :
    (node : Node) → elements ⟨c, style, place⟩ node = elements ⟨c', style, place⟩ node
  | .document content => by
    rw [elements, elements]
    exact flow_congr_context h _ [] content
  | .paragraph align content => by
    rw [elements, elements]
    split
    · unfold inlineParagraph
      rw [runsOf_congr h]
      rfl
    · exact congrArg (fun es => [Element.box {} es]) (flow_congr_context h _ [] content)
  | .heading level align content => by
    rw [elements, elements, runsOf_congr h]
    rfl
  | .bulletList items => by
    rw [elements, elements, listItems_congr h none 0 items]
  | .orderedList start items => by
    rw [elements, elements, listItems_congr h _ 0 items]
  | .listItem content => by
    rw [elements, elements, soleParagraph?_congr h]
    split
    · rfl
    · exact flow_congr_context h _ [] content
  | .blockquote content => by
    rw [elements, elements]
    exact congrArg (fun es => [Element.box quotationStyle (quotedElements es)])
      (flow_congr_context h _ [] content)
  | .horizontalRule => by
    rw [elements, elements]
    rfl
  -- the walk itself reads the context here, and at a variable
  | .dynamicBlock name config => by
    rw [elements, elements, blockElements_congr h]
  | .unknown _ content => by
    rw [elements, elements]
    exact flow_congr_context h _ [] content
  | .text text marks => by
    rw [elements, elements]
    rfl
  | .hardBreak => by
    rw [elements, elements]
    rfl
  | .variable id label => by
    rw [elements, elements, variableRun_congr h]
    rfl

theorem flow_congr_context (h : c.ReadsAlike c') (base : TextBlock) (pending : List Run) :
    (nodes : List Node) →
      flow ⟨c, style, place⟩ base pending nodes = flow ⟨c', style, place⟩ base pending nodes
  | [] => by
    rw [flow, flow]
  | node :: rest => by
    rw [flow, flow, Node.runs_congr h node]
    -- the runs that are pending are the same, whichever way the node goes
    split
    · exact flow_congr_context h base _ rest
    · rw [elements_congr h node, flow_congr_context h base [] rest]

theorem listItems_congr (h : c.ReadsAlike c') (first : Option Nat) (position : Nat) :
    (nodes : List Node) →
      listItems ⟨c, style, place⟩ first position nodes =
        listItems ⟨c', style, place⟩ first position nodes
  | [] => by
    rw [listItems, listItems]
  | node :: rest => by
    rw [listItems, listItems, Node.runs_congr h node, elements_congr h node,
      listItems_congr h first (position + 1) rest]
    rfl

end

/-- The walk over nodes puts out the same in contexts of which it reads the same. -/
theorem render_congr (h : c.ReadsAlike c') (nodes : List Node) :
    render ⟨c, style, place⟩ nodes = render ⟨c', style, place⟩ nodes := by
  unfold render
  exact flow_congr_context h _ [] nodes

end Scope

end Walk

/-! ### A company's own header and footer -/

/-- A company without a header and a footer of its own. -/
def Company.unheaded (company : Company) : Company :=
  { company with header := none, footer := none }

namespace Context

/-- A context whose company has no header and no footer of its own. -/
def unheaded (c : Context) : Context :=
  { c with company := c.company.map Company.unheaded }

/-- The context with another header of the company's own, or with none. -/
def withHeader (own : Option Template) (c : Context) : Context :=
  { c with company := c.company.map fun company => { company with header := own } }

/-- The context with another footer of the company's own, or with none. -/
def withFooter (own : Option Template) (c : Context) : Context :=
  { c with company := c.company.map fun company => { company with footer := own } }

variable {c c' : Context}

theorem unheaded_withHeader (own : Option Template) (c : Context) :
    (c.withHeader own).unheaded = c.unheaded := by
  unfold unheaded withHeader
  rw [Option.map_map]
  rfl

theorem unheaded_withFooter (own : Option Template) (c : Context) :
    (c.withFooter own).unheaded = c.unheaded := by
  unfold unheaded withFooter
  rw [Option.map_map]
  rfl

/-- Whatever is read of a company, other than its header and footer, is read of it without them. -/
theorem map_company_congr {α : Type} {read : Company → α}
    (hread : ∀ company, read company.unheaded = read company) (h : c.unheaded = c'.unheaded) :
    c.company.map read = c'.company.map read := by
  have hmap : ∀ c : Context, c.unheaded.company.map read = c.company.map read := by
    intro c
    have hcomp : read ∘ Company.unheaded = read := funext hread
    unfold unheaded
    rw [Option.map_map, hcomp]
  rw [← hmap c, h, hmap]

/-- A path leads to a field of the company, and neither the header nor the footer is one. -/
theorem datum?_unheaded (c : Context) (path : List String) :
    c.unheaded.datum? path = c.datum? path := by
  unfold datum? unheaded
  -- only a path into the company meets the difference
  split
  · cases c.company <;> rfl
  all_goals rfl

/-- No dynamic block shows the header or the footer. -/
theorem ofKind_unheaded (c : Context) (kind : BlockKind) (config : BlockConfig) :
    BlockData.ofKind kind config c.unheaded = BlockData.ofKind kind config c := by
  cases kind with
  | company =>
    have hsummary : companySummary config c.unheaded = companySummary config c := by
      unfold companySummary unheaded
      cases c.company <;> rfl
    exact congrArg BlockData.company hsummary
  | client | property | services | totals | validity | terms | signatures | note | separator => rfl

/-- The walk reads neither the header nor the footer of the company. -/
theorem readsAlike_of_unheaded (h : c.unheaded = c'.unheaded) : c.ReadsAlike c' where
  texts id := by
    unfold resolve?
    rw [← datum?_unheaded c, h, datum?_unheaded]
  blocks name config := by
    unfold BlockData.resolve
    congr 1
    funext kind
    rw [← ofKind_unheaded c, h, ofKind_unheaded]

/-- Nor does the brand. -/
theorem styleFor_of_unheaded (fonts : FontRegistry) (h : c.unheaded = c'.unheaded) :
    fonts.styleFor c = fonts.styleFor c' := by
  have hstyle : ∀ c : Context, BrandStyle.ofContext c.unheaded = BrandStyle.ofContext c := by
    intro c
    unfold BrandStyle.ofContext unheaded
    cases c.company <;> rfl
  unfold FontRegistry.styleFor
  rw [← hstyle c, h, hstyle]

end Context

/-! ### Documents -/

section Documents

variable {c c' : Context}

/-- The header does not depend on the company's own footer. -/
theorem Scope.header_congr (h : c.unheaded = c'.unheaded) (style : BrandStyle) (place : Place)
    (hown : c.company.bind (·.header) = c'.company.bind (·.header)) :
    header ⟨c, style, place⟩ = header ⟨c', style, place⟩ := by
  have husual : c.company.map (companyHeader style) = c'.company.map (companyHeader style) :=
    Context.map_company_congr (fun _ => rfl) h
  unfold header
  dsimp only
  rw [hown, husual]
  split
  · -- a header of the company's own is a template like any other
    exact render_congr (Context.readsAlike_of_unheaded h) _
  · rfl

/-- The footer does not depend on the company's own header. -/
theorem Scope.footer_congr (h : c.unheaded = c'.unheaded) (style : BrandStyle) (place : Place)
    (hown : c.company.bind (·.footer) = c'.company.bind (·.footer)) :
    footer ⟨c, style, place⟩ = footer ⟨c', style, place⟩ := by
  have husual : c.company.map (companyFooter style) = c'.company.map (companyFooter style) :=
    Context.map_company_congr (fun _ => rfl) h
  unfold footer
  dsimp only
  rw [hown, husual]
  split
  · exact render_congr (Context.readsAlike_of_unheaded h) _
  · rfl

namespace Template

variable (fonts : FontRegistry) (t : Template) (margins : Bool)

theorem body_congr (h : c.unheaded = c'.unheaded) :
    (t.render fonts c margins).body = (t.render fonts c' margins).body := by
  have hbody : Scope.render ⟨c, fonts.styleFor c', .body⟩ t.content =
      Scope.render ⟨c', fonts.styleFor c', .body⟩ t.content :=
    Scope.render_congr (Context.readsAlike_of_unheaded h) t.content
  unfold render renderIn
  dsimp only
  rw [Context.styleFor_of_unheaded fonts h, hbody]

theorem page_congr (h : c.unheaded = c'.unheaded) :
    (t.render fonts c margins).page = (t.render fonts c' margins).page := by
  unfold render renderIn
  rw [Context.styleFor_of_unheaded fonts h]

theorem header_congr (h : c.unheaded = c'.unheaded)
    (hown : c.company.bind (·.header) = c'.company.bind (·.header)) :
    (t.render fonts c margins).header = (t.render fonts c' margins).header := by
  unfold render renderIn
  dsimp only
  rw [Context.styleFor_of_unheaded fonts h, Scope.header_congr h _ _ hown]

theorem footer_congr (h : c.unheaded = c'.unheaded)
    (hown : c.company.bind (·.footer) = c'.company.bind (·.footer)) :
    (t.render fonts c margins).footer = (t.render fonts c' margins).footer := by
  unfold render renderIn
  dsimp only
  rw [Context.styleFor_of_unheaded fonts h, Scope.footer_congr h _ _ hown]

end Template

end Documents

/-- **Header and footer stay in the margins.** With other templates for the header and the footer
of the company's own, a template gives the same body on the same page. So it does with and without
the margins, which are there exactly if they are asked for. Another header leaves the footer as it
is, another footer the header, and another template for the body both. -/
theorem Template.margins_apart (fonts : FontRegistry) (t t' : Template) (c : Context)
    (own own' : Option Template) (margins : Bool) :
    let other := (c.withHeader own).withFooter own'
    ((t.render fonts other margins).body = (t.render fonts c margins).body ∧
        (t.render fonts other margins).page = (t.render fonts c margins).page) ∧
      ((t.render fonts c true).body = (t.render fonts c false).body ∧
        (t.render fonts c true).page = (t.render fonts c false).page) ∧
      ((t.render fonts c margins).header.isSome = margins ∧
        (t.render fonts c margins).footer.isSome = margins) ∧
      (t.render fonts (c.withHeader own) margins).footer = (t.render fonts c margins).footer ∧
      (t.render fonts (c.withFooter own') margins).header = (t.render fonts c margins).header ∧
      (t'.render fonts c margins).header = (t.render fonts c margins).header ∧
      (t'.render fonts c margins).footer = (t.render fonts c margins).footer := by
  intro other
  have hheader := Context.unheaded_withHeader own c
  have hfooter := Context.unheaded_withFooter own' c
  have hother : other.unheaded = c.unheaded := by
    rw [Context.unheaded_withFooter, hheader]
  refine ⟨⟨body_congr fonts t margins hother, page_congr fonts t margins hother⟩, ⟨rfl, rfl⟩,
    ⟨?_, ?_⟩, ?_, ?_, rfl, rfl⟩
  · cases margins <;> rfl
  · cases margins <;> rfl
  · -- the footer of the company's own is still the same
    refine footer_congr fonts t margins hheader ?_
    unfold Context.withHeader
    cases c.company <;> rfl
  · refine header_congr fonts t margins hfooter ?_
    unfold Context.withFooter
    cases c.company <;> rfl

end Letterhead
