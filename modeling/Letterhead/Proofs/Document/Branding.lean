import Letterhead.Proofs.Brand.Registry
import Letterhead.Proofs.Document.Parts

/-!
# Brand values are clean

What a company asks for as its colours and fonts is any text. Only colours in their normal form get
into a document, and only fonts that the registry gives for themselves.

* `IsHexColor`, `FontRegistry.Provides` — clean colours and fonts;
* `BrandStyle.Clean`, `FontRegistry.Built.clean_styleFor` — a style of clean values, and that the
  style of a context is one, whatever the company asks for;
* `Document.colors`, `Document.fontNames` — the colours and fonts anywhere in a document;
* `Part.Clean`, `Element.Clean`, `CleanElements` — parts and elements with clean values only;
* `clean_data` — dynamic blocks are clean in a clean style, each by the lemma of its kind;
* `Scope.clean_of_emits` — and so is all that the walk over a template puts out;
* `Template.colors_fonts_clean` — so that a document is.
-/

namespace Letterhead

/-! ### Clean values -/

/-- A colour in its normal form: a hash sign and three or six digits, those above nine in lower
case. -/
def IsHexColor (c : Color) : Prop :=
  ∃ digits : List Char, c.toList = '#' :: digits ∧ (digits.length = 3 ∨ digits.length = 6) ∧
    ∀ d ∈ digits, d ∈ "0123456789abcdef".toList

instance : DecidablePred IsHexColor := fun c =>
  decidable_of_iff
    (c.toList = '#' :: c.toList.tail ∧ (c.toList.tail.length = 3 ∨ c.toList.tail.length = 6) ∧
      c.toList.tail.all ("0123456789abcdef".toList.contains ·) = true)
    ⟨fun ⟨h, hlength, hdigits⟩ => ⟨c.toList.tail, h, hlength, fun d hd =>
        List.contains_iff_mem.mp (List.all_eq_true.mp hdigits d hd)⟩,
      fun ⟨digits, h, hlength, hdigits⟩ => by
        rw [h]
        exact ⟨rfl, hlength, List.all_eq_true.mpr fun d hd =>
          List.contains_iff_mem.mpr (hdigits d hd)⟩⟩

/-- A family that a registry knows by just this spelling. -/
def FontRegistry.Provides (fonts : FontRegistry) (family : String) : Prop :=
  fonts.contains family = true ∧ fonts.resolve family = family

/-- A hexadecimal digit is one of the sixteen in lower case. -/
theorem toLower_mem_of_isHexDigit {c : Char} (h : isHexDigit c = true) :
    c.toNat < 0x80 ∧ c.toLower ∈ "0123456789abcdef".toList := by
  have hascii : c.toNat < 0x80 := by
    simp only [isHexDigit, Char.isDigit, Bool.or_eq_true, Bool.and_eq_true, decide_eq_true_eq,
      Char.le_def, UInt32.le_iff_toNat_le, ge_iff_le] at h
    have hnat : c.toNat = c.val.toNat := rfl
    have h9 : '9'.val.toNat = 57 := rfl
    have hf : 'f'.val.toNat = 102 := rfl
    have hF : 'F'.val.toNat = 70 := rfl
    omega
  have heach : ∀ n < 0x80, isHexDigit (Char.ofNat n) = true →
      (Char.ofNat n).toLower ∈ "0123456789abcdef".toList := by decide +kernel
  have hc := heach c.toNat hascii
  rw [Char.ofNat_toNat] at hc
  exact ⟨hascii, hc h⟩

/-- A text that is a colour is a clean one in lower case. -/
theorem isHexColor_lowered {s : String} (h : isColor s.toList = true) :
    IsHexColor (Text.lowered s) := by
  unfold isColor at h
  split at h
  · next digits hs =>
    rw [Bool.and_eq_true, Bool.or_eq_true, beq_iff_eq, beq_iff_eq, List.all_eq_true] at h
    obtain ⟨hlength, hdigits⟩ := h
    have hhash : '#'.toNat < 0x80 ∧ '#'.toLower = '#' := by decide +kernel
    have hascii : ∀ c ∈ '#' :: digits, c.toNat < 0x80 :=
      List.forall_mem_cons.mpr
        ⟨hhash.1, fun c hc => (toLower_mem_of_isHexDigit (hdigits c hc)).1⟩
    refine ⟨digits.map Char.toLower, ?_, ?_, ?_⟩
    · rw [Text.lowered, String.toList_ofList, hs, Text.lower_of_ascii hascii, List.map_cons,
        hhash.2]
    · rw [List.length_map]
      exact hlength
    · intro d hd
      obtain ⟨c, hc, rfl⟩ := List.mem_map.mp hd
      exact (toLower_mem_of_isHexDigit (hdigits c hc)).2
  · cases h

/-- Whatever is asked for, a colour is clean if its fallback is. -/
theorem isHexColor_colorOr (value : Option String) {fallback : Color} (h : IsHexColor fallback) :
    IsHexColor (colorOr value fallback) := by
  unfold colorOr
  split
  · split
    · next hcolor => exact isHexColor_lowered hcolor
    · exact h
  · exact h

/-! ### Clean styles -/

/-- A style of clean colours and fonts. -/
structure BrandStyle.Clean (fonts : FontRegistry) (s : BrandStyle) : Prop where
  primary : IsHexColor s.primary
  secondary : IsHexColor s.secondary
  headingFont : fonts.Provides s.headingFont
  bodyFont : fonts.Provides s.bodyFont

/-- The colours that a context asks for are clean: a company's own, or the usual ones. -/
theorem BrandStyle.isHexColor_ofContext (context : Context) :
    IsHexColor (ofContext context).primary ∧ IsHexColor (ofContext context).secondary := by
  have hprimary : IsHexColor "#1a1a1a" := by decide +kernel
  have hsecondary : IsHexColor "#666666" := by decide +kernel
  unfold ofContext
  split
  · unfold ofCompany
    exact ⟨isHexColor_colorOr _ hprimary, isHexColor_colorOr _ hsecondary⟩
  · exact ⟨hprimary, hsecondary⟩

theorem FontRegistry.Built.provides_resolve {isFont : Array UInt8 → Bool} {fonts : FontRegistry}
    (h : Built isFont fonts) (family : String) : fonts.Provides (fonts.resolve family) :=
  ⟨h.contains_resolve family, h.resolve_resolve family⟩

/-- The style of a context is clean, whatever the company asks for. -/
theorem FontRegistry.Built.clean_styleFor {isFont : Array UInt8 → Bool} {fonts : FontRegistry}
    (h : Built isFont fonts) (context : Context) : (fonts.styleFor context).Clean fonts := by
  have hcolors := BrandStyle.isHexColor_ofContext context
  unfold styleFor BrandStyle.restrictTo
  constructor
  · exact hcolors.1
  · exact hcolors.2
  · dsimp only
    exact h.provides_resolve (BrandStyle.ofContext context).headingFont
  · dsimp only
    exact h.provides_resolve (BrandStyle.ofContext context).bodyFont

/-! ### The values in a document -/

/-- The colours of a run. -/
def Run.colors (r : Run) : List Color :=
  r.color.toList ++ r.background.toList

/-- The colours of a part. -/
def Part.colors : Part → List Color
  | .text b => b.color :: b.runs.flatMap Run.colors
  | .frame style => style.borderLeft.toList ++ style.border.toList ++ style.background.toList
  | .marker _ => []
  | .rule color => [color]
  | .cell c => c.background.toList ++ c.runs.flatMap Run.colors

/-- The fonts of a part. -/
def Part.fontNames : Part → List String
  | .text b => b.font.toList
  | .frame _ | .marker _ | .rule _ | .cell _ => []

/-- The header, the body and the footer, those that there are. -/
def Document.regions (d : Document) : List Region :=
  d.header.toList ++ d.body :: d.footer.toList

/-- The parts of a document. -/
def Document.parts (d : Document) : List Part :=
  d.regions.flatMap fun r => partsOf r.children

/-- The colours anywhere in a document. -/
def Document.colors (d : Document) : List Color :=
  d.page.color :: d.parts.flatMap Part.colors

/-- The fonts anywhere in a document. -/
def Document.fontNames (d : Document) : List String :=
  d.page.font :: d.parts.flatMap Part.fontNames

/-! ### Clean elements -/

/-- A run of clean colours. -/
def Run.Clean (r : Run) : Prop :=
  ∀ c ∈ r.colors, IsHexColor c

/-- A part of clean colours and fonts. -/
def Part.Clean (fonts : FontRegistry) (p : Part) : Prop :=
  (∀ c ∈ p.colors, IsHexColor c) ∧ ∀ f ∈ p.fontNames, fonts.Provides f

/-- An element all of whose parts are clean. -/
def Element.Clean (fonts : FontRegistry) (e : Element) : Prop :=
  ∀ part ∈ e.parts, part.Clean fonts

/-- Elements all of whose parts are. -/
def CleanElements (fonts : FontRegistry) (es : List Element) : Prop :=
  ∀ part ∈ partsOf es, part.Clean fonts

section Clean

variable {fonts : FontRegistry}

@[simp] theorem Run.clean_mk {text : String} {bold italic underline strike : Bool}
    {color background : Option Color} :
    (Run.mk text bold italic underline strike color background).Clean ↔
      (∀ c, color = some c → IsHexColor c) ∧ ∀ c, background = some c → IsHexColor c := by
  simp only [Run.Clean, Run.colors, List.forall_mem_append, Option.mem_toList]

theorem Part.clean_text {b : TextBlock} :
    (Part.text b).Clean fonts ↔
      IsHexColor b.color ∧ (∀ r ∈ b.runs, r.Clean) ∧ ∀ f, b.font = some f → fonts.Provides f := by
  simp only [Part.Clean, Part.colors, Part.fontNames, List.forall_mem_cons,
    List.forall_mem_flatMap, Option.mem_toList, Run.Clean, and_assoc]

/-- A part without a text sets no font. -/
theorem Part.clean_of_no_font {p : Part} (h : p.fontNames = []) :
    p.Clean fonts ↔ ∀ c ∈ p.colors, IsHexColor c := by
  rw [Part.Clean, h, and_iff_left (List.forall_mem_nil _)]

@[simp] theorem Part.clean_frame {style : BoxStyle} :
    (Part.frame style).Clean fonts ↔ (∀ c, style.borderLeft = some c → IsHexColor c) ∧
      (∀ c, style.border = some c → IsHexColor c) ∧
        ∀ c, style.background = some c → IsHexColor c := by
  rw [Part.clean_of_no_font rfl]
  simp only [Part.colors, List.forall_mem_append, Option.mem_toList, and_assoc]

@[simp] theorem Part.clean_marker {text : String} : (Part.marker text).Clean fonts := by
  rw [Part.clean_of_no_font rfl, Part.colors]
  exact List.forall_mem_nil _

@[simp] theorem Part.clean_rule {color : Color} :
    (Part.rule color).Clean fonts ↔ IsHexColor color := by
  rw [Part.clean_of_no_font rfl, Part.colors, List.forall_mem_singleton]

@[simp] theorem Part.clean_cell {c : Cell} :
    (Part.cell c).Clean fonts ↔
      (∀ b, c.background = some b → IsHexColor b) ∧ ∀ r ∈ c.runs, r.Clean := by
  rw [Part.clean_of_no_font rfl]
  simp only [Part.colors, List.forall_mem_append, List.forall_mem_flatMap, Option.mem_toList,
    Run.Clean]

@[simp] theorem Element.clean_text {b : TextBlock} :
    (Element.text b).Clean fonts ↔
      IsHexColor b.color ∧ (∀ r ∈ b.runs, r.Clean) ∧
        ∀ f, b.font = some f → fonts.Provides f := by
  rw [Element.Clean, Element.parts, List.forall_mem_singleton, Part.clean_text]

@[simp] theorem Element.clean_box {style : BoxStyle} {children : List Element} :
    (Element.box style children).Clean fonts ↔
      (Part.frame style).Clean fonts ∧ CleanElements fonts children := by
  rw [Element.Clean, Element.parts, List.forall_mem_cons, CleanElements]

@[simp] theorem Element.clean_divider {color : Color} {thickness : Float32} :
    (Element.divider color thickness).Clean fonts ↔ IsHexColor color := by
  rw [Element.Clean, Element.parts, List.forall_mem_singleton, Part.clean_rule]

@[simp] theorem Element.clean_table {columns : List Column} {rows : List (List Cell)} :
    (Element.table columns rows).Clean fonts ↔
      ∀ row ∈ rows, ∀ c ∈ row, (Part.cell c).Clean fonts := by
  simp only [Element.Clean, Element.parts, List.forall_mem_flatMap, List.forall_mem_map]

@[simp] theorem cleanElements_nil : CleanElements fonts [] := by
  rw [CleanElements, partsOf_nil]
  exact List.forall_mem_nil _

@[simp] theorem cleanElements_cons {e : Element} {es : List Element} :
    CleanElements fonts (e :: es) ↔ e.Clean fonts ∧ CleanElements fonts es := by
  rw [CleanElements, partsOf_cons, List.forall_mem_append, Element.Clean, CleanElements]

@[simp] theorem cleanElements_append {es fs : List Element} :
    CleanElements fonts (es ++ fs) ↔ CleanElements fonts es ∧ CleanElements fonts fs := by
  rw [CleanElements, partsOf_append, List.forall_mem_append, CleanElements, CleanElements]

/-- Elements that are built in one way are clean if that way gives clean ones. -/
theorem cleanElements_map {α : Type} {build : α → Element} (h : ∀ x, (build x).Clean fonts)
    (xs : List α) : CleanElements fonts (xs.map build) := by
  intro part hpart
  obtain ⟨x, -, hx⟩ := mem_partsOf_map.mp hpart
  exact h x part hx

theorem cleanElements_toList {α : Type} {build : α → Element} (h : ∀ x, (build x).Clean fonts)
    (x : Option α) : CleanElements fonts (x.map build).toList := by
  intro part hpart
  obtain ⟨a, -, ha⟩ := mem_partsOf_toList.mp hpart
  exact h a part ha

/-! ### Dynamic blocks -/

/-- The colours that do not depend on a brand are clean. -/
@[simp] theorem Color.isHexColor_neutral :
    IsHexColor ink ∧ IsHexColor muted ∧ IsHexColor rule ∧ IsHexColor placeholder ∧
      IsHexColor panel ∧ IsHexColor promotion := by
  decide +kernel

/-- And so are those of a note. -/
theorem NoteStyle.isHexColor_palette (s : NoteStyle) :
    IsHexColor s.palette.background ∧ IsHexColor s.palette.border ∧
      IsHexColor s.palette.text := by
  cases s <;> decide +kernel

@[simp] theorem Run.clean_plain (text : String) : (Run.plain text).Clean := by
  simp [Run.plain]

@[simp] theorem clean_boldRun (text : String) : (boldRun text).Clean := by
  simp [boldRun]

@[simp] theorem clean_italicRun (text : String) : (italicRun text).Clean := by
  simp [italicRun]

@[simp] theorem clean_struckPrice (price : Float) : (struckPrice price).Clean := by
  simp [struckPrice]

@[simp] theorem clean_textElement {runs : List Run} {color : Color} {size : Float32} :
    (textElement runs color size).Clean fonts ↔ IsHexColor color ∧ ∀ r ∈ runs, r.Clean := by
  simp [textElement]

@[simp] theorem SummaryLine.clean_element (line : SummaryLine) : line.element.Clean fonts := by
  simp [SummaryLine.element]

theorem clean_setupTable (t : ServiceTable) : (setupTable t).Clean fonts := by
  have hhead : ∀ c ∈ setupHead, (Part.cell c).Clean fonts := by simp [setupHead, headCell]
  have hsubtotal : ∀ c ∈ subtotalRow t.setupSubtotal, (Part.cell c).Clean fonts := by
    simp [subtotalRow]
  have hname : ∀ line, ∀ r ∈ setupName line, r.Clean := by
    intro line
    unfold setupName
    split <;> simp [Run.lineBreak]
  have htotal : ∀ line, ∀ r ∈ setupTotal line, r.Clean := by
    intro line
    unfold setupTotal
    split <;> simp
  have hrow : ∀ line, ∀ c ∈ setupRow line, (Part.cell c).Clean fonts := by
    intro line
    simpa [setupRow, ruledCell] using ⟨hname line, htotal line⟩
  rw [setupTable, Element.clean_table, List.forall_mem_cons, List.forall_mem_append,
    List.forall_mem_map, List.forall_mem_singleton]
  exact ⟨hhead, fun line _ => hrow line, hsubtotal⟩

theorem clean_clauseList (first : Nat) (clauses : List String) :
    (Element.list true (clauseItems first clauses)).Clean fonts := by
  unfold Element.Clean
  rw [Element.parts]
  induction clauses generalizing first with
  | nil =>
    rw [clauseItems, itemParts_nil]
    exact List.forall_mem_nil _
  | cons clause rest ih =>
    have hclause : CleanElements fonts [textElement [.plain clause] .ink Size.clause] := by simp
    rw [clauseItems, itemParts_cons, List.forall_mem_cons, List.forall_mem_append]
    exact ⟨Part.clean_marker, hclause, ih (first + 1)⟩

theorem clean_signatureTable (s : Signatures) : (signatureTable s).Clean fonts := by
  simp [signatureTable, ruledCell]

theorem clean_noteElements (n : Note) : CleanElements fonts (noteElements n) := by
  unfold noteElements
  split
  · obtain ⟨hback, hborder, htext⟩ := n.style.isHexColor_palette
    simp [hback, hborder, htext]
  · exact cleanElements_nil

section Blocks

variable {style : BrandStyle} (h : style.Clean fonts)

include h

theorem clean_brandedLine (size : Float32) (text : String) :
    (brandedLine style size text).Clean fonts := by
  simp [brandedLine, h.primary, h.headingFont]

theorem clean_companyElements (s : Summary) : CleanElements fonts (companyElements style s) := by
  unfold companyElements
  split
  · exact cleanElements_nil
  · have htitle := cleanElements_toList (clean_brandedLine h Size.heading) s.title
    have hlines : CleanElements fonts (s.lines.map SummaryLine.element) :=
      cleanElements_map SummaryLine.clean_element s.lines
    simp [htitle, hlines]

theorem clean_summaryElements (captionText : String) (s : Summary) :
    CleanElements fonts (summaryElements style captionText s) := by
  unfold summaryElements
  split
  · exact cleanElements_nil
  · have htitle : CleanElements fonts (s.title.map fun name => textElement [boldRun name]).toList :=
      cleanElements_toList (fun name => by simp) s.title
    have hlines : CleanElements fonts (s.lines.map SummaryLine.element) :=
      cleanElements_map SummaryLine.clean_element s.lines
    simp [caption, clean_brandedLine h, htitle, hlines]

theorem clean_launchPanel (line : ServiceLine) : (launchPanel style line).Clean fonts := by
  have hdescription : CleanElements fonts
      (extraText line.description fun d => textElement [.plain d]) :=
    cleanElements_toList (fun d => by simp) line.description
  have hnote : CleanElements fonts
      (extraText line.note fun n => textElement [italicRun n] .muted Size.small) :=
    cleanElements_toList (fun n => by simp) line.note
  have hprice : ∀ r ∈ launchPrice style line, r.Clean := by
    unfold launchPrice
    split <;> simp [h.primary]
  simpa [launchPanel, h.primary, hdescription, hnote] using hprice

theorem clean_feePanel (line : ServiceLine) : (feePanel style line).Clean fonts := by
  have hextra : ∀ text : Option String, CleanElements fonts
      (extraText text fun t => textElement [.plain t] .muted) :=
    cleanElements_toList fun t => by simp
  have hfee : ∀ r ∈ feeText style line, r.Clean := by
    unfold feeText
    split <;> simp [h.primary]
  simpa [feePanel, h.primary, hextra] using hfee

theorem clean_serviceElements (t : ServiceTable) :
    CleanElements fonts (serviceElements style t) := by
  have hlaunch := cleanElements_map (clean_launchPanel h) t.launch
  have hfees := cleanElements_map (clean_feePanel h) t.management
  unfold serviceElements
  split
  · simp
  · rw [cleanElements_append, cleanElements_append]
    refine ⟨⟨?_, hlaunch⟩, hfees⟩
    split
    · exact cleanElements_nil
    · simp [caption, clean_brandedLine h, clean_setupTable]

theorem clean_totalsTable (t : Totals) : (totalsTable style t).Clean fonts := by
  cases hd : t.discount <;> simp [totalsTable, totalsRow, Cell.plain, hd, h.primary]

/-- What a dynamic block shows is clean in a clean style. -/
theorem clean_data (data : BlockData) : CleanElements fonts (data.elements style) := by
  cases data with
  | company s => exact clean_companyElements h s
  | client s => exact clean_summaryElements h _ s
  | property s => exact clean_summaryElements h _ s
  | services t => exact clean_serviceElements h t
  | totals t => exact cleanElements_toList (clean_totalsTable h) t
  | validity v => simp [BlockData.elements]
  | terms clauses =>
    simp [BlockData.elements, termElements, caption, clean_brandedLine h, clean_clauseList]
  | signatures s => simp [BlockData.elements, clean_signatureTable]
  | note n => exact clean_noteElements n
  | separator => simp [BlockData.elements]

theorem clean_companyHeader (c : Company) : CleanElements fonts (companyHeader style c) := by
  unfold companyHeader
  rw [cleanElements_append]
  refine ⟨cleanElements_toList (clean_brandedLine h _) _, cleanElements_toList (fun t => ?_) _⟩
  simp [h.secondary]

theorem clean_companyFooter (c : Company) : CleanElements fonts (companyFooter style c) := by
  refine cleanElements_toList (fun t => ?_) _
  simp [h.secondary]

end Blocks

/-! ### Templates -/

mutual

theorem Node.clean_of_mem_runs {context : Context} :
    (node : Node) → ∀ r ∈ node.runs context, r.Clean
  | .text text marks => by
    rw [Node.runs]
    simp [textRun]
  | .hardBreak => by
    rw [Node.runs]
    simp [Run.lineBreak]
  | .variable id label => by
    rw [Node.runs, List.forall_mem_singleton, variableRun]
    split <;> simp [placeholderRun]
  | .unknown _ content => by
    rw [Node.runs]
    exact clean_of_mem_runsOf content
  | .document _ | .paragraph .. | .heading .. | .bulletList _ | .orderedList .. | .listItem _
  | .blockquote _ | .horizontalRule | .dynamicBlock .. => by
    rw [Node.runs]
    exact List.forall_mem_nil _

/-- The runs of a template set no colour but the fill of a placeholder. -/
theorem clean_of_mem_runsOf {context : Context} :
    (nodes : List Node) → ∀ r ∈ runsOf context nodes, r.Clean
  | [] => by
    rw [runsOf]
    exact List.forall_mem_nil _
  | node :: rest => by
    rw [runsOf, List.forall_mem_append]
    exact ⟨Node.clean_of_mem_runs node, clean_of_mem_runsOf rest⟩

end

/-- A quotation mutes text and changes no other colour. -/
theorem Part.clean_quoted {p : Part} (h : p.Clean fonts) : p.quoted.Clean fonts := by
  have hruns : ∀ r : Run, r.Clean → r.quoted.Clean := fun r hr => hr
  cases p with
  | text b =>
    obtain ⟨-, hb, hfont⟩ := Part.clean_text.mp h
    exact Part.clean_text.mpr
      ⟨Color.isHexColor_neutral.2.1, List.forall_mem_map.mpr fun r hr => hruns r (hb r hr), hfont⟩
  | cell c =>
    obtain ⟨hback, hc⟩ := Part.clean_cell.mp h
    exact Part.clean_cell.mpr ⟨hback, List.forall_mem_map.mpr fun r hr => hruns r (hc r hr)⟩
  | frame style => exact h
  | marker m => exact h
  | rule color => exact h

namespace Scope

variable {scope : Scope}

/-- The colours of a place are clean in a clean style: they are the brand's or neutral ones. -/
theorem isHexColor_place (h : scope.style.Clean fonts) :
    IsHexColor scope.textColor ∧ IsHexColor scope.headingColor ∧ IsHexColor scope.ruleColor := by
  unfold textColor headingColor ruleColor
  cases scope.place with
  | body => simp
  | margin => exact ⟨h.secondary, h.primary, h.primary⟩

/-- All that the walk puts out is clean in a clean style. -/
theorem clean_of_emits (h : scope.style.Clean fonts) {part : Part} (hpart : scope.Emits part) :
    part.Clean fonts := by
  obtain ⟨htext, hheading, hrule⟩ := isHexColor_place h
  -- paragraphs and headings hold the runs of nodes only, which set no colour of the brand
  have hnodes : ∀ runs : List Run,
      (∀ r ∈ runs, ∃ node : Node, r ∈ node.runs scope.context) → ∀ r ∈ runs, r.Clean := by
    intro runs hruns r hr
    obtain ⟨node, hnode⟩ := hruns r hr
    exact node.clean_of_mem_runs r hnode
  induction hpart with
  | paragraph align runs hruns =>
    exact Part.clean_text.mpr ⟨htext, hnodes runs hruns, fun f hf => by cases hf⟩
  | heading size align runs hruns =>
    refine Part.clean_text.mpr ⟨hheading, hnodes runs hruns, fun f hf => ?_⟩
    rw [← Option.some.inj hf]
    exact h.headingFont
  | marker first position => exact Part.clean_marker
  | container => simp
  | quotation => simp [quotationStyle]
  | rule => exact Part.clean_rule.mpr hrule
  | block name config hmem =>
    unfold blockElements at hmem
    split at hmem
    · next data _ => exact clean_data h data _ hmem
    · exact absurd hmem List.not_mem_nil
  | quoted _ ih => exact Part.clean_quoted ih

theorem clean_render (h : scope.style.Clean fonts) (nodes : List Node) :
    CleanElements fonts (scope.render nodes) :=
  fun part hpart => clean_of_emits h (emits_of_mem_render part hpart)

theorem clean_header (h : scope.style.Clean fonts) : CleanElements fonts scope.header := by
  unfold header
  split
  · exact clean_render h _
  · rw [cleanElements_append]
    constructor
    · cases scope.context.company with
      | none => exact cleanElements_nil
      | some company => exact clean_companyHeader h company
    · simp [brandRule, h.primary]

theorem clean_footer (h : scope.style.Clean fonts) : CleanElements fonts scope.footer := by
  unfold footer
  split
  · exact clean_render h _
  · rw [cleanElements_cons]
    constructor
    · simp [brandRule, h.primary]
    · cases scope.context.company with
      | none => exact cleanElements_nil
      | some company => exact clean_companyFooter h company

end Scope

end Clean

/-- A document has clean values only if its page and its regions have. -/
theorem Document.colors_fonts_clean_iff {fonts : FontRegistry} {d : Document} :
    ((∀ c ∈ d.colors, IsHexColor c) ∧ ∀ f ∈ d.fontNames, fonts.Provides f) ↔
      (IsHexColor d.page.color ∧ fonts.Provides d.page.font) ∧
        ∀ r ∈ d.regions, CleanElements fonts r.children := by
  have hparts : (∀ r ∈ d.regions, CleanElements fonts r.children) ↔
      ∀ part ∈ d.parts, part.Clean fonts := List.forall_mem_flatMap.symm
  rw [hparts, colors, fontNames, List.forall_mem_cons, List.forall_mem_cons,
    List.forall_mem_flatMap, List.forall_mem_flatMap]
  constructor
  · rintro ⟨⟨hcolor, hcolors⟩, hfont, hfonts⟩
    exact ⟨⟨hcolor, hfont⟩, fun part hpart => ⟨hcolors part hpart, hfonts part hpart⟩⟩
  · rintro ⟨⟨hcolor, hfont⟩, hparts⟩
    exact ⟨⟨hcolor, fun part hpart => (hparts part hpart).1⟩,
      hfont, fun part hpart => (hparts part hpart).2⟩

namespace Template

/-- **Brand values.** Whatever a company asks for, every colour in a document is a hash sign and
three or six digits in lower case, and every font is one that the registry knows by just this
spelling. -/
theorem colors_fonts_clean {isFont : Array UInt8 → Bool} {fonts : FontRegistry}
    (h : FontRegistry.Built isFont fonts) (t : Template) (context : Context) (margins : Bool) :
    (∀ c ∈ (t.render fonts context margins).colors, IsHexColor c) ∧
      ∀ f ∈ (t.render fonts context margins).fontNames, fonts.Provides f := by
  have hstyle := h.clean_styleFor context
  unfold render renderIn
  generalize fonts.styleFor context = style at hstyle ⊢
  rw [Document.colors_fonts_clean_iff]
  refine ⟨⟨Color.isHexColor_neutral.1, hstyle.bodyFont⟩, ?_⟩
  have hbody : CleanElements fonts (Scope.render ⟨context, style, .body⟩ t.content) :=
    Scope.clean_render hstyle t.content
  have hheader : CleanElements fonts (Scope.header ⟨context, style, .margin⟩) :=
    Scope.clean_header hstyle
  have hfooter : CleanElements fonts (Scope.footer ⟨context, style, .margin⟩) :=
    Scope.clean_footer hstyle
  cases margins with
  | false => exact List.forall_mem_singleton.mpr hbody
  | true =>
    exact List.forall_mem_cons.mpr
      ⟨hheader, List.forall_mem_cons.mpr ⟨hbody, List.forall_mem_singleton.mpr hfooter⟩⟩

/-- A colour in upper case between blanks, something that is no colour, and a family in another
spelling. -/
theorem colors_fonts_clean_registered :
    let fonts := FontRegistry.insert {} "Comic Neue"
    let company : Company :=
      { name := some "Acme", primaryColor := some " #ABC ", secondaryColor := some "red; x:y",
        headingFont := some "COMIC neue ", bodyFont := some "Arial" }
    let document := Template.render fonts ⟨[]⟩ { company := some company } true
    FontRegistry.Built (fun _ => true) fonts ∧
      ("#abc" ∈ document.colors ∧ document.fontNames = ["Helvetica", "Comic Neue"]) ∧
        (∀ c ∈ document.colors, IsHexColor c) ∧ ∀ f ∈ document.fontNames, fonts.Provides f := by
  have htrim : Text.trimmed " Comic Neue" = "Comic Neue" := by decide +kernel
  have hok : FontRegistry.registerWith (fun _ => true) {} " Comic Neue" #[] =
      .ok (FontRegistry.insert {} "Comic Neue") := by
    unfold FontRegistry.registerWith
    rw [htrim]
    rfl
  have hbuilt := FontRegistry.Built.register .empty hok
  exact ⟨hbuilt, by decide +kernel, colors_fonts_clean hbuilt _ _ _⟩

end Template

end Letterhead
