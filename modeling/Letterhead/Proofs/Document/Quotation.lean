import Letterhead.Proofs.Document.Content
import Letterhead.Proofs.Document.Parts
import Letterhead.Proofs.Document.Restyling

/-!
# Quotations

A quotation sets all text in italics, wherever it stands, and mutes blocks of text. It changes
nothing else. Both are said without the walk that does it: an element is the quotation of another one
if all its runs are in italics, all its blocks of text are muted, and the two are the same once
italics and the colours of blocks are taken away. This determines the quotation, so that quoting twice
is quoting once, and a quotation inside another looks as it does alone.

* `Restyling.upright` — the change that takes away what a quotation sets;
* `LooksQuoted`, `IsQuotationOf` — what is in italics and muted, and the quotation of an element;
* `Element.quoted_eq_self` — what is in italics and muted is its own quotation;
* `Element.isQuotationOf_quoted`, `IsQuotationOf.eq_quoted` — there is one quotation, the one made;
* `plainText_quotedElements` — a quotation has the same text;
* `Scope.elements_blockquote_blockquote` — a quotation inside another;
* `quoting_restyles_text_only` — all of this together.
-/

namespace Letterhead

/-! ### What a quotation sets -/

/-- A run that is not in italics. -/
def Run.upright (r : Run) : Run :=
  { r with italic := false }

/-- The change of style that takes away italics and the colours of blocks of text. -/
def Restyling.upright : Restyling where
  text b := { b with color := blankName, runs := b.runs.map Run.upright }
  frame := id
  ruleColor := id
  thickness := id
  cell c := { c with runs := c.runs.map Run.upright }

/-- Whether all text is in italics, and blocks of text are muted. -/
structure LooksQuoted (runs : List Run) (parts : List Part) : Prop where
  italic : ∀ r ∈ runs, r.italic = true
  muted : ∀ block, Part.text block ∈ parts → block.color = .muted

/-- Whether an element is the quotation of another one. -/
structure IsQuotationOf (e f : Element) : Prop where
  looksQuoted : LooksQuoted f.runs f.parts
  /-- Nothing else changes. -/
  upright_eq : f.restyled .upright = e.restyled .upright

theorem map_upright_quoted (runs : List Run) :
    (runs.map Run.upright).map Run.quoted = runs.map Run.quoted := by
  rw [List.map_map]
  rfl

theorem map_quoted_upright (runs : List Run) :
    (runs.map Run.quoted).map Run.upright = runs.map Run.upright := by
  rw [List.map_map]
  rfl

/-- What a quotation sets can be taken away before. -/
theorem Restyling.upright_andThen_quotation : upright.andThen quotation = quotation := by
  unfold andThen upright quotation
  congr 1
  · funext b
    simp only [Function.comp_apply, TextBlock.quoted, map_upright_quoted]
  · funext c
    simp only [Function.comp_apply, Cell.quoted, map_upright_quoted]

/-- What it sets is taken away, and nothing else. -/
theorem Restyling.quotation_andThen_upright : quotation.andThen upright = upright := by
  unfold andThen upright quotation
  congr 1
  · funext b
    simp only [Function.comp_apply, TextBlock.quoted, map_quoted_upright]
  · funext c
    simp only [Function.comp_apply, Cell.quoted, map_quoted_upright]

/-! ### What is quoted already -/

theorem Run.quoted_eq_self {r : Run} (h : r.italic = true) : r.quoted = r := by
  unfold Run.quoted
  rw [← h]

theorem map_quoted_eq_self {runs : List Run} (h : ∀ r ∈ runs, r.italic = true) :
    runs.map Run.quoted = runs := by
  calc runs.map Run.quoted
      = runs.map id := List.map_congr_left fun r hr => Run.quoted_eq_self (h r hr)
    _ = runs := List.map_id runs

theorem TextBlock.quoted_eq_self {b : TextBlock} (hruns : ∀ r ∈ b.runs, r.italic = true)
    (hcolor : b.color = .muted) : b.quoted = b := by
  unfold TextBlock.quoted
  rw [map_quoted_eq_self hruns, ← hcolor]

theorem map_quoted_cells_eq_self {rows : List (List Cell)}
    (h : ∀ r ∈ rows.flatMap fun row => row.flatMap (·.runs), r.italic = true) :
    rows.map (·.map Cell.quoted) = rows := by
  have hcell : ∀ row ∈ rows, ∀ c ∈ row, c.quoted = c := by
    intro row hrow c hc
    unfold Cell.quoted
    rw [map_quoted_eq_self fun r hr => h r ?_]
    exact List.mem_flatMap.mpr ⟨row, hrow, List.mem_flatMap.mpr ⟨c, hc, hr⟩⟩
  calc rows.map (·.map Cell.quoted)
      = rows.map id := List.map_congr_left fun row hrow =>
          (List.map_congr_left (hcell row hrow)).trans (List.map_id row)
    _ = rows := List.map_id rows

theorem LooksQuoted.of_append {runs more : List Run} {parts others : List Part}
    (h : LooksQuoted (runs ++ more) (parts ++ others)) :
    LooksQuoted runs parts ∧ LooksQuoted more others := by
  obtain ⟨hruns, hmore⟩ := List.forall_mem_append.mp h.italic
  exact ⟨⟨hruns, fun b hb => h.muted b (List.mem_append_left _ hb)⟩,
    ⟨hmore, fun b hb => h.muted b (List.mem_append_right _ hb)⟩⟩

theorem LooksQuoted.of_cons {runs : List Run} {part : Part} {parts : List Part}
    (h : LooksQuoted runs (part :: parts)) : LooksQuoted runs parts :=
  ⟨h.italic, fun b hb => h.muted b (List.mem_cons_of_mem _ hb)⟩

mutual

/-- **What is in italics and muted is its own quotation.** -/
theorem Element.quoted_eq_self : (e : Element) → LooksQuoted e.runs e.parts → e.quoted = e
  | .text block, h => by
    have hcolor : block.color = .muted := h.muted block (by
      rw [Element.parts]
      exact List.mem_cons_self)
    rw [Element.runs_text] at h
    rw [Element.quoted, TextBlock.quoted_eq_self h.italic hcolor]
  | .box style children, h => by
    rw [Element.runs_box, Element.parts] at h
    rw [Element.quoted, quotedElements_eq_self children h.of_cons]
  | .list ordered items, h => by
    rw [Element.runs_list, Element.parts] at h
    rw [Element.quoted, quotedItems_eq_self items h]
  | .divider .., _ => by
    rw [Element.quoted]
  | .table columns rows, h => by
    rw [Element.runs_table] at h
    rw [Element.quoted, map_quoted_cells_eq_self h.italic]
  | .spacer _, _ => by
    rw [Element.quoted]

/-- Element by element. -/
theorem quotedElements_eq_self :
    (es : List Element) → LooksQuoted (elementRuns es) (partsOf es) → quotedElements es = es
  | [], _ => by
    rw [quotedElements]
  | e :: es, h => by
    rw [elementRuns_cons, partsOf_cons] at h
    obtain ⟨he, hes⟩ := h.of_append
    rw [quotedElements, Element.quoted_eq_self e he, quotedElements_eq_self es hes]

/-- Item by item. -/
theorem quotedItems_eq_self :
    (items : List Item) → LooksQuoted (itemRuns items) (itemParts items) → quotedItems items = items
  | [], _ => by
    rw [quotedItems]
  | .mk marker children :: items, h => by
    rw [itemRuns_cons, itemParts_cons] at h
    obtain ⟨hchildren, hitems⟩ := h.of_cons.of_append
    rw [quotedItems, quotedElements_eq_self children hchildren, quotedItems_eq_self items hitems]

end

/-! ### The quotation of an element -/

theorem looksQuoted_quoted {runs : List Run} {parts : List Part} :
    LooksQuoted (runs.map Run.quoted) (parts.map Part.quoted) := by
  constructor
  · intro r hr
    obtain ⟨r', -, rfl⟩ := List.mem_map.mp hr
    rfl
  · intro b hb
    obtain ⟨part, -, hpart⟩ := List.mem_map.mp hb
    cases part with
    | text b' =>
      rw [← Part.text.inj hpart]
      rfl
    | _ => cases hpart

theorem Element.looksQuoted_quoted (e : Element) : LooksQuoted e.quoted.runs e.quoted.parts := by
  -- both lists are quoted entry by entry
  rw [Element.runs_quoted, Element.parts_quoted]
  exact Letterhead.looksQuoted_quoted

/-- **What is made is a quotation.** -/
theorem Element.isQuotationOf_quoted (e : Element) : IsQuotationOf e e.quoted := by
  refine ⟨e.looksQuoted_quoted, ?_⟩
  rw [Element.quoted_eq_restyled, Element.restyled_restyled, Restyling.quotation_andThen_upright]

/-- **There is no other one.** What a quotation sets can be taken from it and set again. -/
theorem IsQuotationOf.eq_quoted {e f : Element} (h : IsQuotationOf e f) : f = e.quoted := by
  have hagain : ∀ e : Element, (e.restyled .upright).quoted = e.quoted := by
    intro e
    rw [Element.quoted_eq_restyled, Element.restyled_restyled,
      Restyling.upright_andThen_quotation, ← Element.quoted_eq_restyled]
  calc f = f.quoted := (Element.quoted_eq_self f h.looksQuoted).symm
    _ = (f.restyled .upright).quoted := (hagain f).symm
    _ = (e.restyled .upright).quoted := by rw [h.upright_eq]
    _ = e.quoted := hagain e

/-- Quoting twice is quoting once. -/
theorem Element.quoted_quoted (e : Element) : e.quoted.quoted = e.quoted :=
  Element.quoted_eq_self _ e.looksQuoted_quoted

theorem quotedElements_quotedElements (es : List Element) :
    quotedElements (quotedElements es) = quotedElements es := by
  refine quotedElements_eq_self _ ?_
  rw [elementRuns_quotedElements, partsOf_quotedElements]
  exact Letterhead.looksQuoted_quoted

/-! ### Texts -/

theorem runsText_quoted (runs : List Run) : runsText (runs.map Run.quoted) = runsText runs := by
  unfold runsText
  rw [List.map_map]
  rfl

mutual

theorem Element.map_runsText_quoted :
    (e : Element) → e.quoted.texts.map runsText = e.texts.map runsText
  | .text block => by
    rw [Element.quoted, Element.texts, Element.texts, List.map_singleton, List.map_singleton]
    congr 1
    exact runsText_quoted block.runs
  | .box style children => by
    rw [Element.quoted, Element.texts, Element.texts, map_runsText_quotedElements children]
  | .list ordered items => by
    rw [Element.quoted, Element.texts, Element.texts, map_runsText_quotedItems items]
  | .divider .. => by
    rw [Element.quoted]
  | .table columns rows => by
    rw [Element.quoted, Element.texts, Element.texts, List.flatMap_map, List.map_flatMap,
      List.map_flatMap]
    congr 1
    funext row
    rw [List.map_map, List.map_map, List.map_map]
    exact List.map_congr_left fun c _ => runsText_quoted c.runs
  | .spacer _ => by
    rw [Element.quoted]

theorem map_runsText_quotedElements :
    (es : List Element) → (textsOf (quotedElements es)).map runsText = (textsOf es).map runsText
  | [] => by
    rw [quotedElements]
  | e :: es => by
    rw [quotedElements, textsOf, textsOf, List.map_append, List.map_append,
      Element.map_runsText_quoted e, map_runsText_quotedElements es]

theorem map_runsText_quotedItems :
    (items : List Item) →
      (itemTexts (quotedItems items)).map runsText = (itemTexts items).map runsText
  | [] => by
    rw [quotedItems]
  | .mk marker children :: items => by
    rw [quotedItems, itemTexts, itemTexts, List.map_append, List.map_append,
      map_runsText_quotedElements children, map_runsText_quotedItems items]

end

/-- **A quotation has the same text.** -/
theorem plainText_quotedElements (fixed : Bool) (es : List Element) :
    Region.plainText ⟨fixed, quotedElements es⟩ = Region.plainText ⟨fixed, es⟩ := by
  unfold Region.plainText
  rw [map_runsText_quotedElements]

/-! ### Quotations in templates -/

namespace Scope

variable (scope : Scope) (content : List Node)

/-- A quotation is not changed by being quoted. -/
theorem quotedElements_blockquote :
    quotedElements (scope.elements (.blockquote content)) =
      scope.elements (.blockquote content) := by
  rw [elements, quotedElements, Element.quoted, quotedElements_quotedElements, quotedElements]

/-- So a quotation inside another is what it is alone. -/
theorem elements_blockquote_blockquote :
    scope.elements (.blockquote [.blockquote content]) =
      [.box quotationStyle (scope.elements (.blockquote content))] := by
  have hblock : (Node.blockquote content).flowsInline = false := rfl
  have hnone : textOfRuns (scope.paragraph .left) [] = [] := rfl
  have hflow : scope.flow (scope.paragraph .left) [] [.blockquote content] =
      scope.elements (.blockquote content) := by
    rw [flow, hblock, if_neg Bool.false_ne_true, flow, hnone, List.nil_append, List.append_nil]
  calc scope.elements (.blockquote [.blockquote content])
      = [.box quotationStyle
          (quotedElements (scope.flow (scope.paragraph .left) [] [.blockquote content]))] := by
        rw [elements]
    _ = [.box quotationStyle (scope.elements (.blockquote content))] := by
        rw [hflow, quotedElements_blockquote]

end Scope

/-- **Quotations.** The quotation of an element is the one element that looks quoted and is the same
but for italics and the colours of blocks of text; quoting it again does nothing. It has the same
text, and inside another quotation it stays as it is. -/
theorem quoting_restyles_text_only :
    (∀ e f : Element, f = e.quoted ↔ IsQuotationOf e f) ∧
      (∀ e : Element, e.quoted.quoted = e.quoted) ∧
      (∀ (fixed : Bool) (es : List Element),
        Region.plainText ⟨fixed, quotedElements es⟩ = Region.plainText ⟨fixed, es⟩) ∧
      ∀ (scope : Scope) (content : List Node),
        quotedElements (scope.elements (.blockquote content)) =
            scope.elements (.blockquote content) ∧
          scope.elements (.blockquote [.blockquote content]) =
            [.box quotationStyle (scope.elements (.blockquote content))] := by
  refine ⟨fun e f => ⟨?_, IsQuotationOf.eq_quoted⟩, Element.quoted_quoted,
    plainText_quotedElements, fun scope content =>
      ⟨scope.quotedElements_blockquote content, scope.elements_blockquote_blockquote content⟩⟩
  rintro rfl
  exact e.isQuotationOf_quoted

end Letterhead
