import Letterhead.Proofs.Document.Parts
import Letterhead.Proofs.Page.Pagination
import Letterhead.Proofs.Page.Wrapping

/-!
# Page breaks come from pages only

A line feed ends a line and a form feed parts two pages, so neither may come from a text. Texts
reach a line through wrapping alone, which leaves no blank but the space. What is put around wrapped
lines is drawn from a few characters, and the only other text is a marker, which is generated.

* `isPlain_of_isMarker`, `isPlain_of_mem_tableLines`, `Element.isPlain_of_mem_lines` — the lines of
  markers, tables and elements hold no blank but the space;
* `Template.isPlain_of_mem_pages` — nor does a line of a page;
* `cutsAt`, `cutsAt_intercalate` — a text parted at page breaks again;
* `Template.breaks_of_pages` — the text of a document shows its pages and their lines.
-/

namespace Letterhead

/-! ### Markers and margins -/

/-- A digit, a point and a bullet are no blanks. -/
theorem isPlain_of_isMarker {m : String} (h : IsMarker m) : ∀ c ∈ m.toList, IsPlain c := by
  rcases h with rfl | ⟨n, rfl⟩
  · intro c hc
    rw [List.mem_singleton.mp hc]
    exact isPlain_of_not_isBlank (by decide)
  · intro c hc
    rw [String.toList_append, List.mem_append] at hc
    rcases hc with hc | hc
    · have hdigit : c.isDigit = true := by
        rw [show toString n = n.repr from rfl, Nat.toList_repr] at hc
        exact Nat.isDigit_of_mem_toDigits (by decide) (by decide) hc
      intro hblank
      -- the digits lie between the blanks of ASCII and those above it
      simp only [Char.isDigit, Bool.and_eq_true, decide_eq_true_eq, ge_iff_le,
        UInt32.le_iff_toNat_le] at hdigit
      simp only [Text.isBlank, Bool.or_eq_true, Bool.and_eq_true, decide_eq_true_eq,
        beq_iff_eq] at hblank
      have h48 : '0'.val.toNat = 48 := rfl
      have h57 : '9'.val.toNat = 57 := rfl
      have hc' : c.toNat = c.val.toNat := rfl
      omega
    · rw [List.mem_singleton.mp hc]
      exact isPlain_of_not_isBlank (by decide)

theorem isPlain_of_mem_replicate {c d : Char} {n : Nat} (h : IsPlain d)
    (hc : c ∈ List.replicate n d) : IsPlain c := by
  rw [List.eq_of_mem_replicate hc]
  exact h

theorem isPlain_blanks (n : Nat) : ∀ c ∈ blanks n, IsPlain c :=
  fun _ hc => isPlain_of_mem_replicate isPlain_space hc

theorem isPlain_pad {line : Line} (h : ∀ c ∈ line, IsPlain c) (width : Nat) (align : Align) :
    ∀ c ∈ pad width align line, IsPlain c := by
  cases align with
  | left => exact List.forall_mem_append.mpr ⟨h, isPlain_blanks _⟩
  | right => exact List.forall_mem_append.mpr ⟨isPlain_blanks _, h⟩
  | center =>
    refine List.forall_mem_append.mpr ⟨isPlain_blanks _, ?_⟩
    exact List.forall_mem_append.mpr ⟨h, isPlain_blanks _⟩

theorem isPlain_placed {line : Line} (h : ∀ c ∈ line, IsPlain c) (width : Nat) (align : Align) :
    ∀ c ∈ placed width align line, IsPlain c := by
  have htrim : ∀ side, ∀ c ∈ Text.trimEnd (pad width side line), IsPlain c := by
    intro side c hc
    exact isPlain_pad h width side c ((Text.trimEnd_prefix _).subset hc)
  cases align with
  | left => exact h
  | right => exact htrim .right
  | center => exact htrim .center

/-! ### Tables -/

section Tables

variable {slots : List GridCell}

/-- The lines of every cell hold no blank but the space. -/
def PlainCells (slots : List GridCell) : Prop :=
  ∀ s ∈ slots, ∀ line ∈ s.lines, ∀ c ∈ line, IsPlain c

theorem isPlain_gap (left right : GridCell) : ∀ c ∈ gap left right, IsPlain c := by
  rw [gap]
  split
  · intro c hc
    simp only [List.mem_cons, List.not_mem_nil, or_false] at hc
    rcases hc with rfl | rfl | rfl
    · exact isPlain_space
    · exact isPlain_of_not_isBlank (by decide)
    · exact isPlain_space
  · exact isPlain_blanks gapWidth

theorem isPlain_cellLine {s : GridCell} (h : ∀ line ∈ s.lines, ∀ c ∈ line, IsPlain c) (row : Nat) :
    ∀ c ∈ s.line row, IsPlain c := by
  refine isPlain_pad ?_ s.width s.align
  rw [List.getD_eq_getElem?_getD]
  cases hrow : s.lines[row]? with
  | none => exact List.forall_mem_nil _
  | some line => exact h line (List.mem_of_getElem? hrow)

theorem isPlain_slotsLine (row : Nat) (h : PlainCells slots) :
    ∀ c ∈ slotsLine row slots, IsPlain c := by
  induction slots using slotsLine.induct with
  | case1 => exact List.forall_mem_nil _
  | case2 s =>
    rw [slotsLine]
    exact isPlain_cellLine (h s List.mem_cons_self) row
  | case3 s t rest ih =>
    rw [slotsLine, List.forall_mem_append, List.forall_mem_append]
    exact ⟨isPlain_cellLine (h s List.mem_cons_self) row, isPlain_gap s t,
      ih fun u hu => h u (List.mem_cons_of_mem _ hu)⟩

theorem isPlain_stroke (drawn : Bool) (n : Nat) : ∀ c ∈ stroke drawn n, IsPlain c := by
  intro c hc
  refine isPlain_of_mem_replicate ?_ hc
  split
  · exact isPlain_of_not_isBlank (by decide)
  · exact isPlain_space

theorem isPlain_slotsRule (side : Borders → Bool) (slots : List GridCell) :
    ∀ c ∈ slotsRule side slots, IsPlain c := by
  induction slots using slotsRule.induct with
  | case1 => exact List.forall_mem_nil _
  | case2 s =>
    rw [slotsRule]
    exact isPlain_stroke _ _
  | case3 s t rest ih =>
    rw [slotsRule, List.forall_mem_append, List.forall_mem_append]
    exact ⟨isPlain_stroke _ _, isPlain_stroke _ _, ih⟩

theorem isPlain_of_mem_rowLines (h : PlainCells slots) :
    ∀ line ∈ rowLines slots, ∀ c ∈ line, IsPlain c := by
  have hrule : ∀ side, ∀ line ∈ ruleLines side slots, ∀ c ∈ line, IsPlain c := by
    intro side line hline
    rw [ruleLines] at hline
    split at hline
    · rw [List.mem_singleton.mp hline]
      exact isPlain_slotsRule side slots
    · exact absurd hline List.not_mem_nil
  rw [rowLines, List.forall_mem_append, List.forall_mem_append, List.forall_mem_map]
  exact ⟨⟨hrule _, fun row _ => isPlain_slotsLine row h⟩, hrule _⟩

theorem plainCells_slotsOf (widths : List Nat) (columns : List Column) (cells : List Cell) :
    PlainCells (slotsOf widths columns cells) := by
  have hcell : ∀ w align cell, ∀ line ∈ (GridCell.ofCell w align cell).lines,
      ∀ c ∈ line, IsPlain c :=
    fun w align cell line hline => isPlain_of_mem_wrapAll hline
  unfold PlainCells
  induction widths, columns, cells using slotsOf.induct with
  | case1 w ws c cs ih =>
    rw [slotsOf, List.forall_mem_cons]
    exact ⟨hcell _ _ _, ih⟩
  | case2 w ws c cs cell cells ih =>
    rw [slotsOf, List.forall_mem_cons]
    exact ⟨hcell _ _ _, ih⟩
  | case3 widths columns cells hnil hcons =>
    -- no width or no column is left, and with it no cell
    rw [slotsOf]
    · exact List.forall_mem_nil _
    · exact hnil
    · exact hcons

/-- Whatever the cells of a table hold, its lines hold no blank but the space. -/
theorem isPlain_of_mem_tableLines (width : Nat) (columns : List Column) (rows : List (List Cell)) :
    ∀ line ∈ tableLines width columns rows, ∀ c ∈ line, IsPlain c := by
  intro line hline
  obtain ⟨cells, -, hline⟩ := List.mem_flatMap.mp hline
  exact isPlain_of_mem_rowLines (plainCells_slotsOf _ _ _) line hline

end Tables

/-! ### Elements -/

section Around

variable {lines : List Line}

theorem isPlain_of_mem_framed (h : ∀ line ∈ lines, ∀ c ∈ line, IsPlain c) (width : Nat) :
    ∀ line ∈ framed width lines, ∀ c ∈ line, IsPlain c := by
  have hdrawn : ∀ c ∈ ['┌', '┐', '│', '└', '┘', '─'], IsPlain c := by
    have hblank : ['┌', '┐', '│', '└', '┘', '─'].all (! Text.isBlank ·) = true := by decide
    intro c hc
    apply isPlain_of_not_isBlank
    exact (Bool.not_eq_true' _).mp (List.all_eq_true.mp hblank c hc)
  have hedge : ∀ c ∈ List.replicate (width + 2) '─', IsPlain c :=
    fun c hc => isPlain_of_mem_replicate (hdrawn _ (by decide)) hc
  rw [framed, List.forall_mem_cons, List.forall_mem_append, List.forall_mem_map,
    List.forall_mem_singleton]
  refine ⟨?_, ?_, ?_⟩
  · rw [List.forall_mem_cons, List.forall_mem_append, List.forall_mem_singleton]
    exact ⟨hdrawn _ (by decide), hedge, hdrawn _ (by decide)⟩
  · intro line hline
    rw [List.forall_mem_cons, List.forall_mem_cons, List.forall_mem_append,
      List.forall_mem_cons, List.forall_mem_singleton]
    exact ⟨hdrawn _ (by decide), isPlain_space, isPlain_pad (h line hline) width .left,
      isPlain_space, hdrawn _ (by decide)⟩
  · rw [List.forall_mem_cons, List.forall_mem_append, List.forall_mem_singleton]
    exact ⟨hdrawn _ (by decide), hedge, hdrawn _ (by decide)⟩

theorem isPlain_of_mem_around (h : ∀ line ∈ lines, ∀ c ∈ line, IsPlain c) (style : BoxStyle)
    (width : Nat) : ∀ line ∈ style.around width lines, ∀ c ∈ line, IsPlain c := by
  rw [BoxStyle.around]
  split
  · exact isPlain_of_mem_framed h _
  · split
    · rw [barred, List.forall_mem_map]
      intro line hline
      rw [List.forall_mem_cons, List.forall_mem_cons]
      exact ⟨isPlain_of_not_isBlank (by decide), isPlain_space, h line hline⟩
    · exact h

theorem isPlain_of_mem_hung {marker : String} (hmarker : ∀ c ∈ marker.toList, IsPlain c)
    (h : ∀ line ∈ lines, ∀ c ∈ line, IsPlain c) :
    ∀ line ∈ hung marker lines, ∀ c ∈ line, IsPlain c := by
  cases lines with
  | nil =>
    rw [hung, List.forall_mem_singleton, List.forall_mem_append, List.forall_mem_singleton]
    exact ⟨hmarker, isPlain_space⟩
  | cons first rest =>
    rw [List.forall_mem_cons] at h
    rw [hung, List.forall_mem_cons, List.forall_mem_append, List.forall_mem_cons,
      List.forall_mem_map]
    refine ⟨⟨hmarker, isPlain_space, h.1⟩, fun line hline => ?_⟩
    exact List.forall_mem_append.mpr ⟨isPlain_blanks _, h.2 line hline⟩

end Around

theorem TextBlock.isPlain_of_mem_lines (width : Nat) (above : Line) (b : TextBlock) :
    ∀ line ∈ b.lines width above, ∀ c ∈ line, IsPlain c := by
  rw [TextBlock.lines, List.forall_mem_append, List.forall_mem_map, List.forall_mem_append]
  -- the space above, the text, and the rule under it
  refine ⟨?_, ?_, ?_⟩
  · intro line hline c hc
    rw [spaceAbove] at hline
    split at hline
    · rw [List.mem_singleton.mp hline] at hc
      exact absurd hc List.not_mem_nil
    · exact absurd hline List.not_mem_nil
  · intro line hline
    exact isPlain_placed (isPlain_of_mem_wrapAll hline) width b.align
  · intro line hline
    refine isPlain_placed ?_ width b.align
    rw [Option.mem_toList, Option.map_eq_some_iff] at hline
    obtain ⟨rule, hrule, rfl⟩ := hline
    have hplain : IsPlain rule := by
      rcases Rank.eq_or_eq_of_rule? hrule with rfl | rfl
      · exact isPlain_of_not_isBlank (by decide)
      · exact isPlain_of_not_isBlank (by decide)
    exact fun c hc => isPlain_of_mem_replicate hplain hc

mutual

/-- Elements hold text and markers. If the markers hold no blank but the space, no line does. -/
theorem Element.isPlain_of_mem_lines {width : Nat} {above : Line} :
    (e : Element) → (∀ m, Part.marker m ∈ e.parts → ∀ c ∈ m.toList, IsPlain c) →
      ∀ line ∈ e.lines width above, ∀ c ∈ line, IsPlain c
  | .text block, _ => by
    rw [Element.lines]
    exact block.isPlain_of_mem_lines width above
  | .box style children, h => by
    rw [Element.lines]
    refine isPlain_of_mem_around (isPlain_of_mem_linesFrom children fun m hm => h m ?_) style width
    rw [Element.parts]
    exact List.mem_cons_of_mem _ hm
  | .list _ items, h => by
    rw [Element.lines]
    exact isPlain_of_mem_itemLines items h
  | .divider .., _ => by
    rw [Element.lines, List.forall_mem_singleton]
    exact fun c hc => isPlain_of_mem_replicate (isPlain_of_not_isBlank (by decide)) hc
  | .table columns rows, _ => by
    rw [Element.lines]
    exact isPlain_of_mem_tableLines width columns rows
  | .spacer height, _ => by
    rw [Element.lines]
    intro line hline c hc
    rw [List.eq_of_mem_replicate hline] at hc
    exact absurd hc List.not_mem_nil

theorem isPlain_of_mem_linesFrom {width : Nat} {above : Line} :
    (es : List Element) → (∀ m, Part.marker m ∈ partsOf es → ∀ c ∈ m.toList, IsPlain c) →
      ∀ line ∈ linesFrom width above es, ∀ c ∈ line, IsPlain c
  | [], _ => by
    rw [linesFrom]
    exact List.forall_mem_nil _
  | e :: es, h => by
    rw [linesFrom, List.forall_mem_append]
    rw [partsOf_cons] at h
    exact ⟨Element.isPlain_of_mem_lines e fun m hm => h m (List.mem_append_left _ hm),
      isPlain_of_mem_linesFrom es fun m hm => h m (List.mem_append_right _ hm)⟩

theorem isPlain_of_mem_itemLines {width : Nat} :
    (items : List Item) → (∀ m, Part.marker m ∈ itemParts items → ∀ c ∈ m.toList, IsPlain c) →
      ∀ line ∈ itemLines width items, ∀ c ∈ line, IsPlain c
  | [], _ => by
    rw [itemLines]
    exact List.forall_mem_nil _
  | .mk marker children :: items, h => by
    rw [itemLines, List.forall_mem_append]
    rw [itemParts_cons] at h
    refine ⟨isPlain_of_mem_hung (h marker List.mem_cons_self) ?_, ?_⟩
    · refine isPlain_of_mem_linesFrom children fun m hm => h m ?_
      exact List.mem_cons_of_mem _ (List.mem_append_left _ hm)
    · refine isPlain_of_mem_itemLines items fun m hm => h m ?_
      exact List.mem_cons_of_mem _ (List.mem_append_right _ hm)

end

/-! ### Documents -/

/-- Header, body and footer of a document have generated markers only, so that no line of its pages
holds a blank other than the space. -/
theorem Template.isPlain_of_mem_pages {fonts : FontRegistry} {t : Template} {context : Context}
    {margins : Bool} {size : PageSize} {pages : List (List Line)}
    (h : (t.render fonts context margins).pages size = .ok pages) :
    ∀ page ∈ pages, ∀ line ∈ page, ∀ c ∈ line, IsPlain c := by
  intro page hpage line hline
  have hregion : ∀ es, (∀ m, Part.marker m ∈ partsOf es → IsMarker m) →
      line ∈ linesFrom size.columns [] es → ∀ c ∈ line, IsPlain c := by
    intro es hes hmem
    exact isPlain_of_mem_linesFrom es (fun m hm => isPlain_of_isMarker (hes m hm)) line hmem
  -- a line is from a region, or is one of those that fill a page up
  rcases (Document.isPagination_of_pages h).mem_cases hpage hline with rfl | hmem | hmem | hmem
  · exact List.forall_mem_nil _
  · cases margins with
    | false => exact absurd hmem List.not_mem_nil
    | true => exact hregion _ (fun _ => Scope.isMarker_of_mem_header) hmem
  · exact hregion _ (fun _ => Scope.isMarker_of_mem_render) hmem
  · cases margins with
    | false => exact absurd hmem List.not_mem_nil
    | true => exact hregion _ (fun _ => Scope.isMarker_of_mem_footer) hmem

/-! ### Page breaks -/

/-- What is left of a text after `skip` characters, cut wherever the separator stands, from left to
right. -/
def cutsFrom (sep : Line) : Nat → Line → List Line
  | _, [] => [[]]
  | skip + 1, _ :: cs => cutsFrom sep skip cs
  | 0, c :: cs =>
    if sep.isPrefixOf (c :: cs) then [] :: cutsFrom sep (sep.length - 1) cs
    else consFirst c (cutsFrom sep 0 cs)

/-- A text cut at a separator. -/
def cutsAt (sep text : Line) : List Line :=
  cutsFrom sep 0 text

theorem cutsFrom_eq_cutsAt (sep : Line) (skip : Nat) (text : Line) :
    cutsFrom sep skip text = cutsAt sep (text.drop skip) := by
  induction skip generalizing text with
  | zero => rfl
  | succ skip ih =>
    cases text with
    | nil => rfl
    | cons c cs =>
      rw [cutsFrom, ih, List.drop_succ_cons]

theorem cutsAt_pageBreak (rest : Line) :
    cutsAt pageBreak (pageBreak ++ rest) = [] :: cutsAt pageBreak rest := by
  have hprefix : pageBreak.isPrefixOf ('\n' :: '\x0c' :: '\n' :: rest) = true :=
    List.isPrefixOf_iff_prefix.mpr (List.prefix_append pageBreak rest)
  change cutsFrom pageBreak 0 ('\n' :: '\x0c' :: '\n' :: rest) = _
  rw [cutsFrom, if_pos hprefix, cutsFrom_eq_cutsAt]
  rfl

/-- A page break has its form feed in second place. -/
theorem cutsAt_pageBreak_cons {c : Char} {text : Line} (h : text.head? ≠ some '\x0c') :
    cutsAt pageBreak (c :: text) = consFirst c (cutsAt pageBreak text) := by
  have hprefix : ¬ pageBreak.isPrefixOf (c :: text) = true := by
    rw [List.isPrefixOf_iff_prefix]
    rintro ⟨rest, hrest⟩
    apply h
    rw [← (List.cons_eq_cons.mp hrest).2]
    rfl
  rw [cutsAt, cutsFrom, if_neg hprefix]
  rfl

/-- A piece may begin or end with a line feed: only the form feed tells where a break stands. -/
theorem cutsAt_append_pageBreak {piece : Line} (h : '\x0c' ∉ piece) (rest : Line) :
    cutsAt pageBreak (piece ++ (pageBreak ++ rest)) = piece :: cutsAt pageBreak rest := by
  induction piece with
  | nil => exact cutsAt_pageBreak rest
  | cons c cs ih =>
    rw [List.mem_cons, not_or] at h
    -- what follows is the piece or, at its end, the line feed of the break
    have hhead : (cs ++ (pageBreak ++ rest)).head? ≠ some '\x0c' := by
      cases cs with
      | nil => exact fun hd => absurd (Option.some.inj hd) (by decide)
      | cons d ds =>
        intro hd
        rw [List.cons_append, List.head?_cons, Option.some.injEq] at hd
        exact h.2 (hd ▸ List.mem_cons_self)
    rw [List.cons_append, cutsAt_pageBreak_cons hhead, ih h.2, consFirst_cons]

theorem cutsAt_of_not_mem {piece : Line} (h : '\x0c' ∉ piece) :
    cutsAt pageBreak piece = [piece] := by
  induction piece with
  | nil => rfl
  | cons c cs ih =>
    rw [List.mem_cons, not_or] at h
    have hhead : cs.head? ≠ some '\x0c' := fun hd => h.2 (List.mem_of_head? hd)
    rw [cutsAt_pageBreak_cons hhead, ih h.2, consFirst_cons]

/-- Texts without form feeds that are joined by page breaks are found again. -/
theorem cutsAt_intercalate {texts : List Line} (hne : texts ≠ [])
    (h : ∀ text ∈ texts, '\x0c' ∉ text) :
    cutsAt pageBreak (List.intercalate pageBreak texts) = texts := by
  induction texts with
  | nil => exact absurd rfl hne
  | cons text rest ih =>
    rw [List.forall_mem_cons] at h
    cases rest with
    | nil =>
      rw [List.intercalate_singleton]
      exact cutsAt_of_not_mem h.1
    | cons next rest =>
      rw [List.intercalate_cons_cons, List.append_assoc, cutsAt_append_pageBreak h.1,
        ih (List.cons_ne_nil _ _) h.2]

/-- A character that none of some texts holds comes from what stands between them. -/
theorem count_intercalate {c : Char} {sep : Line} {texts : List Line}
    (h : ∀ text ∈ texts, c ∉ text) :
    (List.intercalate sep texts).count c = (texts.length - 1) * sep.count c := by
  induction texts with
  | nil => rw [List.intercalate_nil, List.count_nil, List.length_nil, Nat.zero_sub, Nat.zero_mul]
  | cons text rest ih =>
    rw [List.forall_mem_cons] at h
    have htext : text.count c = 0 := List.count_eq_zero.mpr h.1
    cases rest with
    | nil =>
      rw [List.intercalate_singleton, htext, List.length_singleton, Nat.sub_self, Nat.zero_mul]
    | cons next rest =>
      rw [List.intercalate_cons_cons, List.count_append, List.count_append, ih h.2, htext,
        Nat.zero_add]
      simp only [List.length_cons, Nat.add_sub_cancel]
      rw [Nat.succ_mul, Nat.add_comm]

/-! ### The text of a document -/

section SheetText

variable {page : List Line}

theorem not_mem_trimEnd {c : Char} {line : Line} (h : c ∉ line) : c ∉ Text.trimEnd line :=
  fun hc => h ((Text.trimEnd_prefix line).subset hc)

theorem formFeed_not_mem_sheetText (h : ∀ line ∈ page, '\x0c' ∉ line) :
    '\x0c' ∉ sheetText page := by
  rw [sheetText, ← List.count_eq_zero, count_intercalate]
  · rfl
  · rw [List.forall_mem_map]
    exact fun line hline => not_mem_trimEnd (h line hline)

/-- The lines of a page are read off its text again, without the blanks that end them. -/
theorem splitOn_sheetText (h : ∀ line ∈ page, '\n' ∉ line) :
    (sheetText page).splitOn '\n' = if page = [] then [[]] else page.map Text.trimEnd := by
  by_cases hpage : page = []
  · rw [if_pos hpage, hpage]
    rfl
  · rw [if_neg hpage, sheetText, List.splitOn_intercalate]
    · rw [List.forall_mem_map]
      exact fun line hline => not_mem_trimEnd (h line hline)
    · exact fun hnil => hpage (List.map_eq_nil_iff.mp hnil)

end SheetText

/-- **Page breaks.** Whatever the texts of a template and of a context hold, no line of a page holds
a line feed or a form feed, so that the text of the document shows where its pages and their lines
end: cut at its page breaks and then at its line feeds, it gives the pages back. -/
theorem Template.breaks_of_pages (fonts : FontRegistry) (t : Template) (context : Context)
    (margins : Bool) (size : PageSize) (pages : List (List Line))
    (hpages : (t.render fonts context margins).pages size = .ok pages) :
    (∀ page ∈ pages, ∀ line ∈ page, '\n' ∉ line ∧ '\x0c' ∉ line) ∧
      ∃ text : Line,
        (t.render fonts context margins).text size = .ok (String.ofList (text ++ ['\n'])) ∧
        (cutsAt pageBreak text).length = pages.length ∧
        (cutsAt pageBreak text).map (·.splitOn '\n') =
          pages.map (fun page => if page = [] then [[]] else page.map Text.trimEnd) ∧
        (text ++ ['\n']).count '\x0c' = pages.length - 1 := by
  -- a line feed and a form feed are blanks, and no spaces
  have hplain := Template.isPlain_of_mem_pages hpages
  have hline : ∀ page ∈ pages, ∀ line ∈ page, '\n' ∉ line := by
    intro page hpage line hline hc
    exact absurd (hplain page hpage line hline _ hc rfl) (by decide)
  have hpage : ∀ page ∈ pages, ∀ line ∈ page, '\x0c' ∉ line := by
    intro page hpage line hline hc
    exact absurd (hplain page hpage line hline _ hc rfl) (by decide)
  have htexts : ∀ text ∈ pages.map sheetText, '\x0c' ∉ text := by
    rw [List.forall_mem_map]
    exact fun page hmem => formFeed_not_mem_sheetText (hpage page hmem)
  have hne : pages.map sheetText ≠ [] := by
    intro hnil
    exact (Document.isPagination_of_pages hpages).ne_nil (List.map_eq_nil_iff.mp hnil)
  have hcuts := cutsAt_intercalate hne htexts
  refine ⟨fun page hmem line hmem' => ⟨hline page hmem line hmem', hpage page hmem line hmem'⟩,
    List.intercalate pageBreak (pages.map sheetText), ?_, ?_, ?_, ?_⟩
  · rw [Document.text, hpages]
    rfl
  · rw [hcuts, List.length_map]
  · rw [hcuts, List.map_map]
    exact List.map_congr_left fun page hmem => splitOn_sheetText (hline page hmem)
  · have hbreak : pageBreak.count '\x0c' = 1 := by decide
    rw [List.count_append, count_intercalate htexts, hbreak, List.length_map, Nat.mul_one]
    rfl

/-- A page break written in a list item makes no page of its own. -/
theorem Template.breaks_of_pages_forged :
    let t : Template := ⟨[.bulletList [.text "a\n\x0c\nb" []]]⟩
    let d := t.render {} {} false
    let size : PageSize := ⟨"strip", 24, 2⟩
    d.pages size = .ok [["• a".toList, "  ".toList], ["  b".toList]] ∧
      ∃ text : Line, d.text size = .ok (String.ofList (text ++ ['\n'])) ∧
        (cutsAt pageBreak text).map (·.splitOn '\n') = [["• a".toList, []], ["  b".toList]] ∧
        (text ++ ['\n']).count '\x0c' = 1 := by
  intro t d size
  have hpages : d.pages size = .ok [["• a".toList, "  ".toList], ["  b".toList]] := by
    rw [Document.pages_of_room ⟨by decide, by decide +kernel⟩, Except.ok.injEq]
    decide +kernel
  obtain ⟨-, text, htext, -, hcuts, hcount⟩ :=
    Template.breaks_of_pages {} t {} false size _ hpages
  refine ⟨hpages, text, htext, ?_, hcount⟩
  rw [hcuts]
  decide +kernel

end Letterhead
