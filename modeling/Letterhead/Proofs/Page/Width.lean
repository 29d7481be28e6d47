import Mathlib.Data.List.Forall2
import Letterhead.Page.Lines
import Letterhead.Proofs.Page.Wrapping

/-!
# Elements keep within their width

A box takes columns for its edges, and a list item for its marker. As long as these leave a column
to what stands innermost, no line is wider than what it was laid out at, and the lines of a frame
are all exactly as wide, so that its right edge is straight.

* `Element.nesting` — the columns that boxes and markers take along the worst path;
* `Element.displayWidth_le_of_mem_lines` — the lines of an element that has a column left;
* `LaidOut` — the elements that the layout of an element comes to, with their widths;
* `DrawnAt`, `LaidOut.drawnAt` — their lines stand one below the other, from one column on;
* `Element.lines_within_width` — lines within the width, and frames with straight edges.
-/

namespace Letterhead

/-! ### Nesting -/

/-- The columns that the edges of a box take. -/
def BoxStyle.edges (s : BoxStyle) : Nat :=
  if s.border.isSome then 4
  else if s.borderLeft.isSome then 2
  else 0

mutual

/-- Whether an element is without tables. -/
def Element.TableFree : Element → Prop
  | .text _ => True
  | .box _ children => TablesFree children
  | .list _ items => ItemsTableFree items
  | .divider .. => True
  | .table .. => False
  | .spacer _ => True

/-- Element by element. -/
def TablesFree : List Element → Prop
  | [] => True
  | e :: es => e.TableFree ∧ TablesFree es

/-- Item by item. -/
def ItemsTableFree : List Item → Prop
  | [] => True
  | .mk _ children :: items => TablesFree children ∧ ItemsTableFree items

end

mutual

/-- The most columns that edges and markers take on a path into an element. -/
def Element.nesting : Element → Nat
  | .text _ => 0
  | .box style children => style.edges + nestingOf children
  | .list _ items => itemNesting items
  | .divider .. => 0
  | .table .. => 0
  | .spacer _ => 0

/-- The same into any of some elements. -/
def nestingOf : List Element → Nat
  | [] => 0
  | e :: es => max e.nesting (nestingOf es)

/-- The same into any of some items. -/
def itemNesting : List Item → Nat
  | [] => 0
  | .mk marker children :: items =>
    max (markerWidth marker + nestingOf children) (itemNesting items)

end

/-- The edges of a box are all that its inside is narrower by. -/
theorem BoxStyle.innerWidth_add_edges {s : BoxStyle} {width : Nat} (h : s.edges < width) :
    s.innerWidth width + s.edges = width := by
  rw [edges] at h ⊢
  rw [innerWidth]
  split
  · next hborder =>
    rw [if_pos hborder] at h
    omega
  · next hborder =>
    rw [if_neg hborder] at h
    split
    · next hleft =>
      rw [if_pos hleft] at h
      omega
    · next hleft =>
      rw [if_neg hleft] at h
      omega

/-- A box that has a column left hands on to its inside what its edges leave. -/
theorem nestingOf_lt_innerWidth {style : BoxStyle} {children : List Element} {width : Nat}
    (h : (Element.box style children).nesting < width) :
    style.innerWidth width + style.edges = width ∧
      nestingOf children < style.innerWidth width := by
  rw [Element.nesting] at h
  have hinner := BoxStyle.innerWidth_add_edges (Nat.lt_of_le_of_lt (Nat.le_add_right _ _) h)
  exact ⟨hinner, by omega⟩

/-! ### Text -/

theorem widest_le {bound : Nat} {lines : List Line}
    (h : ∀ line ∈ lines, displayWidth line ≤ bound) : widest lines ≤ bound := by
  -- the fold carries the widest line so far, so that the bound is kept from any start
  have hfold : ∀ start ≤ bound,
      lines.foldl (fun w line => max w (displayWidth line)) start ≤ bound := by
    induction lines with
    | nil => exact fun start hstart => hstart
    | cons line rest ih =>
      rw [List.forall_mem_cons] at h
      intro start hstart
      exact ih h.2 _ (Nat.max_le.mpr ⟨hstart, h.1⟩)
  exact hfold 0 (Nat.zero_le _)

/-- The lines of a text are wrapped at the width, the rule under a heading is no wider than they
are, and a margin is not overstepped. -/
theorem TextBlock.displayWidth_le_of_mem_lines {width : Nat} (hw : 0 < width) (above : Line)
    (b : TextBlock) : ∀ line ∈ b.lines width above, displayWidth line ≤ width := by
  have htext : ∀ line ∈ wrapAll width b.shownText, displayWidth line ≤ width := by
    intro line hline
    have hle := displayWidth_le_of_mem_wrapAll hline
    omega
  rw [TextBlock.lines, List.forall_mem_append, List.forall_mem_map, List.forall_mem_append]
  -- the space above, the text, and the rule under it
  refine ⟨?_, ?_, ?_⟩
  · intro line hline
    rw [spaceAbove] at hline
    split at hline
    · rw [List.mem_singleton.mp hline]
      exact Nat.zero_le _
    · exact absurd hline List.not_mem_nil
  · intro line hline
    exact displayWidth_placed_le (htext line hline) b.align
  · intro line hline
    rw [Option.mem_toList, Option.map_eq_some_iff] at hline
    obtain ⟨rule, hrule, rfl⟩ := hline
    have hne : rule ≠ overlay := by
      rcases Rank.eq_or_eq_of_rule? hrule with rfl | rfl <;> decide
    refine displayWidth_placed_le ?_ b.align
    rw [displayWidth_replicate hne]
    exact widest_le htext

/-! ### Boxes and items -/

section Around

variable {width : Nat} {lines : List Line}

/-- A line of a frame takes its inside and four columns, whether it is an edge or not. -/
theorem displayWidth_of_mem_framed (h : ∀ line ∈ lines, displayWidth line ≤ width) :
    ∀ line ∈ framed width lines, displayWidth line = width + 4 := by
  have hedge : ∀ left right : Char, left ≠ overlay → right ≠ overlay →
      displayWidth (left :: (List.replicate (width + 2) '─' ++ [right])) = width + 4 := by
    intro left right hleft hright
    rw [displayWidth_cons, displayWidth_append, displayWidth_replicate (by decide),
      displayWidth_cons, displayWidth_nil, if_neg hleft, if_neg hright]
  rw [framed, List.forall_mem_cons, List.forall_mem_append, List.forall_mem_map,
    List.forall_mem_singleton]
  refine ⟨hedge _ _ (by decide) (by decide), ?_, hedge _ _ (by decide) (by decide)⟩
  intro line hline
  have hpad : displayWidth (pad width .left line) = width := by
    rw [displayWidth_pad]
    exact Nat.max_eq_left (h line hline)
  have hright : displayWidth [' ', '│'] = 2 := by decide
  rw [displayWidth_cons, displayWidth_cons, displayWidth_append, hpad, hright,
    if_neg (by decide), if_neg (by decide)]

theorem displayWidth_le_of_mem_around {style : BoxStyle} (hw : style.edges < width)
    (h : ∀ line ∈ lines, displayWidth line ≤ style.innerWidth width) :
    ∀ line ∈ style.around width lines, displayWidth line ≤ width := by
  have hinner := BoxStyle.innerWidth_add_edges hw
  rw [BoxStyle.edges] at hinner
  rw [BoxStyle.around]
  split
  · next hborder =>
    rw [if_pos hborder] at hinner
    intro line hline
    rw [displayWidth_of_mem_framed h line hline]
    omega
  · next hborder =>
    rw [if_neg hborder] at hinner
    split
    · next hleft =>
      rw [if_pos hleft] at hinner
      rw [barred, List.forall_mem_map]
      intro line hline
      have hle := h line hline
      rw [displayWidth_cons, displayWidth_cons, if_neg (by decide), if_neg (by decide)]
      omega
    · next hleft =>
      rw [if_neg hleft] at hinner
      intro line hline
      have hle := h line hline
      omega

theorem displayWidth_le_of_mem_hung {marker : String} (hw : markerWidth marker ≤ width)
    (h : ∀ line ∈ lines, displayWidth line ≤ width - markerWidth marker) :
    ∀ line ∈ hung marker lines, displayWidth line ≤ width := by
  have hmarker : displayWidth marker.toList + 1 = markerWidth marker := rfl
  cases lines with
  | nil =>
    -- an empty item still shows its marker
    rw [hung, List.forall_mem_singleton, displayWidth_append, displayWidth_cons,
      displayWidth_nil, if_neg (by decide)]
    omega
  | cons first rest =>
    rw [List.forall_mem_cons] at h
    rw [hung, List.forall_mem_cons, List.forall_mem_map]
    refine ⟨?_, fun line hline => ?_⟩
    · have hle := h.1
      rw [displayWidth_append, displayWidth_cons, if_neg (by decide)]
      omega
    · have hle := h.2 line hline
      rw [displayWidth_append, displayWidth_blanks]
      omega

end Around

/-! ### Elements -/

mutual

/-- Every level hands on what its edges or its marker leave, which is enough for what is inside. So
no line of an element without tables is too wide. -/
theorem Element.displayWidth_le_of_mem_lines {width : Nat} {above : Line} :
    (e : Element) → e.TableFree → e.nesting < width →
      ∀ line ∈ e.lines width above, displayWidth line ≤ width
  | .text block, _, hw => by
    rw [Element.lines]
    exact block.displayWidth_le_of_mem_lines (Nat.zero_lt_of_lt hw) above
  | .box style children, hfree, hw => by
    rw [Element.TableFree] at hfree
    obtain ⟨hinner, hchildren⟩ := nestingOf_lt_innerWidth hw
    rw [Element.lines]
    refine displayWidth_le_of_mem_around (by omega) ?_
    exact displayWidth_le_of_mem_linesFrom children hfree hchildren
  | .list _ items, hfree, hw => by
    rw [Element.TableFree] at hfree
    rw [Element.nesting] at hw
    rw [Element.lines]
    exact displayWidth_le_of_mem_itemLines items hfree hw
  | .divider .., _, _ => by
    rw [Element.lines, List.forall_mem_singleton]
    exact Nat.le_of_eq (displayWidth_replicate (by decide) width)
  | .table .., hfree, _ => by
    rw [Element.TableFree] at hfree
    exact absurd hfree not_false
  | .spacer height, _, _ => by
    rw [Element.lines]
    intro line hline
    rw [List.eq_of_mem_replicate hline]
    exact Nat.zero_le _

theorem displayWidth_le_of_mem_linesFrom {width : Nat} {above : Line} :
    (es : List Element) → TablesFree es → nestingOf es < width →
      ∀ line ∈ linesFrom width above es, displayWidth line ≤ width
  | [], _, _ => by
    rw [linesFrom]
    exact List.forall_mem_nil _
  | e :: es, hfree, hw => by
    rw [TablesFree] at hfree
    rw [nestingOf, Nat.max_lt] at hw
    rw [linesFrom, List.forall_mem_append]
    exact ⟨e.displayWidth_le_of_mem_lines hfree.1 hw.1,
      displayWidth_le_of_mem_linesFrom es hfree.2 hw.2⟩

theorem displayWidth_le_of_mem_itemLines {width : Nat} :
    (items : List Item) → ItemsTableFree items → itemNesting items < width →
      ∀ line ∈ itemLines width items, displayWidth line ≤ width
  | [], _, _ => by
    rw [itemLines]
    exact List.forall_mem_nil _
  | .mk marker children :: items, hfree, hw => by
    rw [ItemsTableFree] at hfree
    rw [itemNesting, Nat.max_lt] at hw
    -- the marker leaves a column, so that the width beside it is the exact difference
    have hinner : max (width - markerWidth marker) 1 = width - markerWidth marker := by omega
    rw [itemLines, hinner, List.forall_mem_append]
    refine ⟨displayWidth_le_of_mem_hung (by omega) ?_, ?_⟩
    · exact displayWidth_le_of_mem_linesFrom children hfree.1 (by omega)
    · exact displayWidth_le_of_mem_itemLines items hfree.2 hw.2

end

/-! ### Where elements stand -/

/-- The layout of an element at a width comes to the layout of another at another width. -/
inductive LaidOut : Nat → Element → Nat → Element → Prop where
  | here (width : Nat) (e : Element) : LaidOut width e width e
  | box {width v : Nat} {style : BoxStyle} {children : List Element} {child f : Element}
      (hchild : child ∈ children) (h : LaidOut (style.innerWidth width) child v f) :
      LaidOut width (.box style children) v f
  | item {width v : Nat} {ordered : Bool} {items : List Item} {marker : String}
      {children : List Element} {child f : Element} (hitem : .mk marker children ∈ items)
      (hchild : child ∈ children) (h : LaidOut (max (width - markerWidth marker) 1) child v f) :
      LaidOut width (.list ordered items) v f

theorem tableFree_of_mem {es : List Element} (h : TablesFree es) : ∀ e ∈ es, e.TableFree := by
  induction es with
  | nil => exact List.forall_mem_nil _
  | cons e es ih =>
    rw [TablesFree] at h
    exact List.forall_mem_cons.mpr ⟨h.1, ih h.2⟩

theorem nesting_le_of_mem {es : List Element} : ∀ e ∈ es, e.nesting ≤ nestingOf es := by
  induction es with
  | nil => exact List.forall_mem_nil _
  | cons e es ih =>
    rw [nestingOf]
    refine List.forall_mem_cons.mpr ⟨Nat.le_max_left _ _, fun f hf => ?_⟩
    exact Nat.le_trans (ih f hf) (Nat.le_max_right _ _)

theorem tablesFree_of_mem_items {items : List Item} {marker : String} {children : List Element}
    (h : ItemsTableFree items) (hitem : .mk marker children ∈ items) : TablesFree children := by
  induction items with
  | nil => exact absurd hitem List.not_mem_nil
  | cons item items ih =>
    obtain ⟨m, es⟩ := item
    rw [ItemsTableFree] at h
    rcases List.mem_cons.mp hitem with heq | hitem
    · rw [(Item.mk.inj heq).2]
      exact h.1
    · exact ih h.2 hitem

theorem nesting_le_of_mem_items {items : List Item} {marker : String} {children : List Element}
    (hitem : .mk marker children ∈ items) :
    markerWidth marker + nestingOf children ≤ itemNesting items := by
  induction items with
  | nil => exact absurd hitem List.not_mem_nil
  | cons item items ih =>
    obtain ⟨m, es⟩ := item
    rw [itemNesting]
    rcases List.mem_cons.mp hitem with heq | hitem
    · rw [(Item.mk.inj heq).1, (Item.mk.inj heq).2]
      exact Nat.le_max_left _ _
    · exact Nat.le_trans (ih hitem) (Nat.le_max_right _ _)

/-- A column is left for every element that the layout comes to. -/
theorem LaidOut.nesting_lt {width v : Nat} {e f : Element} (h : LaidOut width e v f)
    (hfree : e.TableFree) (hw : e.nesting < width) : f.TableFree ∧ f.nesting < v := by
  -- along the path, the columns that are taken go over from the nesting to the width
  induction h with
  | here => exact ⟨hfree, hw⟩
  | box hchild _ ih =>
    rw [Element.TableFree] at hfree
    have hle := nesting_le_of_mem _ hchild
    exact ih (tableFree_of_mem hfree _ hchild)
      (Nat.lt_of_le_of_lt hle (nestingOf_lt_innerWidth hw).2)
  | item hitem hchild _ ih =>
    rw [Element.TableFree] at hfree
    rw [Element.nesting] at hw
    have hitems := nesting_le_of_mem_items hitem
    have hle := nesting_le_of_mem _ hchild
    exact ih (tableFree_of_mem (tablesFree_of_mem_items hfree hitem) _ hchild) (by omega)

/-- A line that stands in another one from a column on. -/
def StandsAt (col : Nat) (inner outer : Line) : Prop :=
  ∃ before after, outer = before ++ (inner ++ after) ∧ displayWidth before = col

/-- Lines that stand in lines next to each other, all from one column on. -/
def DrawnAt (col : Nat) (inner outer : List Line) : Prop :=
  ∃ above lines below, outer = above ++ (lines ++ below) ∧ List.Forall₂ (StandsAt col) inner lines

theorem StandsAt.refl (line : Line) : StandsAt 0 line line :=
  ⟨[], [], by rw [List.nil_append, List.append_nil], rfl⟩

theorem StandsAt.trans {c d : Nat} {inner line outer : Line} (h : StandsAt c inner line)
    (h' : StandsAt d line outer) : StandsAt (d + c) inner outer := by
  obtain ⟨before, after, rfl, rfl⟩ := h
  obtain ⟨before', after', rfl, rfl⟩ := h'
  refine ⟨before' ++ before, after ++ after', ?_, displayWidth_append before' before⟩
  rw [List.append_assoc, List.append_assoc, List.append_assoc]

theorem forall₂_standsAt_trans {c d : Nat} {inner lines outer : List Line}
    (h : List.Forall₂ (StandsAt c) inner lines) (h' : List.Forall₂ (StandsAt d) lines outer) :
    List.Forall₂ (StandsAt (d + c)) inner outer := by
  induction h generalizing outer with
  | nil =>
    cases h' with
    | nil => exact .nil
  | cons hline _ ih =>
    cases h' with
    | cons hline' hrest => exact .cons (hline.trans hline') (ih hrest)

/-- Lines in place among others. -/
theorem drawnAt_append (above lines below : List Line) :
    DrawnAt 0 lines (above ++ (lines ++ below)) :=
  ⟨above, lines, below, rfl, List.forall₂_same.mpr fun line _ => StandsAt.refl line⟩

theorem DrawnAt.refl (lines : List Line) : DrawnAt 0 lines lines := by
  have h := drawnAt_append [] lines []
  rw [List.nil_append, List.append_nil] at h
  exact h

theorem DrawnAt.trans {c d : Nat} {inner lines outer : List Line} (h : DrawnAt c inner lines)
    (h' : DrawnAt d lines outer) : DrawnAt (d + c) inner outer := by
  obtain ⟨above, mid, below, rfl, hinner⟩ := h
  obtain ⟨above', mid', below', rfl, hmid⟩ := h'
  -- `mid'` has the lines around `mid`, then `mid` itself, each in its place
  have hdrop := List.forall₂_drop_append _ _ _ hmid.flip
  have htake := List.forall₂_take_append _ _ _ hdrop
  refine ⟨above' ++ mid'.take above.length, (mid'.drop above.length).take mid.length,
    (mid'.drop above.length).drop mid.length ++ below', ?_,
    forall₂_standsAt_trans hinner htake.flip⟩
  rw [List.append_assoc, ← List.append_assoc (List.take _ _) _ below', List.take_append_drop,
    ← List.append_assoc (List.take _ _) _ below', List.take_append_drop]

/-- What is put around each of some lines on the left alike, they stand in the results from one
column on. -/
theorem forall₂_standsAt_map {lines : List Line} {build : Line → Line} (before : Line)
    (h : ∀ line, ∃ after, build line = before ++ (line ++ after)) :
    List.Forall₂ (StandsAt (displayWidth before)) lines (lines.map build) := by
  rw [List.forall₂_map_right_iff, List.forall₂_same]
  intro line _
  obtain ⟨after, hafter⟩ := h line
  exact ⟨before, after, hafter, rfl⟩

/-- What is in a box stands in its lines. -/
theorem drawnAt_around (style : BoxStyle) (width : Nat) (lines : List Line) :
    ∃ col, DrawnAt col lines (style.around width lines) := by
  rw [BoxStyle.around]
  split
  · -- a frame has an edge above its lines and one below
    refine ⟨displayWidth ['│', ' '], [_], _, [_], rfl, forall₂_standsAt_map _ fun line => ?_⟩
    refine ⟨blanks (style.innerWidth width - displayWidth line) ++ [' ', '│'], ?_⟩
    rw [pad, List.append_assoc]
    rfl
  · split
    · refine ⟨displayWidth ['│', ' '], [], barred lines, [], (List.append_nil _).symm, ?_⟩
      rw [barred]
      refine forall₂_standsAt_map _ fun line => ⟨[], ?_⟩
      rw [List.append_nil]
      rfl
    · exact ⟨0, DrawnAt.refl lines⟩

/-- Lines beside a marker begin where the blank after it ends. -/
theorem drawnAt_hung (marker : String) (lines : List Line) :
    DrawnAt (markerWidth marker) lines (hung marker lines) := by
  cases lines with
  | nil =>
    -- the line of the marker alone shows none of no lines
    exact ⟨[], [], _, rfl, .nil⟩
  | cons first rest =>
    refine ⟨[], _, [], (List.append_nil _).symm, .cons ?_ ?_⟩
    · refine ⟨marker.toList ++ [' '], [], ?_, ?_⟩
      · rw [List.append_nil, List.append_assoc, List.singleton_append]
      · rw [displayWidth_append]
        rfl
    · have hrest : List.Forall₂ (StandsAt (displayWidth (blanks (markerWidth marker)))) rest
          (rest.map (blanks (markerWidth marker) ++ ·)) :=
        forall₂_standsAt_map _ fun line => ⟨[], by rw [List.append_nil]⟩
      rw [displayWidth_blanks] at hrest
      exact hrest

theorem drawnAt_linesFrom (width : Nat) {es : List Element} {e : Element} (he : e ∈ es)
    (above : Line) : ∃ above', DrawnAt 0 (e.lines width above') (linesFrom width above es) := by
  induction es generalizing above with
  | nil => exact absurd he List.not_mem_nil
  | cons f fs ih =>
    rw [linesFrom]
    rcases List.mem_cons.mp he with rfl | he
    · exact ⟨above, drawnAt_append [] _ _⟩
    · obtain ⟨above', h⟩ := ih he ((f.lines width above).getLastD above)
      refine ⟨above', h.trans ?_⟩
      have hrest := drawnAt_append (f.lines width above)
        (linesFrom width ((f.lines width above).getLastD above) fs) []
      rw [List.append_nil] at hrest
      exact hrest

theorem drawnAt_itemLines {width : Nat} {items : List Item} {marker : String}
    {children : List Element} (hitem : .mk marker children ∈ items) :
    DrawnAt 0 (hung marker (linesFrom (max (width - markerWidth marker) 1) [] children))
      (itemLines width items) := by
  induction items with
  | nil => exact absurd hitem List.not_mem_nil
  | cons item items ih =>
    obtain ⟨m, es⟩ := item
    rw [itemLines]
    rcases List.mem_cons.mp hitem with heq | hitem
    · rw [(Item.mk.inj heq).1, (Item.mk.inj heq).2]
      exact drawnAt_append [] _ _
    · have hrest := drawnAt_append (hung m (linesFrom (max (width - markerWidth m) 1) [] es))
        (itemLines width items) []
      rw [List.append_nil] at hrest
      exact (ih hitem).trans hrest

/-- The lines of every element that the layout comes to stand in the lines laid out, next to each
other and from one column on. -/
theorem LaidOut.drawnAt {width v : Nat} {e f : Element} (h : LaidOut width e v f) (above : Line) :
    ∃ above' col, DrawnAt col (f.lines v above') (e.lines width above) := by
  induction h generalizing above with
  | here => exact ⟨above, 0, DrawnAt.refl _⟩
  | @box width v style children child f hchild _ ih =>
    -- from the element to the child, on to all children, and out into the box
    obtain ⟨start, hinside⟩ := drawnAt_linesFrom (style.innerWidth width) hchild []
    obtain ⟨above', col, hf⟩ := ih start
    obtain ⟨inset, hbox⟩ := drawnAt_around style width
      (linesFrom (style.innerWidth width) [] children)
    rw [Element.lines]
    exact ⟨above', _, (hf.trans hinside).trans hbox⟩
  | @item width v _ items marker children child f hitem hchild _ ih =>
    -- the same, then out beside the marker and into the list
    obtain ⟨start, hinside⟩ :=
      drawnAt_linesFrom (max (width - markerWidth marker) 1) hchild []
    obtain ⟨above', col, hf⟩ := ih start
    rw [Element.lines]
    exact ⟨above', _, ((hf.trans hinside).trans (drawnAt_hung marker _)).trans
      (drawnAt_itemLines hitem)⟩

/-- **Widths.** Let an element without tables be laid out at a width of which edges and markers
leave a column on every path into it. Then no line is wider, and a frame in it that is laid out at
the width `v` has lines of exactly `v` columns, which stand one below the other: its right edge is
straight. -/
theorem Element.lines_within_width {e : Element} {width : Nat} (hfree : e.TableFree)
    (hw : e.nesting < width) :
    (∀ above, ∀ line ∈ e.lines width above, displayWidth line ≤ width) ∧
      ∀ v style children, LaidOut width e v (.box style children) → style.border.isSome = true →
        (∀ above, ∀ line ∈ (Element.box style children).lines v above, displayWidth line = v) ∧
        ∀ above, ∃ above' col,
          DrawnAt col ((Element.box style children).lines v above') (e.lines width above) := by
  refine ⟨fun above => e.displayWidth_le_of_mem_lines hfree hw, ?_⟩
  intro v style children hlaid hborder
  obtain ⟨hboxfree, hv⟩ := hlaid.nesting_lt hfree hw
  refine ⟨fun above line hline => ?_, fun above => hlaid.drawnAt above⟩
  rw [Element.TableFree] at hboxfree
  obtain ⟨hinner, hchildren⟩ := nestingOf_lt_innerWidth hv
  have hedges : style.edges = 4 := if_pos hborder
  -- the lines inside fit, so that the frame fills every one of them up to the same width
  have hinside : ∀ l ∈ linesFrom (style.innerWidth v) [] children,
      displayWidth l ≤ style.innerWidth v :=
    displayWidth_le_of_mem_linesFrom children hboxfree hchildren
  rw [Element.lines, BoxStyle.around, if_pos hborder] at hline
  rw [displayWidth_of_mem_framed hinside line hline]
  omega

theorem Element.lines_within_width_nested :
    let frame : BoxStyle := { border := some Color.ink }
    let inside : List Element := [.text { runs := [.plain "two words"] }]
    let e : Element :=
      .box { borderLeft := some Color.ink } [.list false [.mk "•" [.box frame inside]]]
    e.TableFree ∧ e.nesting < 12 ∧
      e.lines 12 [] = ["│ • ┌──────┐", "│   │ two  │", "│   │ word │", "│   │ s    │",
        "│   └──────┘"].map (·.toList) ∧
      (∀ line ∈ e.lines 12 [], displayWidth line ≤ 12) ∧
      ∀ line ∈ (Element.box frame inside).lines 8 [], displayWidth line = 8 := by
  intro frame inside e
  have hfree : e.TableFree := by
    simp [e, inside, Element.TableFree, TablesFree, ItemsTableFree]
  have hnesting : e.nesting < 12 := by decide +kernel
  have hlaid : LaidOut 12 e 8 (.box frame inside) :=
    .box List.mem_cons_self (.item List.mem_cons_self List.mem_cons_self (.here 8 _))
  obtain ⟨hwithin, hframes⟩ := Element.lines_within_width hfree hnesting
  refine ⟨hfree, hnesting, ?_, hwithin [], (hframes 8 frame inside hlaid rfl).1 []⟩
  decide +kernel

end Letterhead
