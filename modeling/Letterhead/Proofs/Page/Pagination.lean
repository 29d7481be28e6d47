import Mathlib.Algebra.Order.Floor.Div
import Mathlib.Data.List.Forall2
import Letterhead.Page.Sheets

/-!
# Pages lose no line of the body

The body is cut into groups of as many lines as header and footer leave free. A page is the header,
one group and, at the bottom, the footer. A page is filled up with empty lines by a function that
would also cut it off, so that the groups must never be too long.

* `IsSheet`, `IsPagination` — what one page has to hold, and what all pages have to;
* `flatten_inGroups`, `length_inGroups`, `length_of_mem_dropLast_inGroups` — the groups;
* `isSheet_sheet` — a page of a group that fits;
* `IsPagination.mem_cases` — where the lines of pages come from;
* `Document.pages_of_room`, `Document.pages_of_no_room` — the two outcomes;
* `Document.pages_partition_body` — when there are pages, and what they hold.
-/

namespace Letterhead

/-! ### What pages have to hold -/

/-- A page of at most `height` lines that holds `part` of a body. The header stands above the part.
Under a footer the page is full, with nothing but empty lines between the part and the footer. -/
structure IsSheet (height : Nat) (header footer part page : List Line) : Prop where
  holds : ∃ gap, page = header ++ (part ++ (gap ++ footer)) ∧ (∀ line ∈ gap, line = []) ∧
    (footer = [] → gap = [])
  full : footer ≠ [] → page.length = height
  fits : page.length ≤ height

/-- The pages of a body when `room` lines of each are free for it: as few as can hold it, but at
least one. The parts that they hold are the body, and all but the last take the whole room. -/
structure IsPagination (height room : Nat) (header footer body : List Line)
    (pages : List (List Line)) : Prop where
  count : pages.length = max 1 (body.length ⌈/⌉ room)
  parts : ∃ parts : List (List Line), parts.flatten = body ∧
    (∀ part ∈ parts.dropLast, part.length = room) ∧
    List.Forall₂ (IsSheet height header footer) parts pages

/-! ### Groups -/

section Groups

variable {α : Type} {n : Nat} {lines : List α}

theorem inGroups_ne_nil (n : Nat) (lines : List α) : inGroups n lines ≠ [] := by
  rw [inGroups]
  split <;> exact List.cons_ne_nil _ _

/-- No line is lost, doubled or moved. -/
theorem flatten_inGroups (n : Nat) (lines : List α) : (inGroups n lines).flatten = lines := by
  induction lines using inGroups.induct n with
  | case1 lines h => rw [inGroups, if_pos h, List.flatten_singleton]
  | case2 lines h ih =>
    rw [inGroups, if_neg h, List.flatten_cons, ih, List.take_append_drop]

theorem length_of_mem_inGroups (hn : 0 < n) {group : List α} (hg : group ∈ inGroups n lines) :
    group.length ≤ n := by
  induction lines using inGroups.induct n with
  | case1 lines h =>
    rw [inGroups, if_pos h, List.mem_singleton] at hg
    rw [hg]
    omega
  | case2 lines h ih =>
    rw [inGroups, if_neg h, List.mem_cons] at hg
    rcases hg with rfl | hg
    · exact List.length_take_le n lines
    · exact ih hg

/-- Every group but the last is full. -/
theorem length_of_mem_dropLast_inGroups {group : List α}
    (hg : group ∈ (inGroups n lines).dropLast) : group.length = n := by
  induction lines using inGroups.induct n with
  | case1 lines h =>
    rw [inGroups, if_pos h] at hg
    exact absurd hg List.not_mem_nil
  | case2 lines h ih =>
    rw [inGroups, if_neg h, List.dropLast_cons_of_ne_nil (inGroups_ne_nil _ _),
      List.mem_cons] at hg
    rcases hg with rfl | hg
    · rw [List.length_take]
      omega
    · exact ih hg

/-- There are no more groups than the lines need. -/
theorem length_inGroups (hn : 0 < n) (lines : List α) :
    (inGroups n lines).length = max 1 (lines.length ⌈/⌉ n) := by
  have hceil : ∀ m : Nat, m ⌈/⌉ n = (m + (n - 1)) / n := by
    intro m
    rw [Nat.ceilDiv_eq_add_pred_div, Nat.add_sub_assoc (show 1 ≤ n from hn)]
  induction lines using inGroups.induct n with
  | case1 lines h =>
    -- lines that fit into one group need one or, if there are none, are given one
    have hle : (lines.length + (n - 1)) / n < 2 := (Nat.div_lt_iff_lt_mul hn).mpr (by omega)
    rw [inGroups, if_pos h, List.length_singleton, hceil]
    omega
  | case2 lines h ih =>
    -- one group taken off leaves at least one more line to hold
    have hrest : 1 ≤ (lines.length - n + (n - 1)) / n := (Nat.one_le_div_iff hn).mpr (by omega)
    have hstep : (lines.length + (n - 1)) / n = (lines.length - n + (n - 1)) / n + 1 := by
      rw [← Nat.add_div_right _ hn]
      congr 1
      omega
    rw [inGroups, if_neg h, List.length_cons, ih, List.length_drop, hceil, hceil, hstep]
    omega

end Groups

/-! ### Sheets -/

theorem resized_of_le {height : Nat} {lines : List Line} (h : lines.length ≤ height) :
    resized height lines = lines ++ List.replicate (height - lines.length) [] := by
  rw [resized, List.take_of_length_le h]

/-- A part of the body that fits is held by its page, and none of it is cut off. -/
theorem isSheet_sheet {height : Nat} {header footer part : List Line}
    (h : header.length + part.length + footer.length ≤ height) :
    IsSheet height header footer part (sheet height header footer part) := by
  cases footer with
  | nil =>
    have hs : sheet height header [] part = header ++ part := rfl
    rw [hs]
    refine ⟨⟨[], ?_, ?_, fun _ => rfl⟩, fun hne => absurd rfl hne, ?_⟩
    · rw [List.nil_append, List.append_nil]
    · intro line hline
      exact absurd hline List.not_mem_nil
    · rw [List.length_append]
      exact h
  | cons line rest =>
    -- what stands above the footer is not too high, so that `resized` only adds to it
    have hroom : (header ++ part).length ≤ height - (line :: rest).length := by
      rw [List.length_append]
      omega
    have hs : sheet height header (line :: rest) part = header ++ (part ++
        (List.replicate (height - (line :: rest).length - (header ++ part).length) []
          ++ line :: rest)) := by
      rw [sheet, if_neg (by simp), resized_of_le hroom, List.append_assoc, List.append_assoc]
    have hlen : (sheet height header (line :: rest) part).length = height := by
      rw [hs, List.length_append, List.length_append, List.length_append, List.length_replicate]
      rw [List.length_append] at hroom ⊢
      omega
    refine ⟨⟨_, hs, ?_, fun hnil => absurd hnil (List.cons_ne_nil _ _)⟩, fun _ => hlen,
      Nat.le_of_eq hlen⟩
    intro gap hgap
    exact List.eq_of_mem_replicate hgap

/-- The sheets of the groups of a body are its pages. -/
theorem isPagination_map_sheet {height room : Nat} {header footer : List Line}
    (hroom : 0 < room) (hheight : header.length + footer.length + room = height)
    (body : List Line) :
    IsPagination height room header footer body
      ((inGroups room body).map (sheet height header footer)) := by
  -- the parts are the groups
  refine ⟨?_, inGroups room body, flatten_inGroups room body, ?_, ?_⟩
  · rw [List.length_map, length_inGroups hroom]
  · intro part hpart
    exact length_of_mem_dropLast_inGroups hpart
  · rw [List.forall₂_map_right_iff, List.forall₂_same]
    intro part hpart
    have hle := length_of_mem_inGroups hroom hpart
    exact isSheet_sheet (by omega)

/-! ### Lines of pages -/

section Lines

variable {height room : Nat} {header footer body : List Line} {pages : List (List Line)}

theorem IsPagination.ne_nil (h : IsPagination height room header footer body pages) :
    pages ≠ [] := by
  intro hnil
  have hcount := h.count
  rw [hnil, List.length_nil] at hcount
  omega

/-- A line of a page that is not empty is one of the header, of the body or of the footer. -/
theorem IsPagination.mem_cases (h : IsPagination height room header footer body pages)
    {page : List Line} (hpage : page ∈ pages) {line : Line} (hline : line ∈ page) :
    line = [] ∨ line ∈ header ∨ line ∈ body ∨ line ∈ footer := by
  obtain ⟨parts, hflat, -, hparts⟩ := h.parts
  -- the page at a place holds the part at the same place
  obtain ⟨i, hi, rfl⟩ := List.mem_iff_getElem.mp hpage
  have hi' : i < parts.length := by
    rw [hparts.length_eq]
    exact hi
  obtain ⟨gap, heq, hgap, -⟩ := (hparts.get hi' hi).holds
  rw [List.get_eq_getElem, List.get_eq_getElem] at heq
  rw [heq] at hline
  rcases List.mem_append.mp hline with hline | hline
  · exact Or.inr (Or.inl hline)
  rcases List.mem_append.mp hline with hline | hline
  · rw [← hflat]
    exact Or.inr (Or.inr (Or.inl (List.mem_flatten.mpr ⟨_, List.getElem_mem hi', hline⟩)))
  rcases List.mem_append.mp hline with hline | hline
  · exact Or.inl (hgap line hline)
  · exact Or.inr (Or.inr (Or.inr hline))

end Lines

/-! ### Documents -/

namespace Document

variable {size : PageSize} {d : Document}

/-- Whether a page is wide enough, and has a line that header and footer leave free. -/
def HasRoom (size : PageSize) (d : Document) : Prop :=
  24 ≤ size.columns ∧
    (regionLines size.columns d.header).length + (regionLines size.columns d.footer).length
      < size.lines

theorem pages_of_room (h : HasRoom size d) :
    d.pages size = .ok ((inGroups (size.lines - ((regionLines size.columns d.header).length +
      (regionLines size.columns d.footer).length)) (d.body.lines size.columns)).map
        (sheet size.lines (regionLines size.columns d.header)
          (regionLines size.columns d.footer))) := by
  obtain ⟨hwide, hroom⟩ := h
  have hnarrow : ¬ size.columns < PageSize.fewestColumns := Nat.not_lt.mpr hwide
  rw [pages, if_neg hnarrow]
  simp only [PageSize.bodyLines?, if_pos hroom]

theorem pages_of_no_room (h : ¬ HasRoom size d) : ∃ e, d.pages size = .error e := by
  by_cases hnarrow : size.columns < PageSize.fewestColumns
  · exact ⟨.narrow size, by rw [pages, if_pos hnarrow]⟩
  · have hroom : ¬ (regionLines size.columns d.header).length +
        (regionLines size.columns d.footer).length < size.lines :=
      fun hlt => h ⟨Nat.not_lt.mp hnarrow, hlt⟩
    rw [pages, if_neg hnarrow]
    simp only [PageSize.bodyLines?, if_neg hroom]
    exact ⟨_, rfl⟩

theorem hasRoom_of_pages {pages : List (List Line)} (h : d.pages size = .ok pages) :
    HasRoom size d := by
  by_contra hno
  obtain ⟨e, he⟩ := pages_of_no_room hno
  rw [he] at h
  cases h

/-- The pages of a document are those of its body, in the room that header and footer leave. -/
theorem isPagination_of_pages {pages : List (List Line)} (h : d.pages size = .ok pages) :
    IsPagination size.lines
      (size.lines - ((regionLines size.columns d.header).length +
        (regionLines size.columns d.footer).length))
      (regionLines size.columns d.header) (regionLines size.columns d.footer)
      (d.body.lines size.columns) pages := by
  have hroom := hasRoom_of_pages h
  rw [pages_of_room hroom, Except.ok.injEq] at h
  obtain ⟨-, hlt⟩ := hroom
  rw [← h]
  exact isPagination_map_sheet (by omega) (by omega) _

/-- **Pages.** A document has none exactly if the page is narrower than 24 columns, or header and
footer take all its lines. Otherwise the pages are those of its body in the room that header and
footer leave, which is at least a line. -/
theorem pages_partition_body (size : PageSize) (d : Document) :
    let header := regionLines size.columns d.header
    let footer := regionLines size.columns d.footer
    let room := size.lines - header.length - footer.length
    ((∃ e, d.pages size = .error e) ↔
      size.columns < 24 ∨ size.lines ≤ header.length + footer.length) ∧
    ∀ pages, d.pages size = .ok pages →
      0 < room ∧
        IsPagination size.lines room header footer (d.body.lines size.columns) pages := by
  intro header footer room
  have hroom_iff : HasRoom size d ↔
      ¬ (size.columns < 24 ∨ size.lines ≤ header.length + footer.length) := by
    rw [not_or, Nat.not_lt, Nat.not_le]
    exact Iff.rfl
  refine ⟨⟨?_, ?_⟩, ?_⟩
  · rintro ⟨e, he⟩
    by_contra hno
    rw [pages_of_room (hroom_iff.mpr hno)] at he
    cases he
  · intro hno
    exact pages_of_no_room fun h => hroom_iff.mp h hno
  · -- the subtraction of both heights at once is the one that `pages` makes
    intro pages hpages
    have hlt : header.length + footer.length < size.lines := (hasRoom_of_pages hpages).2
    have hsub : room = size.lines - (header.length + footer.length) := Nat.sub_sub _ _ _
    refine ⟨by omega, ?_⟩
    rw [hsub]
    exact isPagination_of_pages hpages

theorem pages_partition_body_strip :
    let size : PageSize := ⟨"strip", 24, 3⟩
    let rule : List Element := [.divider Color.ink 1.0]
    let d : Document :=
      { page := { font := "Courier" }
        header := some ⟨true, rule⟩
        body := ⟨false, [.text { runs := [.plain "one\ntwo"] }]⟩
        footer := some ⟨true, rule⟩ }
    let line : Line := List.replicate 24 '─'
    let pages := [[line, "one".toList, line], [line, "two".toList, line]]
    d.pages size = .ok pages ∧
      IsPagination 3 1 [line] [line] ["one".toList, "two".toList] pages := by
  intro size rule d line pages
  have hpages : d.pages size = .ok pages := by
    rw [pages_of_room ⟨by decide, by decide +kernel⟩, Except.ok.injEq]
    decide +kernel
  have hbody : d.body.lines 24 = ["one".toList, "two".toList] := by decide +kernel
  refine ⟨hpages, ?_⟩
  rw [← hbody]
  exact ((pages_partition_body size d).2 pages hpages).2

end Document

end Letterhead
