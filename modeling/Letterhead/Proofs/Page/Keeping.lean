import Letterhead.Proofs.Page.Filling

/-!
# What wrapping keeps of a text

The lines of a text hold all its characters besides the blanks, and those that take a column in
their order. An overlay may come to stand behind characters that it stood before. A line that holds
nothing but overlays takes no column, so it does not end where a word follows that is too wide: the
word is cut, its pieces are lines of their own, and only the last one joins the overlays.

* `withoutOverlays` — the characters of a line that take a column;
* `Slid` — a text of which overlays have moved back;
* `begun`, `IsOvertaken`, `Overtakes` — where a word that is too wide meets overlays on a line;
* `slid_fill`, `fill_keeps_iff` — what filling keeps, and when it keeps the whole text;
* `wrap_keeps_text_iff` — what wrapping keeps of any text.
-/

namespace Letterhead

open Text (nonBlanks nonBlanks_append)

/-! ### Overlays -/

/-- A line without its overlays. -/
def withoutOverlays (line : Line) : Line :=
  line.filter (· != overlay)

@[simp] theorem withoutOverlays_append (s t : Line) :
    withoutOverlays (s ++ t) = withoutOverlays s ++ withoutOverlays t :=
  List.filter_append ..

/-- What takes no column holds nothing but overlays. -/
theorem eq_overlay_of_displayWidth_eq_zero {line : Line} (h : displayWidth line = 0) :
    ∀ c ∈ line, c = overlay := by
  intro c hc
  have hnot := List.countP_eq_zero.mp h c hc
  simpa using hnot

theorem withoutOverlays_of_displayWidth_eq_zero {line : Line} (h : displayWidth line = 0) :
    withoutOverlays line = [] := by
  rw [withoutOverlays, List.filter_eq_nil_iff]
  intro c hc
  rw [eq_overlay_of_displayWidth_eq_zero h c hc]
  decide

theorem nonBlanks_of_displayWidth_eq_zero {line : Line} (h : displayWidth line = 0) :
    nonBlanks line = line := by
  refine Text.nonBlanks_eq_self ?_
  intro c hc
  rw [eq_overlay_of_displayWidth_eq_zero h c hc]
  decide

/-- A text of which overlays have moved back behind what stood after them. -/
inductive Slid : Line → Line → Prop where
  | refl (s : Line) : Slid s s
  | slide {marks : Line} (h : displayWidth marks = 0) (s : Line) : Slid (marks ++ s) (s ++ marks)
  | append {s s' t t' : Line} : Slid s s' → Slid t t' → Slid (s ++ t) (s' ++ t')
  | trans {s t u : Line} : Slid s t → Slid t u → Slid s u

/-- No character is lost, and none is there twice. -/
theorem Slid.perm {s t : Line} (h : Slid s t) : t.Perm s := by
  induction h with
  | refl s => exact .refl s
  | slide _ s => exact List.perm_append_comm
  | append _ _ ih ih' => exact ih.append ih'
  | trans _ _ ih ih' => exact ih'.trans ih

/-- The characters that take a column stay in order. -/
theorem Slid.withoutOverlays_eq {s t : Line} (h : Slid s t) :
    withoutOverlays t = withoutOverlays s := by
  induction h with
  | refl s => rfl
  | slide hmarks s =>
    rw [withoutOverlays_append, withoutOverlays_append,
      withoutOverlays_of_displayWidth_eq_zero hmarks, List.append_nil, List.nil_append]
  | append _ _ ih ih' => rw [withoutOverlays_append, withoutOverlays_append, ih, ih']
  | trans _ _ ih ih' => rw [ih', ih]

/-- Overlays cannot go unnoticed from before something that shows to behind it. -/
theorem eq_nil_of_append_eq {marks shown s t : Line} (hmarks : displayWidth marks = 0)
    (hshown : 0 < displayWidth shown) (h : shown ++ s = marks ++ (shown ++ t)) : marks = [] := by
  -- the overlays that come first are counted on both sides
  have hleading : ∀ rest, ((shown ++ rest).takeWhile (· == overlay)) =
      shown.takeWhile (· == overlay) := by
    intro rest
    rw [List.takeWhile_append, if_neg]
    intro hall
    have hself : shown.takeWhile (· == overlay) = shown :=
      (List.takeWhile_prefix _).eq_of_length hall
    have hzero : displayWidth shown = 0 := by
      rw [displayWidth, List.countP_eq_zero]
      intro c hc
      have hc' := List.all_takeWhile (p := (· == overlay)) (l := shown)
      rw [hself, List.all_eq_true] at hc'
      simpa using hc' c hc
    omega
  have hfirst := congrArg (fun l => (l.takeWhile (· == overlay)).length) h
  have hall : ∀ c ∈ marks, (c == overlay) = true := by
    intro c hc
    rw [eq_overlay_of_displayWidth_eq_zero hmarks c hc]
    exact beq_self_eq_true _
  simp only [hleading, List.takeWhile_append_of_pos hall, List.length_append] at hfirst
  exact List.eq_nil_of_length_eq_zero (by omega)

/-! ### Where overlays are overtaken -/

section Keeping

variable {width : Nat} {line word : Line} {words : List Line}

/-- A line that holds overlays and nothing else, before a word that is too wide for a line. -/
def IsOvertaken (width : Nat) (line word : Line) : Prop :=
  displayWidth line = 0 ∧ line ≠ [] ∧ width < displayWidth word

/-- The line that is begun when words have been put on lines. -/
def begun (width : Nat) (line : Line) (words : List Line) : Line :=
  (fill width line words).getLastD []

/-- Some word is too wide for a line and comes where the line that is begun holds overlays and
nothing else. -/
def Overtakes (width : Nat) (line : Line) (words : List Line) : Prop :=
  ∃ before word after, words = before ++ word :: after ∧
    IsOvertaken width (begun width line before) word

@[simp] theorem begun_nil (width : Nat) (line : Line) : begun width line [] = line := by
  rw [begun, fill_nil]
  cases line <;> rfl

theorem begun_cons (hw : 0 < width) (hword : word ≠ []) (hwords : ∀ w ∈ words, w ≠ []) :
    begun width line (word :: words) = begun width (lineAfter width line word) words := by
  have hafter := (ne_nil_of_mem_endedBy hw line hword).2
  have hne : fill width (lineAfter width line word) words ≠ [] :=
    fill_ne_nil hw hwords (Or.inl hafter)
  rw [begun, begun, fill_cons, List.getLastD_eq_getLast?, List.getLastD_eq_getLast?,
    List.getLast?_append, List.getLast?_eq_some_getLast hne, Option.some_or]

/-- Overlays are overtaken by the first word, or by one after it. -/
theorem overtakes_cons (hw : 0 < width) (hword : word ≠ []) (hwords : ∀ w ∈ words, w ≠ []) :
    Overtakes width line (word :: words) ↔
      IsOvertaken width line word ∨ Overtakes width (lineAfter width line word) words := by
  constructor
  · rintro ⟨before, w, after, hsplit, hovertaken⟩
    cases before with
    | nil =>
      obtain ⟨rfl, -⟩ := List.cons.inj hsplit
      rw [begun_nil] at hovertaken
      exact Or.inl hovertaken
    | cons first before =>
      obtain ⟨rfl, rfl⟩ := List.cons.inj hsplit
      have hbefore : ∀ w ∈ before, w ≠ [] := fun w hw => hwords w (List.mem_append_left _ hw)
      rw [begun_cons hw hword hbefore] at hovertaken
      exact Or.inr ⟨before, w, after, rfl, hovertaken⟩
  · rintro (hovertaken | ⟨before, w, after, rfl, hovertaken⟩)
    · refine ⟨[], word, words, rfl, ?_⟩
      rwa [begun_nil]
    · have hbefore : ∀ w ∈ before, w ≠ [] := fun w hw => hwords w (List.mem_append_left _ hw)
      refine ⟨word :: before, w, after, rfl, ?_⟩
      rwa [begun_cons hw hword hbefore]

/-! ### What filling keeps -/

/-- An empty line does not count. -/
theorem flatten_wrap (width : Nat) (text : Line) :
    (wrap width text).flatten = (fill (max width 1) [] (Text.words text)).flatten := by
  rw [wrap]
  split
  · next h => rw [h]; rfl
  · rfl

/-- A word that overtakes no overlays goes behind what stands on the line. -/
theorem nonBlanks_endedBy (hw : 0 < width) (hword : ∀ c ∈ word, Text.isBlank c = false)
    (h : ¬ IsOvertaken width line word) :
    nonBlanks (endedBy width line word).flatten ++ nonBlanks (lineAfter width line word) =
      nonBlanks line ++ word := by
  have hself : nonBlanks word = word := Text.nonBlanks_eq_self hword
  have hpieces := dropLast_pieces_append hw word
  rw [endedBy, lineAfter]
  by_cases hzero : displayWidth line = 0
  · rw [if_pos hzero, if_pos hzero]
    by_cases hfits : displayWidth word ≤ width
    · rw [pieces_of_le hw hfits]
      show nonBlanks [] ++ nonBlanks (line ++ word) = _
      rw [nonBlanks_append, hself]
      rfl
    · -- the word is cut, so that there is nothing on the line
      have hnil : line = [] := by
        by_cases hne : line = []
        · exact hne
        · exact absurd ⟨hzero, hne, by omega⟩ h
      rw [hnil, ← nonBlanks_append, List.nil_append, hpieces, hself]
      rfl
  · rw [if_neg hzero, if_neg hzero]
    split
    · show nonBlanks [] ++ nonBlanks (line ++ ([' '] ++ word)) = _
      rw [nonBlanks_append, nonBlanks_append, hself]
      rfl
    · rw [List.flatten_cons, nonBlanks_append, List.append_assoc, ← nonBlanks_append, hpieces,
        hself]

/-- A word that overtakes overlays goes before them, but for its last piece. -/
theorem nonBlanks_endedBy_of_overtaken (hw : 0 < width)
    (hword : ∀ c ∈ word, Text.isBlank c = false) (h : IsOvertaken width line word) :
    ∃ shown last, shown ++ last = word ∧ 0 < displayWidth shown ∧
      nonBlanks (endedBy width line word).flatten = shown ∧
      nonBlanks (lineAfter width line word) = line ++ last := by
  obtain ⟨hzero, -, hwide⟩ := h
  have hpieces := dropLast_pieces_append hw word
  have hblank : ∀ c ∈ (pieces width word).dropLast.flatten ++ (pieces width word).getLastD [],
      Text.isBlank c = false := by
    rwa [hpieces]
  rw [List.forall_mem_append] at hblank
  refine ⟨_, _, hpieces, ?_, ?_, ?_⟩
  · -- a whole line is cut off at least
    obtain ⟨piece, rest, htail⟩ :=
      List.exists_cons_of_ne_nil (pieces_spec hw (cutAt width word).2).1
    rw [pieces_of_lt hw hwide, htail, List.dropLast_cons_cons, List.flatten_cons,
      displayWidth_append, displayWidth_cutAt_fst]
    omega
  · rw [endedBy, if_pos hzero, Text.nonBlanks_eq_self hblank.1]
  · rw [lineAfter, if_pos hzero, nonBlanks_append, nonBlanks_of_displayWidth_eq_zero hzero,
      Text.nonBlanks_eq_self hblank.2]

/-- Filling moves overlays back, and nothing else. -/
theorem slid_fill (hw : 0 < width) (hwords : ∀ w ∈ words, Text.IsWord w) (line : Line) :
    Slid (nonBlanks line ++ words.flatten) (nonBlanks (fill width line words).flatten) := by
  induction words generalizing line with
  | nil =>
    rw [fill_nil]
    cases line with
    | nil => exact .refl []
    | cons c cs =>
      rw [if_neg (by simp), List.flatten_singleton, List.flatten_nil, List.append_nil]
      exact .refl _
  | cons word rest ih =>
    obtain ⟨hword, hrest⟩ := List.forall_mem_cons.mp hwords
    rw [fill_cons, List.flatten_append, nonBlanks_append, List.flatten_cons,
      ← List.append_assoc]
    have hstep : Slid (nonBlanks line ++ word)
        (nonBlanks (endedBy width line word).flatten ++
          nonBlanks (lineAfter width line word)) := by
      by_cases h : IsOvertaken width line word
      · obtain ⟨shown, last, happend, -, hended, hafter⟩ :=
          nonBlanks_endedBy_of_overtaken hw hword.2 h
        rw [hended, hafter, nonBlanks_of_displayWidth_eq_zero h.1, ← happend,
          ← List.append_assoc, ← List.append_assoc]
        exact (Slid.slide h.1 shown).append (.refl last)
      · rw [nonBlanks_endedBy hw hword.2 h]
        exact .refl _
    -- what the word ends stays, and the line that it leaves is filled with the other words
    refine (hstep.append (.refl rest.flatten)).trans ?_
    rw [List.append_assoc]
    exact (Slid.refl _).append (ih hrest _)

/-- Filling keeps a text just where no overlays are overtaken. -/
theorem fill_keeps_iff (hw : 0 < width) (hwords : ∀ w ∈ words, Text.IsWord w) (line : Line) :
    nonBlanks (fill width line words).flatten = nonBlanks line ++ words.flatten ↔
      ¬ Overtakes width line words := by
  induction words generalizing line with
  | nil =>
    have hnone : ¬ Overtakes width line [] := by
      rintro ⟨before, word, after, hsplit, -⟩
      exact absurd hsplit (by simp)
    rw [fill_nil]
    cases line with
    | nil => exact iff_of_true rfl hnone
    | cons c cs =>
      rw [if_neg (by simp), List.flatten_singleton, List.flatten_nil, List.append_nil]
      exact iff_of_true rfl hnone
  | cons word rest ih =>
    obtain ⟨hword, hrest⟩ := List.forall_mem_cons.mp hwords
    rw [overtakes_cons hw hword.1 fun w h => (hrest w h).1, fill_cons, List.flatten_append,
      nonBlanks_append, List.flatten_cons]
    by_cases h : IsOvertaken width line word
    · -- the first characters on the lines are those of the word, and not the overlays
      refine iff_of_false ?_ (fun hnot => hnot (Or.inl h))
      intro heq
      obtain ⟨shown, last, happend, hshown, hended, -⟩ :=
        nonBlanks_endedBy_of_overtaken hw hword.2 h
      rw [hended, nonBlanks_of_displayWidth_eq_zero h.1, ← happend, List.append_assoc] at heq
      exact h.2.1 (eq_nil_of_append_eq h.1 hshown heq)
    · rw [← List.append_assoc, ← nonBlanks_endedBy hw hword.2 h, List.append_assoc,
        List.append_cancel_left_eq, ih hrest]
      exact not_congr (or_iff_right h).symm

end Keeping

/-- **Wrapping keeps the characters.** The lines of a text hold all its characters besides the blanks,
each as often as the text does, and those that take a column in their order. They hold all of them
in order just where no word that is too wide for a line comes when overlays, and nothing else, are
on the line that is begun. -/
theorem wrap_keeps_text_iff (width : Nat) (text : Line) :
    (nonBlanks (wrap width text).flatten).Perm (nonBlanks text) ∧
      withoutOverlays (nonBlanks (wrap width text).flatten) = withoutOverlays (nonBlanks text) ∧
      (nonBlanks (wrap width text).flatten = nonBlanks text ↔
        ¬ Overtakes (max width 1) [] (Text.words text)) := by
  have hw : 0 < max width 1 := by omega
  have hwords : ∀ word ∈ Text.words text, Text.IsWord word :=
    fun word hword => Text.isWord_of_mem_words hword
  have hslid := slid_fill hw hwords []
  have hkeeps := fill_keeps_iff hw hwords []
  rw [Text.nonBlanks_nil, List.nil_append, Text.flatten_words, ← flatten_wrap] at hslid hkeeps
  exact ⟨hslid.perm, hslid.withoutOverlays_eq, hkeeps⟩

/-- An overlay that stands alone comes behind a word that is cut. -/
theorem overlay_overtaken :
    let text := "\u0336 abcdefghijklmnopqrstuvwxy".toList
    wrap 24 text = ["abcdefghijklmnopqrstuvwx", "\u0336y"].map (·.toList) ∧
      nonBlanks (wrap 24 text).flatten ≠ nonBlanks text := by
  decide

end Letterhead
