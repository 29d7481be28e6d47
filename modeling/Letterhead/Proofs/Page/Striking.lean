import Letterhead.Proofs.Page.Keeping

/-!
# Struck text on lines

A run is struck by an overlay behind each of its characters that is not blank. So no word of a
struck text begins with an overlay, unless a text holds overlays of its own, and then wrapping moves
no overlay: it stays with its character, and lines break where they do without any overlays.

* `IsAnchored`, `isAnchored_struckText` — texts of which no word begins with an overlay;
* `IsAnchored.nonBlanks_wrap`, `IsAnchored.head?_of_mem_wrap` — their lines keep the text and begin
  with no overlay;
* `fill_withoutOverlays`, `IsAnchored.wrap_withoutOverlays` — their lines are the same without
  overlays;
* `strike_survives` — the lines of struck runs.
-/

namespace Letterhead

open Text (nonBlanks nonBlanks_append nonBlanks_cons)

/-! ### Texts of which no word begins with an overlay -/

/-- No word of a text begins with an overlay: each overlay has a character that it strikes. -/
def IsAnchored (text : Line) : Prop :=
  ∀ word ∈ Text.words text, word.head? ≠ some overlay

section Anchored

variable {text : Line}

theorem head?_nil_ne_overlay : ([] : Line).head? ≠ some overlay :=
  (Option.some_ne_none overlay).symm

/-- A word that does not begin with an overlay shows something. -/
theorem displayWidth_pos {word : Line} (hne : word ≠ []) (h : word.head? ≠ some overlay) :
    0 < displayWidth word := by
  cases word with
  | nil => exact absurd rfl hne
  | cons c cs =>
    have hc : c ≠ overlay := fun heq => h (congrArg some heq)
    rw [displayWidth_cons, if_neg hc]
    omega

theorem IsAnchored.displayWidth_pos (h : IsAnchored text) :
    ∀ word ∈ Text.words text, 0 < displayWidth word :=
  fun word hword => Letterhead.displayWidth_pos (Text.isWord_of_mem_words hword).1 (h word hword)

/-- The pieces between blanks that are no words are empty, and begin with nothing. -/
theorem isAnchored_iff :
    IsAnchored text ↔ ∀ piece ∈ text.splitOnP Text.isBlank, piece.head? ≠ some overlay := by
  constructor
  · intro h piece hpiece
    cases piece with
    | nil => exact head?_nil_ne_overlay
    | cons c cs => exact h _ (List.mem_filter.mpr ⟨hpiece, rfl⟩)
  · intro h word hword
    exact h word (List.mem_filter.mp hword).1

theorem isAnchored_nil : IsAnchored [] :=
  List.forall_mem_nil _

/-- A blank begins no word. -/
theorem IsAnchored.blank_cons (h : IsAnchored text) {b : Char} (hb : Text.isBlank b = true) :
    IsAnchored (b :: text) := by
  rw [isAnchored_iff] at h ⊢
  rw [List.splitOnP_cons_eq_if_modifyHead, if_pos hb]
  exact List.forall_mem_cons.mpr ⟨head?_nil_ne_overlay, h⟩

/-- What begins with a character that is no overlay, and holds no blank, may stand before. -/
theorem IsAnchored.append (h : IsAnchored text) {c : Char} {cs : Line} (hc : c ≠ overlay)
    (hblank : ∀ d ∈ c :: cs, Text.isBlank d = false) : IsAnchored (c :: cs ++ text) := by
  rw [isAnchored_iff] at h ⊢
  obtain ⟨first, rest, htext, hsplit⟩ := Text.exists_splitOnP_append hblank text
  rw [htext] at h
  rw [hsplit]
  refine List.forall_mem_cons.mpr ⟨?_, (List.forall_mem_cons.mp h).2⟩
  exact fun hhead => hc (Option.some.inj hhead)

theorem IsAnchored.cons (h : IsAnchored text) {c : Char} (hc : c ≠ overlay) :
    IsAnchored (c :: text) := by
  cases hb : Text.isBlank c with
  | true => exact h.blank_cons hb
  | false => exact h.append hc (List.forall_mem_singleton.mpr hb)

theorem IsAnchored.struckChar_append (h : IsAnchored text) {c : Char} (hc : c ≠ overlay) :
    IsAnchored (struckChar c ++ text) := by
  rw [struckChar]
  cases hb : Text.isBlank c with
  | true => exact h.blank_cons hb
  | false =>
    refine h.append hc ?_
    rw [List.forall_mem_cons, List.forall_mem_singleton]
    exact ⟨hb, by decide⟩

/-- A run without overlays of its own may stand before. -/
theorem IsAnchored.run_append (h : IsAnchored text) {r : Run} (hr : overlay ∉ r.text.toList) :
    IsAnchored (r.struckText ++ text) := by
  have hchars : ∀ c ∈ r.text.toList, c ≠ overlay := fun c hc heq => hr (heq ▸ hc)
  rw [Run.struckText]
  generalize r.text.toList = cs at hchars
  -- from the last character of the run to the first, with an overlay behind it or without one
  split
  · induction cs with
    | nil => exact h
    | cons c cs ih =>
      obtain ⟨hc, hcs⟩ := List.forall_mem_cons.mp hchars
      rw [List.flatMap_cons, List.append_assoc]
      exact (ih hcs).struckChar_append hc
  · induction cs with
    | nil => exact h
    | cons c cs ih =>
      obtain ⟨hc, hcs⟩ := List.forall_mem_cons.mp hchars
      exact (ih hcs).cons hc

/-- The text of runs without overlays of their own. -/
theorem isAnchored_struckText {runs : List Run} (h : ∀ r ∈ runs, overlay ∉ r.text.toList) :
    IsAnchored (struckText runs) := by
  induction runs with
  | nil => exact isAnchored_nil
  | cons r runs ih =>
    obtain ⟨hr, hruns⟩ := List.forall_mem_cons.mp h
    rw [struckText, List.flatMap_cons]
    exact (ih hruns).run_append hr

/-- A part of a text that is cut at line feeds has words of the text only. -/
theorem IsAnchored.of_mem_splitOn (h : IsAnchored text) {part : Line}
    (hpart : part ∈ text.splitOn '\n') : IsAnchored part := by
  intro word hword
  refine h word ?_
  rw [← Text.flatMap_words_splitOn (b := '\n') (by decide)]
  exact List.mem_flatMap.mpr ⟨part, hpart, hword⟩

end Anchored

/-! ### Their lines -/

section Lines

variable {width : Nat} {line word text : Line} {words : List Line}

/-- A line that shows something, or holds nothing, does so after a word that shows something. -/
theorem displayWidth_lineAfter_pos (hw : 0 < width) (hword : 0 < displayWidth word) :
    0 < displayWidth (lineAfter width line word) := by
  have hpieces := displayWidth_pos_of_mem_pieces hw hword
  refine (forall_mem_endedBy (Q := (0 < displayWidth ·)) hw hpieces ?_ ?_ ?_).2
  · intro piece hpiece _
    rw [displayWidth_append]
    exact Nat.lt_add_left _ (hpieces piece hpiece)
  · intro hline _
    rw [displayWidth_append]
    omega
  · exact Nat.pos_of_ne_zero

/-- Words that show something leave no overlays alone on a line. -/
theorem not_overtakes (hw : 0 < width) (hwords : ∀ word ∈ words, 0 < displayWidth word)
    (hline : line = [] ∨ 0 < displayWidth line) : ¬ Overtakes width line words := by
  induction words generalizing line with
  | nil =>
    rintro ⟨before, word, after, hsplit, -⟩
    exact absurd hsplit (by simp)
  | cons word rest ih =>
    obtain ⟨hword, hrest⟩ := List.forall_mem_cons.mp hwords
    rw [overtakes_cons hw (ne_nil_of_displayWidth_pos hword) fun w h =>
      ne_nil_of_displayWidth_pos (hrest w h)]
    rintro (⟨hzero, hnil, -⟩ | hlater)
    · rcases hline with rfl | hpos
      · exact hnil rfl
      · omega
    · exact ih hrest (Or.inr (displayWidth_lineAfter_pos hw hword)) hlater

/-- Where no word begins with an overlay, wrapping keeps the text. -/
theorem IsAnchored.nonBlanks_wrap (h : IsAnchored text) (width : Nat) :
    nonBlanks (wrap width text).flatten = nonBlanks text := by
  have hw : 0 < max width 1 := by omega
  have hkeeps := (fill_keeps_iff hw (fun word hword => Text.isWord_of_mem_words hword) []).mpr
    (not_overtakes hw h.displayWidth_pos (Or.inl rfl))
  rwa [Text.nonBlanks_nil, List.nil_append, Text.flatten_words, ← flatten_wrap] at hkeeps

/-- Where no word begins with an overlay, no line does. -/
theorem IsAnchored.head?_of_mem_wrap (h : IsAnchored text) (hline : line ∈ wrap width text) :
    line.head? ≠ some overlay := by
  have hw : 0 < max width 1 := by omega
  rcases mem_wrap hline with rfl | hline
  · exact head?_nil_ne_overlay
  refine forall_mem_fill (Q := fun l => l.head? ≠ some overlay) hw ?_ ?_ ?_
    head?_nil_ne_overlay line hline
  · intro word hword
    exact head?_ne_overlay_of_mem_pieces hw (h word hword)
  · -- a line that shows nothing and does not begin with an overlay is empty
    intro l piece hzero hl hpiece
    cases l with
    | nil => exact hpiece
    | cons c cs =>
      have hc := eq_overlay_of_displayWidth_eq_zero hzero c List.mem_cons_self
      exact absurd (congrArg some hc) hl
  · intro l word _ _ _ hl
    -- a line begins as before, unless it was empty: then with the space
    cases l with
    | nil => exact fun hhead => absurd (Option.some.inj hhead) (by decide)
    | cons c cs => exact hl

/-! ### Their lines without overlays -/

theorem withoutOverlays_cons (c : Char) (line : Line) :
    withoutOverlays (c :: line) =
      if c = overlay then withoutOverlays line else c :: withoutOverlays line := by
  rw [withoutOverlays, List.filter_cons]
  by_cases hc : c = overlay
  · rw [if_pos hc, hc]
    rfl
  · rw [if_neg hc, if_pos (by simpa using hc)]
    rfl

@[simp] theorem displayWidth_withoutOverlays (line : Line) :
    displayWidth (withoutOverlays line) = displayWidth line := by
  rw [displayWidth, displayWidth, withoutOverlays, List.countP_filter]
  simp

/-- A line that shows something is not empty without its overlays, either. -/
theorem isEmpty_withoutOverlays (h : 0 < displayWidth line) :
    (withoutOverlays line).isEmpty = false := by
  rw [← displayWidth_withoutOverlays] at h
  exact List.isEmpty_eq_false_iff.mpr (ne_nil_of_displayWidth_pos h)

/-- A word is cut at the same characters. -/
theorem cutAt_withoutOverlays (n : Nat) (word : Line) :
    cutAt n (withoutOverlays word) =
      Prod.map withoutOverlays withoutOverlays (cutAt n word) := by
  induction word generalizing n with
  | nil => cases n <;> rfl
  | cons c cs ih =>
    rw [withoutOverlays_cons]
    by_cases hc : c = overlay
    · rw [if_pos hc, cutAt_of_overlay hc, ih, Prod.map_map]
      congr 1
      funext l
      exact (if_pos hc).symm.trans (withoutOverlays_cons c l).symm
    · rw [if_neg hc]
      cases n with
      | zero =>
        rw [cutAt, if_neg hc, cutAt, if_neg hc, Prod.map_apply, withoutOverlays_cons, if_neg hc]
        rfl
      | succ n =>
        rw [cutAt, if_neg hc, cutAt, if_neg hc, ih, Prod.map_map, Prod.map_map]
        congr 1
        funext l
        exact ((withoutOverlays_cons c l).trans (if_neg hc)).symm

theorem pieces_withoutOverlays (hw : 0 < width) (word : Line) :
    pieces width (withoutOverlays word) = (pieces width word).map withoutOverlays := by
  induction word using cut_induction hw with
  | hfits word hfits =>
    rw [pieces_of_le hw hfits, pieces_of_le hw (by rwa [displayWidth_withoutOverlays])]
    rfl
  | hcut word hlt ih =>
    rw [pieces_of_lt hw hlt, pieces_of_lt hw (by rwa [displayWidth_withoutOverlays]),
      cutAt_withoutOverlays, List.map_cons, ← ih]
    rfl

theorem getLastD_map_withoutOverlays (lines : List Line) :
    (lines.map withoutOverlays).getLastD [] = withoutOverlays (lines.getLastD []) := by
  rw [List.getLastD_eq_getLast?, List.getLastD_eq_getLast?, List.getLast?_map]
  cases lines.getLast? <;> rfl

theorem endedBy_withoutOverlays (hw : 0 < width) (line word : Line) :
    endedBy width (withoutOverlays line) (withoutOverlays word) =
      (endedBy width line word).map withoutOverlays := by
  rw [endedBy, endedBy, displayWidth_withoutOverlays, displayWidth_withoutOverlays,
    pieces_withoutOverlays hw, ← List.map_dropLast]
  split
  · rfl
  · split <;> rfl

theorem lineAfter_withoutOverlays (hw : 0 < width) (line word : Line) :
    lineAfter width (withoutOverlays line) (withoutOverlays word) =
      withoutOverlays (lineAfter width line word) := by
  rw [lineAfter, lineAfter, displayWidth_withoutOverlays, displayWidth_withoutOverlays,
    pieces_withoutOverlays hw, getLastD_map_withoutOverlays]
  split
  · rw [withoutOverlays_append]
  · split
    · rw [withoutOverlays_append]
      rfl
    · rfl

/-- Words that show something fill the same lines without overlays. -/
theorem fill_withoutOverlays (hw : 0 < width) (hwords : ∀ word ∈ words, 0 < displayWidth word)
    (hline : line = [] ∨ 0 < displayWidth line) :
    fill width (withoutOverlays line) (words.map withoutOverlays) =
      (fill width line words).map withoutOverlays := by
  induction words generalizing line with
  | nil =>
    rw [List.map_nil, fill_nil, fill_nil]
    rcases hline with rfl | hpos
    · rfl
    · have hne : ¬ line.isEmpty = true :=
        fun hempty => ne_nil_of_displayWidth_pos hpos (List.isEmpty_iff.mp hempty)
      rw [if_neg hne, isEmpty_withoutOverlays hpos]
      rfl
  | cons word rest ih =>
    obtain ⟨hword, hrest⟩ := List.forall_mem_cons.mp hwords
    rw [List.map_cons, fill_cons, fill_cons, endedBy_withoutOverlays hw,
      lineAfter_withoutOverlays hw, List.map_append,
      ih hrest (Or.inr (displayWidth_lineAfter_pos hw hword))]

theorem IsAnchored.words_withoutOverlays (h : IsAnchored text) :
    Text.words (withoutOverlays text) = (Text.words text).map withoutOverlays := by
  have hsplit : (withoutOverlays text).splitOnP Text.isBlank =
      (text.splitOnP Text.isBlank).map withoutOverlays := by
    refine Text.splitOnP_filter ?_ text
    -- an overlay is no blank
    intro c hc
    by_cases hov : c = overlay
    · rw [hov] at hc
      exact absurd hc (by decide)
    · simpa using hov
  rw [Text.words, Text.words, hsplit, List.filter_map]
  congr 1
  refine List.filter_congr ?_
  -- no piece that is not empty becomes so
  intro piece hpiece
  cases piece with
  | nil => rfl
  | cons c cs =>
    have hword : c :: cs ∈ Text.words text := List.mem_filter.mpr ⟨hpiece, rfl⟩
    rw [Function.comp_apply, isEmpty_withoutOverlays (h.displayWidth_pos _ hword)]
    rfl

/-- Where no word begins with an overlay, lines break as they do without overlays. -/
theorem IsAnchored.wrap_withoutOverlays (h : IsAnchored text) (width : Nat) :
    wrap width (withoutOverlays text) = (wrap width text).map withoutOverlays := by
  have hw : 0 < max width 1 := by omega
  have hfill : fill (max width 1) [] (Text.words (withoutOverlays text)) =
      (fill (max width 1) [] (Text.words text)).map withoutOverlays := by
    rw [h.words_withoutOverlays]
    exact fill_withoutOverlays hw h.displayWidth_pos (Or.inl rfl)
  rw [wrap, wrap, hfill]
  cases fill (max width 1) [] (Text.words text) <;> rfl

end Lines

/-! ### Runs -/

/-- A run that is not struck. -/
def Run.unstruck (r : Run) : Run :=
  { r with strike := false }

/-- The characters of a run that are not blank, each with an overlay if the run is struck. -/
def Run.strokes (r : Run) : Line :=
  (nonBlanks r.text.toList).flatMap fun c => if r.strike then [c, overlay] else [c]

theorem Run.nonBlanks_struckText (r : Run) : nonBlanks r.struckText = r.strokes := by
  rw [struckText, strokes]
  generalize r.text.toList = cs
  cases r.strike with
  | false => exact (List.flatMap_singleton' _).symm
  | true =>
    show nonBlanks (cs.flatMap struckChar) = (nonBlanks cs).flatMap fun c => [c, overlay]
    induction cs with
    | nil => rfl
    | cons c cs ih =>
      rw [List.flatMap_cons, nonBlanks_append, ih, struckChar, nonBlanks_cons]
      cases hc : Text.isBlank c with
      | true =>
        -- a blank is not struck, and is left out on both sides
        show nonBlanks [c] ++ _ = _
        rw [nonBlanks_cons, hc]
        rfl
      | false =>
        show nonBlanks [c, overlay] ++ _ = _
        rw [nonBlanks_cons, hc]
        rfl

/-- The characters of runs that are not blank, struck as the runs are. -/
theorem nonBlanks_struckText (runs : List Run) :
    nonBlanks (struckText runs) = runs.flatMap Run.strokes := by
  induction runs with
  | nil => rfl
  | cons r runs ih =>
    rw [struckText] at ih ⊢
    rw [List.flatMap_cons, nonBlanks_append, r.nonBlanks_struckText, ih, List.flatMap_cons]

/-- Without its overlays a run is as if it was not struck. -/
theorem Run.withoutOverlays_struckText {r : Run} (h : overlay ∉ r.text.toList) :
    withoutOverlays r.struckText = r.unstruck.struckText := by
  have hself : ∀ cs : Line, overlay ∉ cs → withoutOverlays cs = cs := by
    intro cs hcs
    refine List.filter_eq_self.mpr ?_
    intro c hc
    have hne : c ≠ overlay := fun heq => hcs (heq ▸ hc)
    simpa using hne
  show withoutOverlays r.struckText = r.text.toList
  rw [struckText]
  generalize r.text.toList = cs at h
  cases r.strike with
  | false => exact hself cs h
  | true =>
    show withoutOverlays (cs.flatMap struckChar) = cs
    induction cs with
    | nil => rfl
    | cons c cs ih =>
      obtain ⟨hc, hcs⟩ := not_or.mp (mt List.mem_cons.mpr h)
      have hchar : withoutOverlays (struckChar c) = [c] := by
        rw [struckChar]
        split
        · rw [withoutOverlays_cons, if_neg (Ne.symm hc)]
          rfl
        · rw [withoutOverlays_cons, if_neg (Ne.symm hc)]
          rfl
      rw [List.flatMap_cons, withoutOverlays_append, hchar, ih hcs, List.singleton_append]

/-- Taking the overlays off struck runs gives the text of the runs without the strokes. -/
theorem withoutOverlays_struckText {runs : List Run} (h : ∀ r ∈ runs, overlay ∉ r.text.toList) :
    withoutOverlays (struckText runs) = struckText (runs.map Run.unstruck) := by
  induction runs with
  | nil => rfl
  | cons r runs ih =>
    obtain ⟨hr, hruns⟩ := List.forall_mem_cons.mp h
    have ih := ih hruns
    rw [struckText] at ih ⊢
    rw [struckText, List.map_cons, List.flatMap_cons, List.flatMap_cons, withoutOverlays_append,
      Run.withoutOverlays_struckText hr, ih, struckText]

/-! ### Lines of runs -/

section WrapAll

variable {text line : Line}

/-- What is parted by line feeds is wrapped part by part, and keeps the text. -/
theorem IsAnchored.nonBlanks_wrapAll (h : IsAnchored text) (width : Nat) :
    nonBlanks (wrapAll width text).flatten = nonBlanks text := by
  have hparts : ∀ parts : List Line, (∀ part ∈ parts, IsAnchored part) →
      nonBlanks (parts.flatMap (wrap width)).flatten = (parts.flatMap Text.words).flatten := by
    intro parts hparts
    induction parts with
    | nil => rfl
    | cons part parts ih =>
      obtain ⟨hpart, hrest⟩ := List.forall_mem_cons.mp hparts
      rw [List.flatMap_cons, List.flatMap_cons, List.flatten_append, List.flatten_append,
        nonBlanks_append, hpart.nonBlanks_wrap, ih hrest, Text.flatten_words]
  calc
    nonBlanks (wrapAll width text).flatten =
        ((text.splitOn '\n').flatMap Text.words).flatten :=
      hparts _ fun part hpart => h.of_mem_splitOn hpart
    _ = (Text.words text).flatten := by rw [Text.flatMap_words_splitOn (by decide)]
    _ = nonBlanks text := Text.flatten_words text

theorem IsAnchored.head?_of_mem_wrapAll (h : IsAnchored text) {width : Nat}
    (hline : line ∈ wrapAll width text) : line.head? ≠ some overlay := by
  obtain ⟨part, hpart, hline⟩ := List.mem_flatMap.mp hline
  exact (h.of_mem_splitOn hpart).head?_of_mem_wrap hline

theorem IsAnchored.wrapAll_withoutOverlays (h : IsAnchored text) (width : Nat) :
    wrapAll width (withoutOverlays text) = (wrapAll width text).map withoutOverlays := by
  have hsplit : (withoutOverlays text).splitOn '\n' =
      (text.splitOn '\n').map withoutOverlays := by
    rw [List.splitOn_eq_splitOnP, List.splitOn_eq_splitOnP]
    refine Text.splitOnP_filter ?_ text
    -- a line feed is no overlay
    intro c hc
    rw [eq_of_beq hc]
    decide
  rw [wrapAll, wrapAll, hsplit, List.flatMap_map, List.map_flatMap, List.flatMap_def,
    List.flatMap_def]
  refine congrArg List.flatten (List.map_congr_left ?_)
  intro part hpart
  exact (h.of_mem_splitOn hpart).wrap_withoutOverlays width

/-- Of blanks a line holds only spaces, so that it is without blanks when it is without these. -/
theorem filter_ne_space_wrapAll (width : Nat) (text : Line) :
    (wrapAll width text).flatten.filter (· != ' ') = nonBlanks (wrapAll width text).flatten := by
  refine List.filter_congr ?_
  intro c hc
  obtain ⟨line, hline, hc⟩ := List.mem_flatten.mp hc
  have hplain := isPlain_of_mem_wrapAll hline c hc
  cases hblank : Text.isBlank c with
  | true =>
    rw [hplain hblank]
    rfl
  | false =>
    have hne : c ≠ ' ' := by
      rintro rfl
      exact absurd hblank (by decide)
    simpa using hne

end WrapAll

/-- **Strokes stay where they are.** Let runs be wrapped that hold no overlays of their own. Without
the spaces their lines are the characters of the runs that are not blank, in order, each with an
overlay behind it just if its run is struck. No line begins with an overlay. And if no run were
struck, the lines would break at the same places, and be the same without their overlays. -/
theorem strike_survives (width : Nat) (runs : List Run)
    (h : ∀ r ∈ runs, overlay ∉ r.text.toList) :
    let lines := wrapAll width (struckText runs)
    lines.flatten.filter (· != ' ') = runs.flatMap Run.strokes ∧
      (∀ line ∈ lines, line.head? ≠ some overlay) ∧
      wrapAll width (struckText (runs.map Run.unstruck)) = lines.map withoutOverlays := by
  intro lines
  have hanchored : IsAnchored (struckText runs) := isAnchored_struckText h
  refine ⟨?_, fun line hline => hanchored.head?_of_mem_wrapAll hline, ?_⟩
  · calc
      lines.flatten.filter (· != ' ') = nonBlanks lines.flatten :=
        filter_ne_space_wrapAll width (struckText runs)
      _ = nonBlanks (struckText runs) := hanchored.nonBlanks_wrapAll width
      _ = runs.flatMap Run.strokes := nonBlanks_struckText runs
  · rw [← withoutOverlays_struckText h]
    exact hanchored.wrapAll_withoutOverlays width

/-- A run that strikes the end of one word and the beginning of the next. -/
theorem strike_survives_within_words :
    let runs : List Run :=
      [{ text := "ab", strike := false }, { text := "cd e", strike := true },
        { text := "f\ngh", strike := false }]
    (∀ r ∈ runs, overlay ∉ r.text.toList) ∧
      wrapAll 3 (struckText runs) = ["abc̶", "d̶", "e̶f", "gh"].map (·.toList) ∧
      (wrapAll 3 (struckText runs)).flatten.filter (· != ' ') = "abc̶d̶e̶fgh".toList := by
  intro runs
  have hruns : ∀ r ∈ runs, overlay ∉ r.text.toList := by decide
  have hlines : wrapAll 3 (struckText runs) = ["abc̶", "d̶", "e̶f", "gh"].map (·.toList) := by decide
  have hstrokes : runs.flatMap Run.strokes = "abc̶d̶e̶fgh".toList := by decide
  exact ⟨hruns, hlines, (strike_survives 3 runs hruns).1.trans hstrokes⟩

end Letterhead
