import Mathlib.Data.List.Chain
import Mathlib.Data.List.Infix
import Letterhead.Proofs.Page.Filling

/-!
# Wrapping lines again

The lines of a text can be put one after the other, with single spaces between them, and wrapped
again: they come back. That is not plain where wrapping has changed the words. The pieces of a word
that was cut are words of their own now, and overlays that stood alone where a line begins are one
word with what followed on them. What carries the argument is how lines look that words have filled.
Such a line is put together from words that fit, and shows something before another word follows. If
a line comes after it, then it shows something and has no room for the first word of that one: a
piece of a word that was cut takes the whole width, and any other line ended because a word did not
fit.

* `IsFilled`, `EndsBefore`, `AreFilled` — a line that words have filled, where it ends, and lines
  that look so;
* `IsFilled.fill_words`, `fill_of_endsBefore`, `AreFilled.fill_flatMap_words` — the words of such a
  line put it together again, the next word ends it, and so such lines come back;
* `isFilled_endedBy`, `isChain_endedBy_append`, `areFilled_fill` — what one word does to lines, and
  what words do: they fill lines that look so;
* `wrap_spaced_iff` — the lines that come back when they are wrapped again;
* `wrap_stable` — among them are the lines of any text, all together and each alone.
-/

namespace Letterhead

/-! ### How filled lines look -/

/-- A line as words fill it: a word that fits, or such a line that shows something, and behind a
space another word that fits there. -/
inductive IsFilled (width : Nat) : Line → Prop where
  | word {word : Line} (isWord : Text.IsWord word) (fits : displayWidth word ≤ width) :
      IsFilled width word
  | more {line word : Line} (filled : IsFilled width line) (shows : 0 < displayWidth line)
      (isWord : Text.IsWord word) (fits : displayWidth line + 1 + displayWidth word ≤ width) :
      IsFilled width (line ++ ' ' :: word)

/-- The columns of the first word of a line. -/
def leadWidth (line : Line) : Nat :=
  displayWidth ((Text.words line).headD [])

/-- Why a line ends before another one: it shows something, and has no room for the first word of
the other. -/
structure EndsBefore (width : Nat) (line next : Line) : Prop where
  shows : 0 < displayWidth line
  noRoom : width < displayWidth line + 1 + leadWidth next

/-- Lines as words fill them. -/
structure AreFilled (width : Nat) (lines : List Line) : Prop where
  filled : ∀ line ∈ lines, IsFilled width line
  ended : lines.IsChain (EndsBefore width)

section Filled

variable {width : Nat} {line word : Line} {lines words : List Line}

theorem words_concat (line : Line) (h : Text.IsWord word) :
    Text.words (line ++ ' ' :: word) = Text.words line ++ [word] := by
  rw [Text.words_append_blank (by decide), Text.words_of_isWord h]

namespace IsFilled

theorem words_ne_nil (h : IsFilled width line) : Text.words line ≠ [] := by
  cases h with
  | word isWord fits =>
    rw [Text.words_of_isWord isWord]
    exact List.cons_ne_nil _ _
  | more filled shows isWord fits =>
    rw [words_concat _ isWord]
    exact List.append_ne_nil_of_right_ne_nil _ (List.cons_ne_nil _ _)

theorem ne_nil (h : IsFilled width line) : line ≠ [] := by
  rintro rfl
  exact h.words_ne_nil Text.words_nil

/-- A line that shows nothing is a single word. -/
theorem isWord_of_displayWidth_eq_zero (h : IsFilled width line) (hzero : displayWidth line = 0) :
    Text.IsWord line := by
  cases h with
  | word isWord fits => exact isWord
  | more filled shows isWord fits =>
    rw [displayWidth_append] at hzero
    omega

/-- What shows nothing becomes part of the first word of a line behind it. -/
theorem append {start : Line} (hstart : Text.IsWord start) (hzero : displayWidth start = 0)
    (h : IsFilled width line) : IsFilled width (start ++ line) := by
  induction h with
  | word isWord fits =>
    refine .word ⟨List.append_ne_nil_of_left_ne_nil hstart.1 _, ?_⟩ ?_
    · exact List.forall_mem_append.mpr ⟨hstart.2, isWord.2⟩
    · rw [displayWidth_append]
      omega
  | more filled shows isWord fits ih =>
    -- the last word stays behind its space
    rw [← List.append_assoc]
    refine .more ih ?_ isWord ?_ <;>
      rw [displayWidth_append] <;> omega

/-- **Putting a line together.** The words of a filled line, put on an empty one, are that line
again. -/
theorem fill_words (hw : 0 < width) (h : IsFilled width line) (rest : List Line) :
    fill width [] (Text.words line ++ rest) = fill width line rest := by
  induction h generalizing rest with
  | @word word isWord fits =>
    rw [Text.words_of_isWord isWord, List.singleton_append, fill_cons, endedBy, lineAfter,
      if_pos displayWidth_nil, if_pos displayWidth_nil, pieces_of_le hw fits]
    rfl
  | @more line word filled shows isWord fits ih =>
    -- the words before the last are the line before it, on which the last one fits
    have hnot : displayWidth line ≠ 0 := by omega
    rw [words_concat line isWord, List.append_assoc, List.singleton_append, ih, fill_cons, endedBy,
      lineAfter, if_neg hnot, if_neg hnot, if_pos fits, if_pos fits, List.nil_append]

end IsFilled

/-! ### First words -/

theorem leadWidth_of_isWord (h : Text.IsWord word) : leadWidth word = displayWidth word := by
  rw [leadWidth, Text.words_of_isWord h, List.headD_cons]

theorem leadWidth_of_displayWidth_eq_zero (h : line = [] ∨ IsFilled width line)
    (hzero : displayWidth line = 0) : leadWidth line = 0 := by
  obtain rfl | h := h
  · rfl
  · rw [leadWidth_of_isWord (h.isWord_of_displayWidth_eq_zero hzero), hzero]

/-- A word put behind others leaves the first one as it is. -/
theorem leadWidth_concat (h : IsFilled width line) (hword : Text.IsWord word) :
    leadWidth (line ++ ' ' :: word) = leadWidth line := by
  obtain ⟨first, others, hwords⟩ := List.exists_cons_of_ne_nil h.words_ne_nil
  rw [leadWidth, leadWidth, words_concat line hword, hwords, List.cons_append, List.headD_cons,
    List.headD_cons]

/-! ### Filled lines come back -/

/-- The next word ends a line that shows something and has no room for it. -/
theorem fill_of_endsBefore (hshows : 0 < displayWidth line)
    (hnoRoom : width < displayWidth line + 1 + displayWidth word) (rest : List Line) :
    fill width line (word :: rest) = line :: fill width [] (word :: rest) := by
  rw [fill_cons, fill_cons, endedBy, endedBy, lineAfter, lineAfter, if_neg (by omega),
    if_neg (by omega), if_neg (by omega), if_neg (by omega), if_pos displayWidth_nil,
    if_pos displayWidth_nil, List.nil_append, List.cons_append]

/-- **Filled lines come back.** Their words, one line after the other, fill the same lines. -/
theorem AreFilled.fill_flatMap_words (hw : 0 < width) (h : AreFilled width lines) :
    fill width [] (lines.flatMap Text.words) = lines := by
  obtain ⟨hfilled, hended⟩ := h
  induction lines with
  | nil => rfl
  | cons line lines ih =>
    obtain ⟨hline, hlines⟩ := List.forall_mem_cons.mp hfilled
    rw [List.flatMap_cons, hline.fill_words hw]
    cases lines with
    | nil =>
      have hne : ¬ line.isEmpty = true := by simpa using hline.ne_nil
      rw [List.flatMap_nil, fill_nil, if_neg hne]
    | cons next lines =>
      -- the first word of the next line ends this one
      obtain ⟨⟨hshows, hnoRoom⟩, hchain⟩ := List.isChain_cons_cons.mp hended
      have hnext : IsFilled width next := hlines next List.mem_cons_self
      obtain ⟨first, others, hwords⟩ := List.exists_cons_of_ne_nil hnext.words_ne_nil
      have hflat : (next :: lines).flatMap Text.words =
          first :: (others ++ lines.flatMap Text.words) := by
        rw [List.flatMap_cons, hwords, List.cons_append]
      rw [leadWidth, hwords, List.headD_cons] at hnoRoom
      rw [hflat, fill_of_endsBefore hshows hnoRoom, ← hflat, ih hlines hchain]

/-- A stretch of filled lines is filled lines. -/
theorem AreFilled.stretch {part : List Line} (h : AreFilled width lines)
    (hpart : part <:+: lines) : AreFilled width part :=
  ⟨fun line hline => h.filled line (hpart.subset hline), List.IsChain.infix h.ended hpart⟩

/-! ### Words fill such lines -/

/-- A word leaves lines as words fill them: those that it ends, and the one that is begun then. -/
theorem isFilled_endedBy (hw : 0 < width) (hline : line = [] ∨ IsFilled width line)
    (hword : Text.IsWord word) :
    (∀ l ∈ endedBy width line word, IsFilled width l) ∧
      IsFilled width (lineAfter width line word) := by
  have hpieces : ∀ piece ∈ pieces width word, IsFilled width piece := fun piece hpiece =>
    .word (isWord_of_mem_pieces hw hword hpiece) ((pieces_spec hw word).2.2 piece hpiece)
  refine forall_mem_endedBy hw hpieces ?_ ?_ ?_
  · -- a piece on a line that shows nothing
    intro piece hpiece hzero
    obtain rfl | hline := hline
    · exact hpieces piece hpiece
    · exact (hpieces piece hpiece).append (hline.isWord_of_displayWidth_eq_zero hzero) hzero
  · -- a word behind a space
    intro hne hfits
    obtain rfl | hline := hline
    · exact absurd displayWidth_nil hne
    · exact .more hline (by omega) hword hfits
  · -- the line itself, if the word does not fit
    intro hne
    refine hline.resolve_left ?_
    rintro rfl
    exact hne displayWidth_nil

/-- Every line that words fill is put together from words that fit. -/
theorem isFilled_of_mem_fill (hw : 0 < width) (hline : line = [] ∨ IsFilled width line)
    (hwords : ∀ word ∈ words, Text.IsWord word) :
    ∀ l ∈ fill width line words, IsFilled width l := by
  induction words generalizing line with
  | nil =>
    rw [fill_nil]
    obtain rfl | hline := hline
    · exact List.forall_mem_nil _
    · rw [if_neg (by simpa using hline.ne_nil)]
      exact List.forall_mem_singleton.mpr hline
  | cons word rest ih =>
    obtain ⟨hword, hrest⟩ := List.forall_mem_cons.mp hwords
    obtain ⟨hended, hafter⟩ := isFilled_endedBy hw hline hword
    rw [fill_cons]
    exact List.forall_mem_append.mpr ⟨hended, ih (Or.inr hafter) hrest⟩

/-- All pieces of a word but the last take the whole width. -/
theorem displayWidth_of_mem_dropLast_pieces (hw : 0 < width) (word : Line) :
    ∀ piece ∈ (pieces width word).dropLast, displayWidth piece = width := by
  induction word using cut_induction hw with
  | hfits word hle =>
    rw [pieces_of_le hw hle]
    exact List.forall_mem_nil _
  | hcut word hlt ih =>
    have hne : pieces width (cutAt width word).2 ≠ [] := (pieces_spec hw _).1
    rw [pieces_of_lt hw hlt, List.dropLast_cons_of_ne_nil hne]
    refine List.forall_mem_cons.mpr ⟨?_, ih⟩
    rw [displayWidth_cutAt_fst]
    omega

/-- A line of the whole width ends before any other. -/
theorem isChain_append_of_full (hw : 0 < width) {full : List Line}
    (hfull : ∀ line ∈ full, displayWidth line = width)
    (h : lines.IsChain (EndsBefore width)) : (full ++ lines).IsChain (EndsBefore width) := by
  induction full with
  | nil => exact h
  | cons line full ih =>
    obtain ⟨hline, hrest⟩ := List.forall_mem_cons.mp hfull
    refine List.isChain_cons.mpr ⟨fun next _ => ⟨?_, ?_⟩, ih hrest⟩ <;> omega

/-- Lines that begin with a word begin with as much of it as fits. -/
theorem le_leadWidth_head? (hw : 0 < width) (hword : Text.IsWord word)
    (hlead : ∀ first ∈ lines.head?, leadWidth ((pieces width word).getLastD []) ≤ leadWidth first) :
    ∀ first ∈ ((pieces width word).dropLast ++ lines).head?,
      min width (displayWidth word) ≤ leadWidth first := by
  intro first hfirst
  by_cases hle : displayWidth word ≤ width
  · -- the word is whole
    rw [pieces_of_le hw hle] at hfirst hlead
    have hword' : leadWidth word ≤ leadWidth first := hlead first hfirst
    rw [leadWidth_of_isWord hword] at hword'
    omega
  · -- its first piece is a line
    have hpiece : Text.IsWord (cutAt width word).1 := by
      refine isWord_of_mem_pieces hw hword ?_
      rw [pieces_of_lt hw (by omega)]
      exact List.mem_cons_self
    have hne : pieces width (cutAt width word).2 ≠ [] := (pieces_spec hw _).1
    rw [pieces_of_lt hw (by omega), List.dropLast_cons_of_ne_nil hne, List.cons_append,
      List.head?_cons, Option.mem_some_iff] at hfirst
    rw [← hfirst, leadWidth_of_isWord hpiece, displayWidth_cutAt_fst]

/-- **A word ends lines.** The lines that a word ends have no room for what is next, if that begins
with the first word of the line that is begun then, or with a wider one. They begin with the first
word of the line that was begun, or with a wider one. -/
theorem isChain_endedBy_append (hw : 0 < width) (hline : line = [] ∨ IsFilled width line)
    (hword : Text.IsWord word) (hchain : lines.IsChain (EndsBefore width))
    (hlead : ∀ first ∈ lines.head?, leadWidth (lineAfter width line word) ≤ leadWidth first) :
    (endedBy width line word ++ lines).IsChain (EndsBefore width) ∧
      ∀ first ∈ (endedBy width line word ++ lines).head?, leadWidth line ≤ leadWidth first := by
  have hpieces : ((pieces width word).dropLast ++ lines).IsChain (EndsBefore width) :=
    isChain_append_of_full hw (displayWidth_of_mem_dropLast_pieces hw word) hchain
  rw [lineAfter] at hlead
  rw [endedBy]
  by_cases hzero : displayWidth line = 0
  · -- nothing shows on the line: only pieces end
    rw [if_pos hzero, leadWidth_of_displayWidth_eq_zero hline hzero]
    exact ⟨hpieces, fun first _ => Nat.zero_le _⟩
  rw [if_neg hzero] at hlead ⊢
  by_cases hfits : displayWidth line + 1 + displayWidth word ≤ width
  · -- the word fits behind a space, and no line ends
    have hfilled : IsFilled width line := hline.resolve_left fun h => hzero (by rw [h]; rfl)
    rw [if_pos hfits, leadWidth_concat hfilled hword] at hlead
    rw [if_pos hfits]
    exact ⟨hchain, hlead⟩
  · -- the line ends before the word, or before the first piece of it
    rw [if_neg hfits] at hlead ⊢
    have hends : ∀ next ∈ ((pieces width word).dropLast ++ lines).head?,
        EndsBefore width line next := by
      intro next hnext
      have hle := le_leadWidth_head? hw hword hlead next hnext
      constructor <;> omega
    refine ⟨List.isChain_cons.mpr ⟨hends, hpieces⟩, fun first hfirst => ?_⟩
    rw [Option.mem_some_iff.mp hfirst]

/-- **Words end lines.** Whatever line is begun, each line that words fill ends where it has no room
for what is next. -/
theorem isChain_fill (hw : 0 < width) (hline : line = [] ∨ IsFilled width line)
    (hwords : ∀ word ∈ words, Text.IsWord word) :
    (fill width line words).IsChain (EndsBefore width) ∧
      ∀ first ∈ (fill width line words).head?, leadWidth line ≤ leadWidth first := by
  -- the width of the first word is carried along: the line before ends because of it
  induction words generalizing line with
  | nil =>
    rw [fill_nil]
    split
    · exact ⟨.nil, fun first hfirst => nomatch hfirst⟩
    · refine ⟨.singleton line, fun first hfirst => ?_⟩
      rw [Option.mem_some_iff.mp hfirst]
  | cons word rest ih =>
    obtain ⟨hword, hrest⟩ := List.forall_mem_cons.mp hwords
    obtain ⟨hchain, hlead⟩ := ih (Or.inr (isFilled_endedBy hw hline hword).2) hrest
    rw [fill_cons]
    exact isChain_endedBy_append hw hline hword hchain hlead

theorem areFilled_fill (hw : 0 < width) (hwords : ∀ word ∈ words, Text.IsWord word) :
    AreFilled width (fill width [] words) :=
  ⟨isFilled_of_mem_fill hw (Or.inl rfl) hwords, (isChain_fill hw (Or.inl rfl) hwords).1⟩

end Filled

/-! ### Wrapping again -/

/-- Lines as a text is wrapped into them: one that is empty, or some that words fill. -/
def AreWrapped (width : Nat) (lines : List Line) : Prop :=
  lines = [[]] ∨ lines ≠ [] ∧ AreFilled width lines

section Wrap

variable {width : Nat} {lines : List Line}

theorem areWrapped_wrap (width : Nat) (text : Line) :
    AreWrapped (max width 1) (wrap width text) := by
  by_cases h : Text.words text = []
  · exact Or.inl (wrap_of_no_words h)
  · refine Or.inr ⟨wrap_ne_nil width text, ?_⟩
    rw [wrap_of_words h]
    exact areFilled_fill (by omega) fun word hword => Text.isWord_of_mem_words hword

/-- A stretch of the lines of a text looks as the lines of a text do. -/
theorem AreWrapped.stretch {part : List Line} (h : AreWrapped width lines)
    (hpart : part <:+: lines) (hne : part ≠ []) : AreWrapped width part := by
  obtain rfl | ⟨-, hfilled⟩ := h
  · exact Or.inl (((List.infix_singleton_iff part []).mp hpart).resolve_left hne)
  · exact Or.inr ⟨hne, hfilled.stretch hpart⟩

/-- **What wrapping leaves alone.** Lines with single spaces between them are wrapped into the same
lines exactly if they look as the lines of a text do. -/
theorem wrap_spaced_iff :
    wrap width (Text.spaced lines) = lines ↔ AreWrapped (max width 1) lines := by
  constructor
  · intro h
    rw [← h]
    exact areWrapped_wrap width _
  · rintro (rfl | ⟨hne, hfilled⟩)
    · exact wrap_of_no_words rfl
    · have hwords : Text.words (Text.spaced lines) = lines.flatMap Text.words :=
        Text.words_intercalate (by decide) lines
      have hfill : fill (max width 1) [] (lines.flatMap Text.words) = lines :=
        hfilled.fill_flatMap_words (by omega)
      have hsome : Text.words (Text.spaced lines) ≠ [] := by
        rw [hwords]
        intro hnil
        rw [hnil, fill_nil] at hfill
        exact hne hfill.symm
      rw [wrap_of_words hsome, hwords, hfill]

/-- **Wrapping is stable.** The lines of a text, put one after the other with single spaces between
them, are wrapped into the same lines, and each of them alone is wrapped into itself. -/
theorem wrap_stable (width : Nat) (text : Line) :
    wrap width (Text.spaced (wrap width text)) = wrap width text ∧
      ∀ line ∈ wrap width text, wrap width line = [line] := by
  have hwrapped : AreWrapped (max width 1) (wrap width text) := areWrapped_wrap width text
  refine ⟨wrap_spaced_iff.mpr hwrapped, ?_⟩
  intro line hline
  have hpart : [line] <:+: wrap width text := (List.singleton_infix_iff line _).mpr hline
  have halone := wrap_spaced_iff.mpr (hwrapped.stretch hpart (List.cons_ne_nil _ _))
  rwa [Text.spaced_singleton] at halone

/-- An overlay that stands alone, and goes with the last piece of a word that is cut. -/
theorem wrap_stable_overlay :
    let text := "\u0336 ab̶cdefg  h\t\u0336".toList
    let line := "\u0336efg".toList
    wrap 4 text = ["ab̶cd", "\u0336efg", "h \u0336"].map (·.toList) ∧
      line ∈ wrap 4 text ∧ wrap 4 line = [line] := by
  intro text line
  have hlines : wrap 4 text = ["ab̶cd", "\u0336efg", "h \u0336"].map (·.toList) := by decide
  have hline : line ∈ wrap 4 text := by decide
  exact ⟨hlines, hline, (wrap_stable 4 text).2 line hline⟩

end Wrap

end Letterhead
