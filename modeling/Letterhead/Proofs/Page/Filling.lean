import Letterhead.Proofs.Page.Cutting
import Letterhead.Proofs.Text.Words

/-!
# Filling lines in steps

Wrapping can be done in steps, with the columns of the line that is begun counted as it goes. A
step makes room for the next word, cuts the word at hand, or puts what is left of it on the line.
Whether a word is cut is told by the room that is left on the line, the width less the columns
counted; there must be no more of them than the width. Nor is it plain that there is an end: a cut
brings it closer only if it takes a column off.

* `Filling`, `WrapState`, `WrapState.step`, `WrapState.run` — wrapping in steps;
* `WrapState.Sound`, `WrapState.step_spec` — the count is right, so that a step never fails; it
  leaves what the lines come to, and takes something off what is left to do;
* `WrapState.run_eq_done` — so the steps come to an end, with the lines that wrapping gives;
* `SinglySpaced`, `singlySpaced_of_mem_wrap`, `nil_not_mem_fill` — blanks and empty lines;
* `wrap_bounded` — the steps end, and what they end in.
-/

namespace Letterhead

/-! ### Wrapping in steps -/

/-- Lines that words are put on: those that have ended, the one that is begun, and the columns that
are counted on it. -/
structure Filling where
  ended : List Line := []
  line : Line := []
  used : Nat := 0

namespace Filling

/-- The line ends if a word does not fit on it. -/
def endLine (f : Filling) (width : Nat) (word : Line) : Filling :=
  if 0 < f.used ∧ width < f.used + 1 + displayWidth word then { ended := f.ended ++ [f.line] }
  else f

/-- A space follows if the line holds something. -/
def space (f : Filling) : Filling :=
  if 0 < f.used then { f with line := f.line ++ [' '], used := f.used + 1 } else f

/-- Room is made for a word. -/
def makeRoom (f : Filling) (width : Nat) (word : Line) : Filling :=
  (f.endLine width word).space

/-- The lines when there are no more words: the line that is begun counts if it is not empty, or the
only one. -/
def lines (f : Filling) : List Line :=
  if !f.line.isEmpty || f.ended.isEmpty then f.ended ++ [f.line] else f.ended

end Filling

/-- Where wrapping stands. -/
inductive WrapState where
  /-- Words are still to come. -/
  | between (f : Filling) (words : List Line)
  /-- The rest of a word is at hand, and words are still to come. -/
  | within (f : Filling) (rest : Line) (words : List Line)
  | done (lines : List Line)

namespace WrapState

/-- Where wrapping starts. -/
def start (text : Line) : WrapState :=
  .between {} (Text.words text)

/-- The room that is left of a width; none is told if more columns are counted than there are. -/
def room? (width used : Nat) : Option Nat :=
  if used ≤ width then some (width - used) else none

/-- A step of wrapping, which fails if the room cannot be told. -/
def step (width : Nat) : WrapState → Option WrapState
  | between f [] => some (.done f.lines)
  | between f (word :: words) => some (.within (f.makeRoom width word) word words)
  | within f rest words =>
    (room? width f.used).map fun room =>
      if room < displayWidth rest then
        .within { f with ended := f.ended ++ [(cutAt width rest).1] } (cutAt width rest).2 words
      else
        .between { f with line := f.line ++ rest, used := f.used + displayWidth rest } words
  | done lines => some (.done lines)

/-- Some steps of wrapping. -/
def run (width : Nat) : Nat → WrapState → Option WrapState
  | 0, s => some s
  | n + 1, s => (s.step width).bind (run width n)

/-! ### What steps keep -/

/-- Lines, of which there is one at least. -/
def orEmptyLine : List Line → List Line
  | [] => [[]]
  | lines => lines

theorem wrap_eq_orEmptyLine (width : Nat) (text : Line) :
    wrap width text = orEmptyLine (fill (max width 1) [] (Text.words text)) := by
  rw [wrap]
  split
  · next h => rw [h, orEmptyLine]
  · next h => rw [orEmptyLine]; exact h

/-- What the lines come to. -/
def outcome (width : Nat) : WrapState → List Line
  | between f words => orEmptyLine (f.ended ++ fill width f.line words)
  | within f rest words =>
    orEmptyLine (f.ended ++ ((pieces width rest).dropLast ++
      fill width (f.line ++ (pieces width rest).getLastD []) words))
  | done lines => lines

/-- What words leave to do: two steps for each, and one for every column at most. -/
def work : List Line → Nat
  | [] => 0
  | word :: words => displayWidth word + 2 + work words

/-- What is left to do. -/
def remaining : WrapState → Nat
  | between _ words => work words + 1
  | within _ rest words => displayWidth rest + work words + 2
  | done _ => 0

/-- The columns that are counted are those of the line that is begun, which is not too wide. -/
def Filled (width : Nat) (f : Filling) : Prop :=
  f.used = displayWidth f.line ∧ f.used ≤ width

/-- The count is right, and a word is at hand only where it fits or on an empty line. -/
def Sound (width : Nat) : WrapState → Prop
  | between f _ => Filled width f
  | within f rest _ => Filled width f ∧ (f.used = 0 ∨ f.used + displayWidth rest ≤ width)
  | done _ => True

section Steps

variable {width : Nat} {f : Filling} {word : Line}

theorem makeRoom_of_unused (h : f.used = 0) : f.makeRoom width word = f := by
  rw [Filling.makeRoom, Filling.endLine, if_neg (by omega), Filling.space, if_neg (by omega)]

theorem makeRoom_of_fits (h : 0 < f.used) (hfits : f.used + 1 + displayWidth word ≤ width) :
    f.makeRoom width word = { f with line := f.line ++ [' '], used := f.used + 1 } := by
  rw [Filling.makeRoom, Filling.endLine, if_neg (by omega), Filling.space, if_pos h]

theorem makeRoom_of_wide (h : 0 < f.used) (hwide : width < f.used + 1 + displayWidth word) :
    f.makeRoom width word = { ended := f.ended ++ [f.line] } := by
  rw [Filling.makeRoom, Filling.endLine, if_pos ⟨h, hwide⟩]
  rfl

/-- Room is made as wrapping takes it: for the lines that the word ends, and for the line that is
begun then. -/
theorem makeRoom_spec (hw : 0 < width) (h : Filled width f) (word : Line) :
    let g := f.makeRoom width word
    (Filled width g ∧ (g.used = 0 ∨ g.used + displayWidth word ≤ width)) ∧
      g.ended ++ (pieces width word).dropLast = f.ended ++ endedBy width f.line word ∧
      g.line ++ (pieces width word).getLastD [] = lineAfter width f.line word := by
  obtain ⟨hused, hle⟩ := h
  intro g
  rw [endedBy, lineAfter, ← hused]
  by_cases hzero : f.used = 0
  · -- nothing shows on the line: it stays as it is
    have hg : g = f := makeRoom_of_unused hzero
    rw [hg, if_pos hzero, if_pos hzero]
    exact ⟨⟨⟨hused, hle⟩, Or.inl hzero⟩, rfl, rfl⟩
  rw [if_neg hzero, if_neg hzero]
  by_cases hfits : f.used + 1 + displayWidth word ≤ width
  · -- the word fits behind a space, and is not cut
    have hg : g = { f with line := f.line ++ [' '], used := f.used + 1 } :=
      makeRoom_of_fits (by omega) hfits
    have hspace : f.used + 1 = displayWidth (f.line ++ [' ']) := by
      rw [displayWidth_append, hused]
      rfl
    rw [hg, if_pos hfits, if_pos hfits, pieces_of_le hw (by omega)]
    refine ⟨⟨⟨hspace, ?_⟩, Or.inr hfits⟩, rfl, List.append_assoc ..⟩
    show f.used + 1 ≤ width
    omega
  · -- the line ends, and another one is empty
    have hg : g = { ended := f.ended ++ [f.line] } := makeRoom_of_wide (by omega) (by omega)
    rw [hg, if_neg hfits, if_neg hfits]
    exact ⟨⟨⟨rfl, Nat.zero_le _⟩, Or.inl rfl⟩, List.append_assoc .., rfl⟩

/-- When there are no more words the lines are those that wrapping gives. -/
theorem lines_eq_orEmptyLine (f : Filling) (width : Nat) :
    f.lines = orEmptyLine (f.ended ++ fill width f.line []) := by
  rw [Filling.lines, fill_nil]
  -- a line that is not empty counts in any case, an empty one if no other has ended
  cases hline : f.line with
  | cons c cs => cases f.ended <;> rfl
  | nil =>
    cases hended : f.ended with
    | nil => rfl
    | cons line lines => exact (congrArg orEmptyLine (List.append_nil (line :: lines))).symm

/-- **A step.** Where the count is right a step does not fail, and the count is right after it. It
leaves what the lines come to, and takes something off what is left to do. -/
theorem step_spec (hw : 0 < width) {s : WrapState} (h : Sound width s) :
    ∃ s', s.step width = some s' ∧ Sound width s' ∧ outcome width s' = outcome width s ∧
      s'.remaining ≤ s.remaining - 1 := by
  cases s with
  | done lines => exact ⟨_, rfl, trivial, rfl, Nat.zero_le _⟩
  | between f words =>
    cases words with
    | nil => exact ⟨_, rfl, trivial, lines_eq_orEmptyLine f width, Nat.zero_le _⟩
    | cons word words =>
      obtain ⟨hsound, hended, hline⟩ := makeRoom_spec hw h word
      refine ⟨_, rfl, hsound, ?_, ?_⟩
      · rw [outcome, outcome, fill_cons, hline, ← List.append_assoc, hended, List.append_assoc]
      · rw [remaining, remaining, work]
        omega
  | within f rest words =>
    obtain ⟨⟨hused, hle⟩, hfits⟩ := h
    have hroom : room? width f.used = some (width - f.used) := if_pos hle
    by_cases hcut : width - f.used < displayWidth rest
    · -- a word that does not fit stands on an empty line, and a whole line is cut off
      have hzero : f.used = 0 := by omega
      have hlt : width < displayWidth rest := by omega
      have hstep : step width (within f rest words) =
          some (within { f with ended := f.ended ++ [(cutAt width rest).1] }
            (cutAt width rest).2 words) := by
        rw [step, hroom, Option.map_some, if_pos hcut]
      obtain ⟨piece, pieces', htail⟩ :=
        List.exists_cons_of_ne_nil (pieces_spec hw (cutAt width rest).2).1
      refine ⟨_, hstep, ⟨⟨hused, hle⟩, Or.inl hzero⟩, ?_, ?_⟩
      · rw [outcome, outcome, pieces_of_lt hw hlt, htail, List.dropLast_cons_cons,
          List.getLastD_cons, List.getLastD_cons, List.getLastD_cons, List.append_assoc,
          List.singleton_append, List.cons_append]
      · rw [remaining, remaining, displayWidth_cutAt_snd]
        omega
    · -- the rest fits, and is put on the line
      have hstep : step width (within f rest words) =
          some (between { f with line := f.line ++ rest, used := f.used + displayWidth rest }
            words) := by
        rw [step, hroom, Option.map_some, if_neg hcut]
      have hcount : f.used + displayWidth rest = displayWidth (f.line ++ rest) := by
        rw [displayWidth_append, hused]
      refine ⟨_, hstep, ⟨hcount, ?_⟩, ?_, ?_⟩
      · show f.used + displayWidth rest ≤ width
        omega
      · rw [outcome, outcome, pieces_of_le hw (by omega)]
        rfl
      · rw [remaining, remaining]
        omega

/-- No step fails, however many there are. -/
theorem exists_run (hw : 0 < width) (n : Nat) {s : WrapState} (h : Sound width s) :
    ∃ s', s.run width n = some s' := by
  induction n generalizing s with
  | zero => exact ⟨s, rfl⟩
  | succ n ih =>
    obtain ⟨s', hstep, hsound, -, -⟩ := step_spec hw h
    rw [run, hstep]
    exact ih hsound

/-- **The steps end.** As many steps as there are left to do end in what the lines come to. -/
theorem run_eq_done (hw : 0 < width) {n : Nat} {s : WrapState} (h : Sound width s)
    (hn : s.remaining ≤ n) : s.run width n = some (.done (outcome width s)) := by
  induction n generalizing s with
  | zero =>
    -- nothing is left to do only at the end
    cases s with
    | done lines => rfl
    | between f words | within f rest words =>
      rw [remaining] at hn
      omega
  | succ n ih =>
    obtain ⟨s', hstep, hsound, houtcome, hless⟩ := step_spec hw h
    rw [run, hstep, ← houtcome]
    exact ih hsound (by omega)

end Steps

end WrapState

/-! ### Blanks on lines -/

/-- A line that is its words with single spaces between them: it holds no other blank, and none at
either end. -/
def SinglySpaced (line : Line) : Prop :=
  Text.spaced (Text.words line) = line

/-- A line of some words with single spaces between them. -/
def OfWords (line : Line) : Prop :=
  ∃ words : List Line, (∀ word ∈ words, Text.IsWord word) ∧ line = Text.spaced words

theorem OfWords.singlySpaced {line : Line} (h : OfWords line) : SinglySpaced line := by
  obtain ⟨words, hwords, rfl⟩ := h
  rw [SinglySpaced, Text.words_spaced hwords]

theorem ofWords_nil : OfWords [] :=
  ⟨[], List.forall_mem_nil _, rfl⟩

theorem ofWords_of_isWord {word : Line} (h : Text.IsWord word) : OfWords word :=
  ⟨[word], List.forall_mem_singleton.mpr h, (Text.spaced_singleton word).symm⟩

section Lines

variable {width : Nat} {words : List Line}

theorem isWord_of_mem_pieces (hw : 0 < width) {word piece : Line} (h : Text.IsWord word)
    (hpiece : piece ∈ pieces width word) : Text.IsWord piece :=
  ⟨ne_nil_of_mem_pieces hw h.1 piece hpiece, fun c hc => h.2 c (mem_of_mem_pieces hw hpiece hc)⟩

/-- On a line that shows nothing there is no space, so that a piece goes on with its last word. -/
theorem OfWords.append {line piece : Line} (hline : OfWords line) (hzero : displayWidth line = 0)
    (hpiece : OfWords piece) : OfWords (line ++ piece) := by
  obtain ⟨words, hwords, rfl⟩ := hline
  obtain ⟨words', hwords', rfl⟩ := hpiece
  cases words with
  | nil => exact ⟨words', hwords', rfl⟩
  | cons first rest =>
    cases rest with
    | cons second rest =>
      -- the space between two words takes a column
      rw [Text.spaced_cons_cons, displayWidth_append, displayWidth_cons, if_neg (by decide)]
        at hzero
      omega
    | nil =>
      cases words' with
      | nil => exact ⟨[first], hwords, List.append_nil _⟩
      | cons next words' =>
        -- the only word of the line goes on with the first one of the piece
        obtain ⟨hne, hfirst⟩ := List.forall_mem_singleton.mp hwords
        obtain ⟨hnext, hrest⟩ := List.forall_mem_cons.mp hwords'
        rw [Text.spaced_singleton]
        refine ⟨(first ++ next) :: words', ?_, Text.append_spaced first next words'⟩
        refine List.forall_mem_cons.mpr ⟨⟨?_, ?_⟩, hrest⟩
        · exact fun h => hne (List.append_eq_nil_iff.mp h).1
        · exact List.forall_mem_append.mpr ⟨hfirst, hnext.2⟩

/-- A word that fits goes behind a space. -/
theorem OfWords.concat {line word : Line} (hline : OfWords line) (hne : displayWidth line ≠ 0)
    (hword : Text.IsWord word) : OfWords (line ++ ' ' :: word) := by
  obtain ⟨words, hwords, rfl⟩ := hline
  have hsome : words ≠ [] := by
    rintro rfl
    exact hne rfl
  refine ⟨words ++ [word], ?_, (Text.spaced_concat hsome word).symm⟩
  exact List.forall_mem_append.mpr ⟨hwords, List.forall_mem_singleton.mpr hword⟩

/-- Lines that words fill are words with single spaces between them. -/
theorem ofWords_of_mem_fill (hw : 0 < width) (hwords : ∀ word ∈ words, Text.IsWord word) :
    ∀ line ∈ fill width [] words, OfWords line := by
  refine forall_mem_fill hw ?_ ?_ ?_ ofWords_nil
  · intro word hword piece hpiece
    exact ofWords_of_isWord (isWord_of_mem_pieces hw (hwords word hword) hpiece)
  · intro line piece hzero hline hpiece
    exact hline.append hzero hpiece
  · intro line word hword hne _ hline
    exact hline.concat hne (hwords word hword)

theorem singlySpaced_of_mem_wrap {text line : Line} (h : line ∈ wrap width text) :
    SinglySpaced line := by
  rcases mem_wrap h with rfl | h
  · exact rfl
  · have hwords : ∀ word ∈ Text.words text, Text.IsWord word :=
      fun word hword => Text.isWord_of_mem_words hword
    exact (ofWords_of_mem_fill (by omega) hwords line h).singlySpaced

/-! ### Empty lines -/

/-- A word ends no empty line and leaves none behind. -/
theorem ne_nil_of_mem_endedBy (hw : 0 < width) (line : Line) {word : Line} (h : word ≠ []) :
    (∀ l ∈ endedBy width line word, l ≠ []) ∧ lineAfter width line word ≠ [] := by
  have hpieces : ∀ piece ∈ pieces width word, piece ≠ [] := ne_nil_of_mem_pieces hw h
  refine forall_mem_endedBy hw hpieces ?_ ?_ ?_
  · exact fun piece hpiece _ => List.append_ne_nil_of_right_ne_nil line (hpieces piece hpiece)
  · exact fun _ _ => List.append_ne_nil_of_right_ne_nil line (List.cons_ne_nil _ _)
  · rintro hline rfl
    exact hline rfl

/-- Words leave no line empty. -/
theorem nil_not_mem_fill (hw : 0 < width) (hwords : ∀ word ∈ words, word ≠ []) (line : Line) :
    [] ∉ fill width line words := by
  induction words generalizing line with
  | nil =>
    rw [fill_nil]
    cases line with
    | nil => exact List.not_mem_nil
    | cons c cs => exact fun h => nomatch List.mem_singleton.mp h
  | cons word rest ih =>
    obtain ⟨hword, hrest⟩ := List.forall_mem_cons.mp hwords
    rw [fill_cons, List.mem_append]
    rintro (h | h)
    · exact (ne_nil_of_mem_endedBy hw line hword).1 [] h rfl
    · exact ih hrest _ h

/-- Words fill one line at least. -/
theorem fill_ne_nil (hw : 0 < width) (hwords : ∀ word ∈ words, word ≠ []) {line : Line}
    (h : line ≠ [] ∨ words ≠ []) : fill width line words ≠ [] := by
  induction words generalizing line with
  | nil =>
    have hline : line ≠ [] := h.resolve_right fun hne => hne rfl
    rw [fill_nil, if_neg (by simpa using hline)]
    exact List.cons_ne_nil _ _
  | cons word rest ih =>
    obtain ⟨hword, hrest⟩ := List.forall_mem_cons.mp hwords
    rw [fill_cons]
    -- the word leaves a line that is begun
    refine List.append_ne_nil_of_right_ne_nil _ (ih hrest (Or.inl ?_))
    exact (ne_nil_of_mem_endedBy hw line hword).2

/-- A text without words is wrapped into an empty line. -/
theorem wrap_of_no_words {text : Line} (h : Text.words text = []) : wrap width text = [[]] := by
  rw [wrap, h, fill_nil]
  rfl

/-- Any other text is wrapped into the lines that its words fill. -/
theorem wrap_of_words {text : Line} (h : Text.words text ≠ []) :
    wrap width text = fill (max width 1) [] (Text.words text) := by
  have hwords : ∀ word ∈ Text.words text, word ≠ [] :=
    fun word hword => (Text.isWord_of_mem_words hword).1
  have hne : fill (max width 1) [] (Text.words text) ≠ [] :=
    fill_ne_nil (by omega) hwords (Or.inr h)
  rw [wrap]
  split
  · next hnil => exact absurd hnil hne
  · rfl

theorem wrap_ne_nil (width : Nat) (text : Line) : wrap width text ≠ [] := by
  rw [wrap]
  split
  · exact List.cons_ne_nil _ _
  · assumption

/-- Only a text without words leaves a line empty. -/
theorem words_of_nil_mem_wrap {text : Line} (h : [] ∈ wrap width text) : Text.words text = [] := by
  by_cases hwords : Text.words text = []
  · exact hwords
  · rw [wrap_of_words hwords] at h
    refine absurd h (nil_not_mem_fill (by omega) ?_ [])
    exact fun word hword => (Text.isWord_of_mem_words hword).1

end Lines

/-- **Wrapping comes to an end.** At every width wrapping can be done in steps, none of which fails,
and the steps that there are to do end in its lines. No line is wider than it may be, and of blanks
it holds only single spaces between words. There is one line at least, and an empty one only for a
text without words, for which there is no other. -/
theorem wrap_bounded (width : Nat) (text : Line) :
    (∀ n, ∃ s, (WrapState.start text).run (max width 1) n = some s) ∧
      (WrapState.start text).run (max width 1) (WrapState.start text).remaining =
        some (.done (wrap width text)) ∧
      (∀ line ∈ wrap width text, displayWidth line ≤ max width 1 ∧ SinglySpaced line) ∧
      wrap width text ≠ [] ∧
      ([] ∈ wrap width text ↔ Text.words text = []) ∧
      (wrap width text = [[]] ↔ Text.words text = []) := by
  have hw : 0 < max width 1 := by omega
  have hsound : WrapState.Sound (max width 1) (.start text) := ⟨rfl, Nat.zero_le _⟩
  have houtcome : (WrapState.start text).outcome (max width 1) = wrap width text :=
    (WrapState.wrap_eq_orEmptyLine width text).symm
  have hempty : wrap width text = [[]] → [] ∈ wrap width text := by
    intro h
    rw [h]
    exact List.mem_singleton_self []
  refine ⟨fun n => WrapState.exists_run hw n hsound, ?_, ?_, wrap_ne_nil width text,
    ⟨words_of_nil_mem_wrap, fun h => hempty (wrap_of_no_words h)⟩,
    ⟨fun h => words_of_nil_mem_wrap (hempty h), wrap_of_no_words⟩⟩
  · rw [← houtcome]
    exact WrapState.run_eq_done hw hsound (Nat.le_refl _)
  · intro line hline
    exact ⟨displayWidth_le_of_mem_wrap hline, singlySpaced_of_mem_wrap hline⟩

/-- A word that is struck in part, and wider than a line. -/
theorem wrap_bounded_struck :
    let text := "ab  a̶bcd̶efg".toList
    let line := "a̶bcd̶".toList
    line ∈ wrap 4 text ∧ (displayWidth line ≤ 4 ∧ SinglySpaced line) ∧
      wrap 4 text = ["ab", "a̶bcd̶", "efg"].map (·.toList) := by
  intro text line
  have hlines : wrap 4 text = ["ab", "a̶bcd̶", "efg"].map (·.toList) := by decide
  have hline : line ∈ wrap 4 text := by decide
  exact ⟨hline, (wrap_bounded 4 text).2.2.1 line hline, hlines⟩

end Letterhead
