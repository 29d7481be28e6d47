import Letterhead.Text.Blank

/-!
# Words and blanks

The words of a text are what it holds besides its blanks: put one after the other they are the text
without blanks, and a text made of words with single spaces between them has just these words. A
blank parts the words before it from those after it.

* `IsWord` — what is a word;
* `nonBlanks`, `flatten_words` — a text without its blanks;
* `words_append_blank`, `words_intercalate`, `flatMap_words_splitOn` — a text that is cut at blanks;
* `splitOnP_filter` — cutting a text of which some characters are taken away;
* `words_spaced` — words with single spaces between them.
-/

namespace Letterhead.Text

/-- What can be a word: it holds something, and no blank. -/
def IsWord (word : List Char) : Prop :=
  word ≠ [] ∧ ∀ c ∈ word, isBlank c = false

variable {cs word : List Char}

theorem isWord_of_mem_words (h : word ∈ words cs) : IsWord word := by
  refine ⟨?_, isBlank_of_mem_words h⟩
  have hnonempty := (List.mem_filter.mp h).2
  rintro rfl
  exact absurd hnonempty (by decide)

/-- Where no cut falls, characters go with the first piece. -/
theorem exists_splitOnP_append {p : Char → Bool} (h : ∀ c ∈ word, p c = false) (cs : List Char) :
    ∃ first rest, cs.splitOnP p = first :: rest ∧
      (word ++ cs).splitOnP p = (word ++ first) :: rest := by
  induction word with
  | nil =>
    obtain ⟨first, rest, hsplit⟩ := List.exists_cons_of_ne_nil (List.splitOnP_ne_nil p cs)
    exact ⟨first, rest, hsplit, hsplit⟩
  | cons c word ih =>
    obtain ⟨hc, hword⟩ := List.forall_mem_cons.mp h
    obtain ⟨first, rest, hcs, hsplit⟩ := ih hword
    refine ⟨first, rest, hcs, ?_⟩
    rw [List.cons_append, List.splitOnP_cons_eq_if_modifyHead, if_neg (Bool.eq_false_iff.mp hc),
      hsplit, List.modifyHead_cons, List.cons_append]

/-! ### Without blanks -/

/-- A text without its blanks. -/
def nonBlanks (cs : List Char) : List Char :=
  cs.filter (! isBlank ·)

@[simp] theorem nonBlanks_nil : nonBlanks [] = [] := rfl

theorem nonBlanks_cons (c : Char) (cs : List Char) :
    nonBlanks (c :: cs) = if isBlank c then nonBlanks cs else c :: nonBlanks cs := by
  rw [nonBlanks, List.filter_cons]
  cases isBlank c <;> rfl

@[simp] theorem nonBlanks_append (s t : List Char) :
    nonBlanks (s ++ t) = nonBlanks s ++ nonBlanks t :=
  List.filter_append ..

theorem nonBlanks_eq_self (h : ∀ c ∈ cs, isBlank c = false) : nonBlanks cs = cs := by
  rw [nonBlanks, List.filter_eq_self]
  intro c hc
  rw [h c hc]
  rfl

/-- The words are what a text holds besides its blanks. -/
theorem flatten_words (cs : List Char) : (words cs).flatten = nonBlanks cs := by
  rw [words, List.flatten_filter_not_isEmpty]
  induction cs with
  | nil => rfl
  | cons c cs ih =>
    rw [nonBlanks_cons]
    -- a blank puts an empty piece in front, another character goes with the first one
    cases hc : isBlank c with
    | true =>
      rw [List.splitOnP_cons_eq_if_modifyHead, if_pos hc]
      exact ih
    | false =>
      obtain ⟨first, rest, hcs, hsplit⟩ :=
        exists_splitOnP_append (List.forall_mem_singleton.mpr hc) cs
      rw [hcs] at ih
      rw [List.singleton_append, List.singleton_append] at hsplit
      rw [hsplit]
      exact congrArg (c :: ·) ih

/-! ### Cutting at blanks -/

/-- A blank parts the words before it from those after it. -/
theorem words_append_blank {b : Char} (hb : isBlank b = true) (s t : List Char) :
    words (s ++ b :: t) = words s ++ words t := by
  unfold words
  rw [List.splitOnP_append_cons s t hb, List.filter_append]

/-- A text without blanks is a word, if it is not empty. -/
theorem words_of_isWord (h : IsWord word) : words word = [word] := by
  rw [words, List.splitOnP_eq_singleton h.2]
  refine List.filter_eq_self.mpr ?_
  intro piece hpiece
  rw [List.mem_singleton.mp hpiece]
  simpa using h.1

/-- The words of parts with a blank between them are those of each part. -/
theorem words_intercalate {b : Char} (hb : isBlank b = true) (parts : List (List Char)) :
    words ([b].intercalate parts) = parts.flatMap words := by
  induction parts with
  | nil => rfl
  | cons part parts ih =>
    cases parts with
    | nil => simp
    | cons next parts =>
      rw [List.flatMap_cons, ← ih, List.intercalate_cons_cons, List.append_assoc,
        List.singleton_append, words_append_blank hb]

/-- The words of a text that is cut at one of the blanks are those of its parts. -/
theorem flatMap_words_splitOn {b : Char} (hb : isBlank b = true) (cs : List Char) :
    (cs.splitOn b).flatMap words = words cs := by
  rw [← words_intercalate hb, List.intercalate_splitOn]

/-- Characters that no cut falls at can be taken away before a text is cut or after. -/
theorem splitOnP_filter {p q : Char → Bool} (h : ∀ c, p c = true → q c = true)
    (cs : List Char) : (cs.filter q).splitOnP p = (cs.splitOnP p).map (·.filter q) := by
  induction cs with
  | nil => rfl
  | cons c cs ih =>
    rw [List.filter_cons]
    cases hp : p c with
    | true =>
      rw [if_pos (h c hp), List.splitOnP_cons_eq_if_modifyHead, if_pos hp,
        List.splitOnP_cons_eq_if_modifyHead, if_pos hp, ih]
      rfl
    | false =>
      obtain ⟨first, rest, hcs, hsplit⟩ :=
        exists_splitOnP_append (List.forall_mem_singleton.mpr hp) cs
      rw [hcs, List.map_cons] at ih
      rw [List.singleton_append, List.singleton_append] at hsplit
      rw [hsplit, List.map_cons, List.filter_cons]
      -- the character goes with the first piece, if it stays
      split
      · rw [List.splitOnP_cons_eq_if_modifyHead, if_neg (Bool.eq_false_iff.mp hp), ih,
          List.modifyHead_cons]
      · exact ih

/-! ### Words with spaces between them -/

/-- Words, and a space between each and the next. -/
def spaced (ws : List (List Char)) : List Char :=
  [' '].intercalate ws

@[simp] theorem spaced_singleton (word : List Char) : spaced [word] = word :=
  List.intercalate_singleton

theorem spaced_cons_cons (word next : List Char) (ws : List (List Char)) :
    spaced (word :: next :: ws) = word ++ ' ' :: spaced (next :: ws) := by
  rw [spaced, List.intercalate_cons_cons, List.append_assoc, List.singleton_append]
  rfl

/-- What stands directly before the first of some words belongs to it. -/
theorem append_spaced (s word : List Char) (ws : List (List Char)) :
    s ++ spaced (word :: ws) = spaced ((s ++ word) :: ws) := by
  cases ws with
  | nil => rw [spaced_singleton, spaced_singleton]
  | cons next ws => rw [spaced_cons_cons, spaced_cons_cons, List.append_assoc]

/-- Another word follows after a space. -/
theorem spaced_concat {ws : List (List Char)} (h : ws ≠ []) (word : List Char) :
    spaced (ws ++ [word]) = spaced ws ++ ' ' :: word := by
  induction ws with
  | nil => exact absurd rfl h
  | cons first ws ih =>
    cases ws with
    | nil =>
      rw [List.singleton_append, spaced_cons_cons, spaced_singleton, spaced_singleton]
    | cons next ws =>
      have hrest := ih (List.cons_ne_nil next ws)
      rw [List.cons_append] at hrest
      rw [List.cons_append, List.cons_append, spaced_cons_cons, spaced_cons_cons, hrest,
        List.append_assoc, List.cons_append]

/-- A line of words with single spaces between them has these words. -/
theorem words_spaced {ws : List (List Char)} (h : ∀ word ∈ ws, IsWord word) :
    words (spaced ws) = ws := by
  have hwords : ws.map words = ws.map ([·]) :=
    List.map_congr_left fun word hword => words_of_isWord (h word hword)
  rw [spaced, words_intercalate (by decide), List.flatMap_def, hwords, ← List.flatMap_def,
    List.flatMap_singleton']

end Letterhead.Text
