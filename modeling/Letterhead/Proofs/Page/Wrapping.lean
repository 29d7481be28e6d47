import Letterhead.Page.Wrap

/-!
# What wrapping puts on lines

Wrapping a text takes its words apart from its blanks, cuts those that are wider than a line, and
puts single spaces between them. So a line holds no blank but the space, whatever the text holds,
and is never wider than it may be.

* `IsPlain` — the characters that may stand on a line;
* `chop_spec`, `pieces_spec` — the pieces of a word;
* `endedBy`, `lineAfter`, `fill_cons` — what one word does to the lines;
* `forall_mem_fill` — the induction over the lines that words fill;
* `forall_char_mem_fill`, `displayWidth_le_of_mem_fill` — their characters and their widths;
* `isPlain_of_mem_wrapAll`, `displayWidth_le_of_mem_wrapAll` — the lines of a text.
-/

namespace Letterhead

/-- A character that may stand on a line: of all blanks, only the space. -/
def IsPlain (c : Char) : Prop :=
  Text.isBlank c = true → c = ' '

theorem isPlain_space : IsPlain ' ' := fun _ => rfl

theorem isPlain_of_not_isBlank {c : Char} (h : Text.isBlank c = false) : IsPlain c := by
  intro hblank
  rw [h] at hblank
  exact absurd hblank Bool.false_ne_true

/-! ### Pieces -/

theorem consFirst_cons (c : Char) (line : Line) (rest : List Line) :
    consFirst c (line :: rest) = (c :: line) :: rest := rfl

/-- A word is cut into a first piece that fits into the room and others that fit on a line. The
pieces are the word. -/
theorem chop_spec {width : Nat} (hw : 0 < width) (room : Nat) (word : Line) :
    ∃ first rest, chop width room word = first :: rest ∧ first ++ rest.flatten = word ∧
      displayWidth first ≤ room ∧ ∀ piece ∈ rest, displayWidth piece ≤ width := by
  -- the room changes along the word: it shrinks, and is a whole line again where a piece begins
  induction word generalizing room with
  | nil =>
    refine ⟨[], [], ?_, rfl, Nat.zero_le _, List.forall_mem_nil _⟩
    rw [chop]
  | cons c cs ih =>
    cases room with
    | zero =>
      by_cases hc : c = overlay
      · -- an overlay takes no room, and stays with its character
        obtain ⟨first, rest, hchop, hflat, hfirst, hrest⟩ := ih 0
        refine ⟨c :: first, rest, ?_, ?_, ?_, hrest⟩
        · rw [chop, if_pos hc, hchop, consFirst_cons]
        · rw [List.cons_append, hflat]
        · rw [displayWidth_cons, if_pos hc]
          exact hfirst
      · -- nothing fits any more, and a piece begins
        obtain ⟨first, rest, hchop, hflat, hfirst, hrest⟩ := ih (width - 1)
        refine ⟨[], (c :: first) :: rest, ?_, ?_, Nat.zero_le _, ?_⟩
        · rw [chop, if_neg hc, hchop, consFirst_cons]
        · rw [List.nil_append, List.flatten_cons, List.cons_append, hflat]
        · intro piece hpiece
          rcases List.mem_cons.mp hpiece with rfl | hpiece
          · rw [displayWidth_cons, if_neg hc]
            omega
          · exact hrest piece hpiece
    | succ room =>
      by_cases hc : c = overlay
      · obtain ⟨first, rest, hchop, hflat, hfirst, hrest⟩ := ih (room + 1)
        refine ⟨c :: first, rest, ?_, ?_, ?_, hrest⟩
        · rw [chop, if_pos hc, hchop, consFirst_cons]
        · rw [List.cons_append, hflat]
        · rw [displayWidth_cons, if_pos hc]
          exact hfirst
      · obtain ⟨first, rest, hchop, hflat, hfirst, hrest⟩ := ih room
        refine ⟨c :: first, rest, ?_, ?_, ?_, hrest⟩
        · rw [chop, if_neg hc, hchop, consFirst_cons]
        · rw [List.cons_append, hflat]
        · rw [displayWidth_cons, if_neg hc]
          omega

/-- The pieces of a word are the word, each fits on a line, and there is one at least. -/
theorem pieces_spec {width : Nat} (hw : 0 < width) (word : Line) :
    pieces width word ≠ [] ∧ (pieces width word).flatten = word ∧
      ∀ piece ∈ pieces width word, displayWidth piece ≤ width := by
  obtain ⟨first, rest, hchop, hflat, hfirst, hrest⟩ := chop_spec hw width word
  rw [pieces, hchop]
  refine ⟨List.cons_ne_nil _ _, ?_, ?_⟩
  · rw [List.flatten_cons, hflat]
  · intro piece hpiece
    rcases List.mem_cons.mp hpiece with rfl | hpiece
    · exact hfirst
    · exact hrest piece hpiece

/-- The last piece, on which the next word may follow, is one of the pieces. -/
theorem getLastD_pieces_mem {width : Nat} (hw : 0 < width) (word : Line) :
    (pieces width word).getLastD [] ∈ pieces width word := by
  rw [List.getLastD_eq_getLast?, List.getLast?_eq_some_getLast (pieces_spec hw word).1]
  exact List.getLast_mem _

theorem mem_of_mem_pieces {width : Nat} (hw : 0 < width) {word piece : Line}
    (h : piece ∈ pieces width word) {c : Char} (hc : c ∈ piece) : c ∈ word := by
  rw [← (pieces_spec hw word).2.1]
  exact List.mem_flatten.mpr ⟨piece, h, hc⟩

/-! ### Filling -/

/-- The lines that a word ends: all its pieces but the last, after the line that is begun if the
word does not fit on it. -/
def endedBy (width : Nat) (line word : Line) : List Line :=
  if displayWidth line = 0 then (pieces width word).dropLast
  else if displayWidth line + 1 + displayWidth word ≤ width then []
  else line :: (pieces width word).dropLast

/-- The line that is begun after a word: the word on it if it fits, and its last piece otherwise. -/
def lineAfter (width : Nat) (line word : Line) : Line :=
  if displayWidth line = 0 then line ++ (pieces width word).getLastD []
  else if displayWidth line + 1 + displayWidth word ≤ width then line ++ ' ' :: word
  else (pieces width word).getLastD []

theorem fill_nil (width : Nat) (line : Line) :
    fill width line [] = if line.isEmpty then [] else [line] := by
  rw [fill]

/-- Words are put on lines one by one. -/
theorem fill_cons (width : Nat) (line word : Line) (rest : List Line) :
    fill width line (word :: rest) =
      endedBy width line word ++ fill width (lineAfter width line word) rest := by
  rw [fill, endedBy, lineAfter]
  split
  · rfl
  · split <;> rfl

section Fill

variable {width : Nat} {line : Line} {words : List Line}

/-- What one word does: what holds of its pieces and of the line that is begun holds of the lines
that the word ends and of the line that is begun then. -/
theorem forall_mem_endedBy {Q : Line → Prop} {word : Line} (hw : 0 < width)
    (hpiece : ∀ piece ∈ pieces width word, Q piece)
    (hempty : ∀ piece ∈ pieces width word, displayWidth line = 0 → Q (line ++ piece))
    (hfits : displayWidth line ≠ 0 → displayWidth line + 1 + displayWidth word ≤ width →
      Q (line ++ ' ' :: word))
    (hline : displayWidth line ≠ 0 → Q line) :
    (∀ l ∈ endedBy width line word, Q l) ∧ Q (lineAfter width line word) := by
  have hlast := getLastD_pieces_mem hw word
  have hdropped : ∀ l ∈ (pieces width word).dropLast, Q l :=
    fun l hl => hpiece l (List.dropLast_subset _ hl)
  rw [endedBy, lineAfter]
  by_cases hzero : displayWidth line = 0
  · -- nothing shows on the line yet
    rw [if_pos hzero, if_pos hzero]
    exact ⟨hdropped, hempty _ hlast hzero⟩
  · rw [if_neg hzero, if_neg hzero]
    split
    · -- the word fits behind a space
      next hle => exact ⟨List.forall_mem_nil _, hfits hzero hle⟩
    · -- the line ends, and the word begins another one
      exact ⟨List.forall_mem_cons.mpr ⟨hline hzero, hdropped⟩, hpiece _ hlast⟩

/-- What holds of every piece and of the line that is begun holds of all lines, if it is kept when
a piece follows on an empty line and when a word that fits follows after a space. -/
theorem forall_mem_fill {Q : Line → Prop} (hw : 0 < width)
    (hpiece : ∀ word ∈ words, ∀ piece ∈ pieces width word, Q piece)
    (hempty : ∀ l piece, displayWidth l = 0 → Q l → Q piece → Q (l ++ piece))
    (hfits : ∀ l, ∀ word ∈ words, displayWidth l ≠ 0 →
      displayWidth l + 1 + displayWidth word ≤ width → Q l → Q (l ++ ' ' :: word))
    (hline : Q line) : ∀ l ∈ fill width line words, Q l := by
  induction words generalizing line with
  | nil =>
    intro l hl
    rw [fill_nil] at hl
    split at hl
    · exact absurd hl List.not_mem_nil
    · rw [List.mem_singleton.mp hl]
      exact hline
  | cons word rest ih =>
    have hpieces := hpiece word List.mem_cons_self
    obtain ⟨hended, hafter⟩ := forall_mem_endedBy hw hpieces
      (fun piece hp hzero => hempty line piece hzero hline (hpieces piece hp))
      (fun hzero hle => hfits line word List.mem_cons_self hzero hle hline) (fun _ => hline)
    rw [fill_cons]
    -- the line that is begun then keeps `Q`, and the rest follows
    refine List.forall_mem_append.mpr ⟨hended, ih ?_ ?_ hafter⟩
    · exact fun w h => hpiece w (List.mem_cons_of_mem _ h)
    · exact fun l w h => hfits l w (List.mem_cons_of_mem _ h)

/-- Filling lines adds no character to the words but the space. -/
theorem forall_char_mem_fill {P : Char → Prop} (hspace : P ' ') (hw : 0 < width)
    (hline : ∀ c ∈ line, P c) (hwords : ∀ word ∈ words, ∀ c ∈ word, P c) :
    ∀ l ∈ fill width line words, ∀ c ∈ l, P c := by
  refine forall_mem_fill hw ?_ ?_ ?_ hline
  · intro word hword piece hpiece c hc
    exact hwords word hword c (mem_of_mem_pieces hw hpiece hc)
  · intro l piece _ hl hpiece
    exact List.forall_mem_append.mpr ⟨hl, hpiece⟩
  · intro l word hword _ _ hl
    exact List.forall_mem_append.mpr ⟨hl, List.forall_mem_cons.mpr ⟨hspace, hwords word hword⟩⟩

/-- No line that words fill is too wide. -/
theorem displayWidth_le_of_mem_fill (hw : 0 < width) (hline : displayWidth line ≤ width) :
    ∀ l ∈ fill width line words, displayWidth l ≤ width := by
  refine forall_mem_fill hw ?_ ?_ ?_ hline
  · intro word _ piece hpiece
    exact (pieces_spec hw word).2.2 piece hpiece
  · intro l piece hzero _ hpiece
    rw [displayWidth_append, hzero, Nat.zero_add]
    exact hpiece
  · intro l word _ _ hfits _
    rw [displayWidth_append, displayWidth_cons, if_neg (by decide)]
    omega

end Fill

/-! ### Texts -/

section Texts

variable {width : Nat} {text line : Line}

theorem mem_wrap (h : line ∈ wrap width text) :
    line = [] ∨ line ∈ fill (max width 1) [] (Text.words text) := by
  rw [wrap] at h
  split at h
  · exact Or.inl (List.mem_singleton.mp h)
  · exact Or.inr h

theorem isPlain_of_mem_wrap (h : line ∈ wrap width text) : ∀ c ∈ line, IsPlain c := by
  rcases mem_wrap h with rfl | h
  · exact List.forall_mem_nil _
  · refine forall_char_mem_fill isPlain_space (by omega) ?_ ?_ line h
    · exact List.forall_mem_nil _
    · -- a word is what stands between blanks
      intro word hword c hc
      exact isPlain_of_not_isBlank (Text.isBlank_of_mem_words hword c hc)

theorem displayWidth_le_of_mem_wrap (h : line ∈ wrap width text) :
    displayWidth line ≤ max width 1 := by
  rcases mem_wrap h with rfl | h
  · exact Nat.zero_le _
  · exact displayWidth_le_of_mem_fill (by omega) (Nat.zero_le _) line h

/-- Whatever blanks a text holds, its lines hold none but spaces. -/
theorem isPlain_of_mem_wrapAll (h : line ∈ wrapAll width text) : ∀ c ∈ line, IsPlain c := by
  obtain ⟨part, -, hline⟩ := List.mem_flatMap.mp h
  exact isPlain_of_mem_wrap hline

theorem displayWidth_le_of_mem_wrapAll (h : line ∈ wrapAll width text) :
    displayWidth line ≤ max width 1 := by
  obtain ⟨part, -, hline⟩ := List.mem_flatMap.mp h
  exact displayWidth_le_of_mem_wrap hline

end Texts

end Letterhead
