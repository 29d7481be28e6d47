import Letterhead.Proofs.Page.Wrapping

/-!
# How a word is cut

A word that is wider than a line loses a line's width from its front, again and again, until the
rest fits. A cut falls in front of a character that takes a column, so that the overlays of the
character before it stay there.

* `cutAt` — a word cut after some columns: what is cut off, and the rest;
* `pieces_of_le`, `pieces_of_lt` — the pieces of a word by one cut after the other;
* `dropLast_pieces_append` — all pieces but the last, and the last;
* `forall_mem_pieces` — what holds of the pieces of a word.
-/

namespace Letterhead

/-! ### One cut -/

theorem ne_nil_of_displayWidth_pos {line : Line} (h : 0 < displayWidth line) : line ≠ [] := by
  rintro rfl
  exact Nat.lt_irrefl 0 h

/-- A word cut after `n` columns, with the overlays that follow on them. -/
def cutAt : Nat → Line → Line × Line
  | _, [] => ([], [])
  | 0, c :: cs => if c = overlay then Prod.map (c :: ·) id (cutAt 0 cs) else ([], c :: cs)
  | n + 1, c :: cs =>
    if c = overlay then Prod.map (c :: ·) id (cutAt (n + 1) cs)
    else Prod.map (c :: ·) id (cutAt n cs)

/-- An overlay takes no column, so that a cut falls behind it. -/
theorem cutAt_of_overlay {c : Char} (hc : c = overlay) (n : Nat) (cs : Line) :
    cutAt n (c :: cs) = Prod.map (c :: ·) id (cutAt n cs) := by
  cases n with
  | zero => rw [cutAt, if_pos hc]
  | succ n => rw [cutAt, if_pos hc]

/-- A cut loses nothing. What is cut off has the columns asked for, as far as the word has them, and
the rest has the others; if there is a rest, it begins with a character that takes a column. -/
theorem cutAt_spec (n : Nat) (word : Line) :
    (cutAt n word).1 ++ (cutAt n word).2 = word ∧
      displayWidth (cutAt n word).1 = min n (displayWidth word) ∧
      (cutAt n word).2.head? ≠ some overlay := by
  induction word generalizing n with
  | nil =>
    rw [cutAt]
    exact ⟨rfl, (Nat.min_zero n).symm, fun h => nomatch h⟩
  | cons c cs ih =>
    by_cases hc : c = overlay
    · obtain ⟨happend, hwidth, hhead⟩ := ih n
      rw [cutAt_of_overlay hc]
      refine ⟨congrArg (c :: ·) happend, ?_, hhead⟩
      rw [Prod.map_fst, displayWidth_cons, displayWidth_cons, if_pos hc]
      exact hwidth
    · cases n with
      | zero =>
        rw [cutAt, if_neg hc]
        refine ⟨rfl, (Nat.zero_min _).symm, ?_⟩
        rw [List.head?_cons]
        exact fun h => hc (Option.some.inj h)
      | succ n =>
        obtain ⟨happend, hwidth, hhead⟩ := ih n
        rw [cutAt, if_neg hc]
        refine ⟨congrArg (c :: ·) happend, ?_, hhead⟩
        rw [Prod.map_fst, displayWidth_cons, displayWidth_cons, if_neg hc, hwidth]
        omega

theorem cutAt_append (n : Nat) (word : Line) : (cutAt n word).1 ++ (cutAt n word).2 = word :=
  (cutAt_spec n word).1

theorem displayWidth_cutAt_fst (n : Nat) (word : Line) :
    displayWidth (cutAt n word).1 = min n (displayWidth word) :=
  (cutAt_spec n word).2.1

theorem displayWidth_cutAt_snd (n : Nat) (word : Line) :
    displayWidth (cutAt n word).2 = displayWidth word - n := by
  have hsum := congrArg displayWidth (cutAt_append n word)
  rw [displayWidth_append, displayWidth_cutAt_fst] at hsum
  omega

/-! ### One cut after the other -/

section Pieces

variable {width : Nat}

/-- A word is cut if there is more of it than there is room for, and its rest is cut at every full
line. -/
theorem chop_eq (hw : 0 < width) (room : Nat) (word : Line) :
    chop width room word =
      if displayWidth word ≤ room then [word]
      else (cutAt room word).1 :: chop width width (cutAt room word).2 := by
  induction word generalizing room with
  | nil => rw [chop, displayWidth_nil, if_pos (Nat.zero_le _)]
  | cons c cs ih =>
    by_cases hc : c = overlay
    · -- the overlay goes where the characters behind it go
      have hchop : chop width room (c :: cs) = consFirst c (chop width room cs) := by
        cases room with
        | zero => rw [chop, if_pos hc]
        | succ room => rw [chop, if_pos hc]
      rw [hchop, cutAt_of_overlay hc, ih, displayWidth_cons, if_pos hc, Nat.add_zero]
      split <;> rfl
    · rw [displayWidth_cons, if_neg hc]
      cases room with
      | zero =>
        -- there is no room, and the rest is the whole word
        rw [if_neg (by omega), chop, if_neg hc, cutAt, if_neg hc]
        obtain ⟨w, rfl⟩ := Nat.exists_eq_add_of_lt hw
        rw [Nat.zero_add, Nat.add_sub_cancel, chop, if_neg hc]
      | succ room =>
        rw [chop, if_neg hc, ih, cutAt, if_neg hc]
        by_cases hfits : displayWidth cs ≤ room
        · rw [if_pos hfits, if_pos (by omega)]
          rfl
        · rw [if_neg hfits, if_neg (by omega)]
          rfl

/-- A word that fits on a line is left whole. -/
theorem pieces_of_le (hw : 0 < width) {word : Line} (h : displayWidth word ≤ width) :
    pieces width word = [word] := by
  rw [pieces, chop_eq hw, if_pos h]

/-- A wider one loses a line's width, and its rest is cut on. -/
theorem pieces_of_lt (hw : 0 < width) {word : Line} (h : width < displayWidth word) :
    pieces width word = (cutAt width word).1 :: pieces width (cutAt width word).2 := by
  rw [pieces, chop_eq hw, if_neg (by omega)]
  rfl

/-- What holds of words that fit, and of a wider one if it holds of the rest of it, holds of all:
each cut leaves a narrower rest. -/
theorem cut_induction {motive : Line → Prop} (hw : 0 < width)
    (hfits : ∀ word, displayWidth word ≤ width → motive word)
    (hcut : ∀ word, width < displayWidth word → motive (cutAt width word).2 → motive word)
    (word : Line) : motive word := by
  induction hn : displayWidth word using Nat.strongRecOn generalizing word with
  | ind n ih =>
    by_cases h : displayWidth word ≤ width
    · exact hfits word h
    · refine hcut word (by omega) (ih _ ?_ _ rfl)
      rw [displayWidth_cutAt_snd]
      omega

/-- All pieces but the last, and the last one, are the word. -/
theorem dropLast_pieces_append (hw : 0 < width) (word : Line) :
    (pieces width word).dropLast.flatten ++ (pieces width word).getLastD [] = word := by
  obtain ⟨hne, hflat, -⟩ := pieces_spec hw word
  have hlast : (pieces width word).getLastD [] = (pieces width word).getLast hne := by
    rw [List.getLastD_eq_getLast?, List.getLast?_eq_some_getLast hne]
    rfl
  have hconcat := List.dropLast_concat_getLast hne
  rw [hlast]
  calc
    (pieces width word).dropLast.flatten ++ (pieces width word).getLast hne
      = ((pieces width word).dropLast ++ [(pieces width word).getLast hne]).flatten := by
        rw [List.flatten_append, List.flatten_singleton]
    _ = word := by rw [hconcat, hflat]

/-- What each cut leaves to both of its parts, a word leaves to its pieces. -/
theorem forall_mem_pieces (hw : 0 < width) {P : Line → Prop}
    (hcut : ∀ word, width < displayWidth word → P word →
      P (cutAt width word).1 ∧ P (cutAt width word).2)
    {word : Line} (h : P word) : ∀ piece ∈ pieces width word, P piece := by
  induction word using cut_induction hw with
  | hfits word hfits =>
    rw [pieces_of_le hw hfits]
    exact List.forall_mem_singleton.mpr h
  | hcut word hlt ih =>
    obtain ⟨hpiece, hrest⟩ := hcut word hlt h
    rw [pieces_of_lt hw hlt]
    exact List.forall_mem_cons.mpr ⟨hpiece, ih hrest⟩

/-- The pieces of a word that shows something show something. -/
theorem displayWidth_pos_of_mem_pieces (hw : 0 < width) {word : Line} (h : 0 < displayWidth word) :
    ∀ piece ∈ pieces width word, 0 < displayWidth piece := by
  refine forall_mem_pieces (P := (0 < displayWidth ·)) hw ?_ h
  intro word hlt _
  rw [displayWidth_cutAt_fst, displayWidth_cutAt_snd]
  omega

/-- No piece of a word is empty. -/
theorem ne_nil_of_mem_pieces (hw : 0 < width) {word : Line} (h : word ≠ []) :
    ∀ piece ∈ pieces width word, piece ≠ [] := by
  refine forall_mem_pieces (P := (· ≠ [])) hw ?_ h
  intro word hlt _
  -- both parts of a word that is cut show something
  refine ⟨ne_nil_of_displayWidth_pos ?_, ne_nil_of_displayWidth_pos ?_⟩
  · rw [displayWidth_cutAt_fst]
    omega
  · rw [displayWidth_cutAt_snd]
    omega

/-- No piece of a word begins with an overlay unless the word does. -/
theorem head?_ne_overlay_of_mem_pieces (hw : 0 < width) {word : Line}
    (h : word.head? ≠ some overlay) : ∀ piece ∈ pieces width word, piece.head? ≠ some overlay := by
  refine forall_mem_pieces (P := fun line => line.head? ≠ some overlay) hw ?_ h
  intro word _ hword
  refine ⟨?_, (cutAt_spec width word).2.2⟩
  -- what is cut off begins as the word does
  intro hhead
  rw [← cutAt_append width word, List.head?_append, hhead] at hword
  exact hword rfl

end Pieces

end Letterhead
