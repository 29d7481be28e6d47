import Mathlib.Algebra.GroupWithZero.Nat
import Mathlib.Algebra.Order.BigOperators.Group.List
import Mathlib.Algebra.Order.Group.Nat
import Mathlib.Data.List.Chain
import Mathlib.Data.List.Induction
import Mathlib.Order.Bounds.Basic
import Letterhead.Proofs.Page.Filling

/-!
# As few lines as can be

A word that fits on a line is not cut, so that the lines of such words share them out. Each line
takes words as long as they fit, and the next one begins with the first that does not. However else
the words are shared out, there are no fewer lines: where the first line ends, wrapping has put as
many words on its first line or more, and so on from line to line.

* `IsSharing`, `sharingCounts` — words shared out among lines that are not too wide, and on how many
  lines that can be done;
* `Overflows` — the first word of a line did not fit on the line before it;
* `share`, `fill_spaced` — each line takes what fits, and that is what filling does;
* `isSharing_share`, `isChain_share`, `length_share_le` — it shares the words out, leaves no room
  for a word that comes later, and takes the fewest lines;
* `wrap_fewest_lines` — the same of wrapping.
-/

namespace Letterhead

/-! ### Sharing words out -/

/-- Words shared out among lines: the lines hold consecutive words with single spaces between them,
and none is too wide. There may be lines without words. -/
structure IsSharing (width : Nat) (words : List Line) (groups : List (List Line)) : Prop where
  flatten_eq : groups.flatten = words
  fits : ∀ group ∈ groups, displayWidth (Text.spaced group) ≤ width

/-- The numbers of lines that words can be shared out among. -/
def sharingCounts (width : Nat) (words : List Line) : Set Nat :=
  {n | ∃ groups, IsSharing width words groups ∧ groups.length = n}

/-- Whether the first word of a line would not have fitted on the line before it. -/
def Overflows (width : Nat) (group next : List Line) : Prop :=
  ∃ word rest, next = word :: rest ∧ width < displayWidth (Text.spaced (group ++ [word]))

/-- Words shared out, with `group` on the line that is begun: a word goes there if it fits, and
begins another line otherwise. -/
def share (width : Nat) (group : List Line) : List Line → List (List Line)
  | [] => [group]
  | word :: words =>
    if displayWidth (Text.spaced (group ++ [word])) ≤ width then share width (group ++ [word]) words
    else group :: share width [word] words

section Share

variable {width : Nat} {group words : List Line} {word : Line}

theorem share_of_fits (h : displayWidth (Text.spaced (group ++ [word])) ≤ width)
    (words : List Line) :
    share width group (word :: words) = share width (group ++ [word]) words := by
  rw [share, if_pos h]

theorem share_of_wide (h : width < displayWidth (Text.spaced (group ++ [word])))
    (words : List Line) :
    share width group (word :: words) = group :: share width [word] words := by
  rw [share, if_neg (by omega)]

/-! ### Widths -/

/-- Another word takes its columns and one more for the space. -/
theorem displayWidth_spaced_concat (h : group ≠ []) (word : Line) :
    displayWidth (Text.spaced (group ++ [word])) =
      displayWidth (Text.spaced group) + 1 + displayWidth word := by
  rw [Text.spaced_concat h, displayWidth_append, displayWidth_cons, if_neg (by decide)]
  omega

/-- The columns of words on a line: those of each word and one for each space. -/
theorem displayWidth_spaced (h : group ≠ []) :
    displayWidth (Text.spaced group) + 1 = (group.map (displayWidth · + 1)).sum := by
  induction group using List.reverseRecOn with
  | nil => exact absurd rfl h
  | append_singleton group word ih =>
    rw [List.map_append, List.sum_append, List.map_singleton, List.sum_singleton]
    by_cases hgroup : group = []
    · rw [hgroup, List.nil_append, Text.spaced_singleton, List.map_nil, List.sum_nil, Nat.zero_add]
    · rw [displayWidth_spaced_concat hgroup, ← ih hgroup]
      omega

/-- Some of the words of a line take no more columns than all of them. -/
theorem displayWidth_spaced_le {some all : List Line} (h : List.Sublist some all) :
    displayWidth (Text.spaced some) ≤ displayWidth (Text.spaced all) := by
  cases some with
  | nil => exact Nat.zero_le _
  | cons word rest =>
    have hall : all ≠ [] := by
      rintro rfl
      exact List.cons_ne_nil _ _ (List.sublist_nil.mp h)
    have hsum : ((word :: rest).map (displayWidth · + 1)).sum ≤
        (all.map (displayWidth · + 1)).sum :=
      (h.map _).sum_le_sum fun _ _ => Nat.zero_le _
    rw [← displayWidth_spaced (List.cons_ne_nil word rest), ← displayWidth_spaced hall] at hsum
    omega

/-- Words of which one shows something show something. -/
theorem displayWidth_spaced_pos (hne : group ≠ []) (h : ∀ word ∈ group, 1 ≤ displayWidth word) :
    0 < displayWidth (Text.spaced group) := by
  obtain ⟨word, rest, rfl⟩ := List.exists_cons_of_ne_nil hne
  have hone : [word].Sublist (word :: rest) := List.singleton_sublist.mpr List.mem_cons_self
  calc
    0 < displayWidth word := h word List.mem_cons_self
    _ = displayWidth (Text.spaced [word]) := by rw [Text.spaced_singleton]
    _ ≤ displayWidth (Text.spaced (word :: rest)) := displayWidth_spaced_le hone

/-! ### Each line takes what fits -/

/-- Words that fit on a line are filled in as they are shared out: none of them is cut. -/
theorem fill_spaced (hne : group ≠ []) (hgroup : ∀ word ∈ group, 1 ≤ displayWidth word)
    (hwords : ∀ word ∈ words, 1 ≤ displayWidth word ∧ displayWidth word ≤ width) :
    fill width (Text.spaced group) words = (share width group words).map Text.spaced := by
  induction words generalizing group with
  | nil =>
    have hline : Text.spaced group ≠ [] :=
      ne_nil_of_displayWidth_pos (displayWidth_spaced_pos hne hgroup)
    rw [fill_nil, if_neg (by simpa using hline)]
    rfl
  | cons word words ih =>
    obtain ⟨⟨hpos, hle⟩, hrest⟩ := List.forall_mem_cons.mp hwords
    have hshown : displayWidth (Text.spaced group) ≠ 0 := by
      have := displayWidth_spaced_pos hne hgroup
      omega
    have hconcat := displayWidth_spaced_concat hne word
    rw [fill_cons, endedBy, lineAfter, if_neg hshown, if_neg hshown, ← hconcat]
    by_cases hfits : displayWidth (Text.spaced (group ++ [word])) ≤ width
    · -- the line goes on, with one word more
      have hmore : ∀ w ∈ group ++ [word], 1 ≤ displayWidth w :=
        List.forall_mem_append.mpr ⟨hgroup, List.forall_mem_singleton.mpr hpos⟩
      rw [if_pos hfits, if_pos hfits, share_of_fits hfits, ← Text.spaced_concat hne,
        ih (List.append_ne_nil_of_left_ne_nil hne _) hmore hrest]
      rfl
    · -- the line ends, and the word begins another one whole
      have hwhole : pieces width word = [word] := pieces_of_le (by omega) hle
      have hline : fill width word words = (share width [word] words).map Text.spaced := by
        rw [← ih (List.cons_ne_nil _ _) (List.forall_mem_singleton.mpr hpos) hrest,
          Text.spaced_singleton]
      rw [if_neg hfits, if_neg hfits, share_of_wide (by omega), hwhole, List.map_cons, ← hline]
      rfl

theorem flatten_share (width : Nat) (group words : List Line) :
    (share width group words).flatten = group ++ words := by
  induction words generalizing group with
  | nil => rw [share, List.flatten_singleton, List.append_nil]
  | cons word words ih =>
    rw [share]
    split
    · rw [ih, List.append_assoc, List.singleton_append]
    · rw [List.flatten_cons, ih, List.singleton_append]

/-- The first line goes on with the words that are on it. -/
theorem share_eq_cons (width : Nat) (group words : List Line) :
    ∃ rest groups, share width group words = (group ++ rest) :: groups := by
  induction words generalizing group with
  | nil => exact ⟨[], [], by rw [share, List.append_nil]⟩
  | cons word words ih =>
    rw [share]
    split
    · obtain ⟨rest, groups, hshare⟩ := ih (group ++ [word])
      exact ⟨word :: rest, groups, by rw [hshare, List.append_assoc, List.singleton_append]⟩
    · exact ⟨[], _, by rw [List.append_nil]⟩

/-- No line is left without words, and none is too wide. -/
theorem fits_of_mem_share (hne : group ≠ []) (hgroup : displayWidth (Text.spaced group) ≤ width)
    (hwords : ∀ word ∈ words, displayWidth word ≤ width) :
    ∀ g ∈ share width group words, g ≠ [] ∧ displayWidth (Text.spaced g) ≤ width := by
  induction words generalizing group with
  | nil => exact List.forall_mem_singleton.mpr ⟨hne, hgroup⟩
  | cons word words ih =>
    obtain ⟨hword, hrest⟩ := List.forall_mem_cons.mp hwords
    rw [share]
    split
    · next hfits => exact ih (List.append_ne_nil_of_left_ne_nil hne _) hfits hrest
    · refine List.forall_mem_cons.mpr ⟨⟨hne, hgroup⟩, ih (List.cons_ne_nil _ _) ?_ hrest⟩
      rw [Text.spaced_singleton]
      exact hword

/-- A line ends where the next word does not fit on it. -/
theorem isChain_share (width : Nat) (group words : List Line) :
    (share width group words).IsChain (Overflows width) := by
  induction words generalizing group with
  | nil => exact List.isChain_singleton _
  | cons word words ih =>
    rw [share]
    split
    · exact ih _
    · next hwide =>
      obtain ⟨rest, groups, hshare⟩ := share_eq_cons width [word] words
      have hchain := ih [word]
      rw [hshare] at hchain ⊢
      exact List.IsChain.cons_cons ⟨word, rest, rfl, by omega⟩ hchain

/-! ### No sharing takes fewer lines -/

/-- No line takes more than fits: if the words `group`, and one more that does not fit beside them,
are still to come where a line begins, then that one is still to come where it ends. -/
theorem suffix_flatten_of_wide {line : List Line} {later : List (List Line)}
    (hline : displayWidth (Text.spaced line) ≤ width)
    (hwide : width < displayWidth (Text.spaced (group ++ [word])))
    (h : group ++ word :: words <:+ line ++ later.flatten) : word :: words <:+ later.flatten := by
  obtain ⟨before, hbefore⟩ := h
  rw [← List.append_assoc] at hbefore
  -- the line ends behind the words, and perhaps behind one more, or it ends before that
  rcases List.append_eq_append_iff.mp hbefore with ⟨part, hpart, hlater⟩ | ⟨part, -, hlater⟩
  case inr => exact ⟨part, hlater.symm⟩
  case inl =>
    cases part with
    | nil => exact ⟨[], hlater⟩
    | cons first part =>
      obtain ⟨rfl, -⟩ := List.cons.inj hlater
      -- the line would hold the words and the one that does not fit beside them
      have hholds : List.Sublist (group ++ [word]) line := by
        rw [hpart, List.append_assoc]
        refine (List.Sublist.append_left ?_ group).trans (List.sublist_append_right before _)
        exact List.Sublist.cons_cons word (List.nil_sublist part)
      have hle := displayWidth_spaced_le hholds
      omega

/-- **Sharing takes the fewest lines.** Lines that are not too wide, and hold all the words that are
still to come, are no fewer. -/
theorem length_share_le (hne : group ≠ []) {others : List (List Line)}
    (hothers : ∀ line ∈ others, displayWidth (Text.spaced line) ≤ width)
    (h : group ++ words <:+ others.flatten) : (share width group words).length ≤ others.length := by
  -- induction over the words; at the end of a line one of the others is left behind
  induction words generalizing group others with
  | nil =>
    cases others with
    | nil => exact absurd (List.append_eq_nil_iff.mp (List.suffix_nil.mp h)).1 hne
    | cons line later => exact Nat.succ_le_succ (Nat.zero_le _)
  | cons word words ih =>
    by_cases hfits : displayWidth (Text.spaced (group ++ [word])) ≤ width
    · rw [share_of_fits hfits]
      refine ih (List.append_ne_nil_of_left_ne_nil hne _) hothers ?_
      rw [List.append_assoc, List.singleton_append]
      exact h
    · have hwide : width < displayWidth (Text.spaced (group ++ [word])) := by omega
      cases others with
      | nil => exact absurd (List.append_eq_nil_iff.mp (List.suffix_nil.mp h)).1 hne
      | cons line later =>
        obtain ⟨hline, hlater⟩ := List.forall_mem_cons.mp hothers
        have hsuffix := suffix_flatten_of_wide hline hwide h
        rw [share_of_wide hwide, List.length_cons, List.length_cons]
        exact Nat.succ_le_succ (ih (List.cons_ne_nil _ _) hlater hsuffix)

end Share

/-! ### Wrapping -/

section Wrap

variable {width : Nat} {text first : Line} {words : List Line}

/-- A text is wrapped into its words, shared out from the first one on. -/
theorem wrap_eq_share (h : Text.words text = first :: words)
    (hwords : ∀ word ∈ first :: words, 1 ≤ displayWidth word ∧ displayWidth word ≤ width) :
    wrap width text = (share width [first] words).map Text.spaced := by
  obtain ⟨⟨hpos, hle⟩, hrest⟩ := List.forall_mem_cons.mp hwords
  have hne : Text.words text ≠ [] := by
    rw [h]
    exact List.cons_ne_nil _ _
  have hwidth : max width 1 = width := by omega
  have hwhole : pieces width first = [first] := pieces_of_le (by omega) hle
  -- the first word begins the first line
  have hbegun : fill width [] (first :: words) = fill width first words := by
    rw [fill_cons, endedBy, lineAfter, if_pos displayWidth_nil, if_pos displayWidth_nil, hwhole]
    rfl
  calc
    wrap width text = fill width (Text.spaced [first]) words := by
      rw [wrap_of_words hne, hwidth, h, hbegun, Text.spaced_singleton]
    _ = (share width [first] words).map Text.spaced :=
      fill_spaced (List.cons_ne_nil _ _) (List.forall_mem_singleton.mpr hpos) hrest

/-- **Wrapping takes the fewest lines.** A text of which every word shows something and fits on a
line is wrapped into lines that share its words out, on as few lines as that can be done; and the
first word of a line would not have fitted on the line before it. -/
theorem wrap_fewest_lines (hne : Text.words text ≠ [])
    (hwords : ∀ word ∈ Text.words text, 1 ≤ displayWidth word ∧ displayWidth word ≤ width) :
    IsLeast (sharingCounts width (Text.words text)) (wrap width text).length ∧
      ∃ groups, IsSharing width (Text.words text) groups ∧ (∀ group ∈ groups, group ≠ []) ∧
        wrap width text = groups.map Text.spaced ∧ groups.IsChain (Overflows width) := by
  obtain ⟨first, words, h⟩ := List.exists_cons_of_ne_nil hne
  rw [h] at hwords ⊢
  have hwrap := wrap_eq_share h hwords
  obtain ⟨⟨-, hfirst⟩, hrest⟩ := List.forall_mem_cons.mp hwords
  have hmem : ∀ group ∈ share width [first] words,
      group ≠ [] ∧ displayWidth (Text.spaced group) ≤ width := by
    refine fits_of_mem_share (List.cons_ne_nil _ _) ?_ fun word hword => (hrest word hword).2
    rw [Text.spaced_singleton]
    exact hfirst
  have hsharing : IsSharing width (first :: words) (share width [first] words) :=
    ⟨flatten_share width [first] words, fun group hgroup => (hmem group hgroup).2⟩
  have hlength : (wrap width text).length = (share width [first] words).length := by
    rw [hwrap, List.length_map]
  refine ⟨⟨⟨_, hsharing, hlength.symm⟩, ?_⟩, _, hsharing, fun group hgroup => (hmem group hgroup).1,
    hwrap, isChain_share width [first] words⟩
  -- whoever shares the words out otherwise has them all still to come at the start
  rintro n ⟨others, hothers, rfl⟩
  rw [hlength]
  refine length_share_le (List.cons_ne_nil _ _) hothers.fits ?_
  rw [hothers.flatten_eq]
  exact List.suffix_refl _

/-- Words that are struck in part, which does not make them wider. -/
theorem wrap_fewest_lines_struck :
    let text := " a̶b  cd\te̶f̶g h i".toList
    Text.words text ≠ [] ∧
      (∀ word ∈ Text.words text, 1 ≤ displayWidth word ∧ displayWidth word ≤ 5) ∧
      wrap 5 text = ["a̶b cd", "e̶f̶g h", "i"].map (·.toList) ∧
      IsLeast (sharingCounts 5 (Text.words text)) 3 := by
  intro text
  have hne : Text.words text ≠ [] := by decide
  have hwords : ∀ word ∈ Text.words text, 1 ≤ displayWidth word ∧ displayWidth word ≤ 5 := by
    decide
  have hlines : wrap 5 text = ["a̶b cd", "e̶f̶g h", "i"].map (·.toList) := by decide
  have hleast := (wrap_fewest_lines hne hwords).1
  rw [hlines] at hleast
  exact ⟨hne, hwords, hlines, hleast⟩

end Wrap

end Letterhead
