/-!
# Blank characters, trimming and words

White space here is Unicode's property of that name, which is wider than the ASCII blanks: a
no-break space and an ideographic space separate words and are trimmed as a plain space is.

* `isBlank`, `isControl` — the two character classes the library distinguishes by;
* `trim`, `trimEnd` — a text without its outer blanks;
* `words` — the maximal runs of non-blank characters;
* `joinPresent` — the non-blank ones of some optional texts, trimmed and joined.

The functions work on `List Char`, on which they can be reasoned about by induction; the ones on
`String` that follow them only convert.
-/

namespace Letterhead.Text

/-- The characters that have Unicode's `White_Space` property. -/
def isBlank (c : Char) : Bool :=
  let n := c.toNat
  (9 ≤ n && n ≤ 13) || n == 0x20 || n == 0x85 || n == 0xA0 || n == 0x1680 ||
    (0x2000 ≤ n && n ≤ 0x200A) || n == 0x2028 || n == 0x2029 || n == 0x202F || n == 0x205F ||
    n == 0x3000

/-- The control characters: C0, delete, and C1. -/
def isControl (c : Char) : Bool :=
  c.toNat < 0x20 || (0x7F ≤ c.toNat && c.toNat < 0xA0)

/-! ### Trimming -/

/-- A text without its leading blanks. -/
def trimStart (cs : List Char) : List Char :=
  cs.dropWhile isBlank

/-- A text without its trailing blanks. -/
def trimEnd (cs : List Char) : List Char :=
  (cs.reverse.dropWhile isBlank).reverse

theorem trimEnd_prefix (cs : List Char) : trimEnd cs <+: cs := by
  have h := List.reverse_prefix.mpr (List.dropWhile_suffix isBlank (l := cs.reverse))
  rw [List.reverse_reverse] at h
  exact h

/-- A text without its leading and trailing blanks. -/
def trim (cs : List Char) : List Char :=
  trimEnd (trimStart cs)

/-- `trim` on strings. -/
def trimmed (s : String) : String :=
  String.ofList (trim s.toList)

/-- Whether a string holds nothing but blanks. -/
def isBlankText (s : String) : Bool :=
  s.toList.all isBlank

/-- A string that shows something, trimmed; nothing otherwise. -/
def present (s : String) : Option String :=
  if isBlankText s then none else some (trimmed s)

/-! ### Words -/

/-- The maximal runs of non-blank characters, in order. -/
def words (cs : List Char) : List (List Char) :=
  (cs.splitOnP isBlank).filter (! ·.isEmpty)

@[simp] theorem words_nil : words [] = [] := rfl

/-- No piece of a text holds a character that it was split at. -/
theorem not_of_mem_splitOnP {α : Type} {p : α → Bool} {cs piece : List α}
    (h : piece ∈ cs.splitOnP p) : ∀ c ∈ piece, p c = false := by
  induction cs generalizing piece with
  | nil =>
    rw [List.splitOnP_nil, List.mem_singleton] at h
    rw [h]
    exact fun c hc => absurd hc List.not_mem_nil
  | cons d cs ih =>
    rw [List.splitOnP_cons_eq_if_modifyHead] at h
    obtain ⟨first, rest, hsplit⟩ := List.exists_cons_of_ne_nil (List.splitOnP_ne_nil p cs)
    rw [hsplit] at h ih
    by_cases hd : p d = true
    · rw [if_pos hd, List.mem_cons] at h
      rcases h with rfl | h
      · exact fun c hc => absurd hc List.not_mem_nil
      · exact ih h
    · rw [if_neg hd, List.modifyHead_cons, List.mem_cons] at h
      rcases h with rfl | h
      · intro c hc
        rcases List.mem_cons.mp hc with rfl | hc
        · exact Bool.eq_false_iff.mpr hd
        · exact ih List.mem_cons_self c hc
      · exact ih (List.mem_cons_of_mem _ h)

/-- A word has no blank in it. -/
theorem isBlank_of_mem_words {cs word : List Char} (h : word ∈ words cs) :
    ∀ c ∈ word, isBlank c = false :=
  not_of_mem_splitOnP (List.mem_filter.mp h).1

/-! ### Joining -/

/-- The parts that are there and not blank, each trimmed, joined by `sep`; nothing if none is. -/
def joinPresent (sep : String) (parts : List (Option String)) : Option String :=
  match parts.filterMap (·.bind present) with
  | [] => none
  | shown => some (sep.intercalate shown)

end Letterhead.Text
