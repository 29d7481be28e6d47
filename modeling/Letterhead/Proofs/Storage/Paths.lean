import Mathlib.Data.List.Basic
import Mathlib.Data.List.DropRight
import Mathlib.Data.List.TakeWhile
import Letterhead.Storage.FilePath
import Letterhead.Text.Blank

/-!
# Where paths lead

A path is read segment by segment. Without looking at any file it says which place it leads to: a
name goes down, two dots go up, and what names nothing stays. A path that goes on from another one
by names alone leads to a place below the other's, since nothing in it goes up and it does not begin
at the root.

* `steps`, `isAbsolute`, `placeFrom` — the segments that count, where a path begins, and the place
  that it leads to;
* `IsName` — the segments that name something below;
* `GoesOn`, `GoesOn.placeFrom_eq` — a path that goes on from another one by names, and its place;
* `goesOn_joined`, `goesOn_parent_joined` — names after a path, and the directory of that.
-/

namespace Letterhead.FilePath

variable {α : Type} [DecidableEq α] [Alphabet α]

/-! ### Segments -/

theorem segments_append_stroke (path other : List α) :
    segments (path ++ Alphabet.stroke :: other) = segments path ++ segments other :=
  List.splitOnP_append_cons path other (beq_self_eq_true _)

theorem segments_ne_nil (path : List α) : segments path ≠ [] :=
  List.splitOn_ne_nil Alphabet.stroke path

theorem stroke_not_mem_of_mem_segments {path : List α} {s : Segment α} (h : s ∈ segments path) :
    Alphabet.stroke ∉ s := by
  intro hmem
  have hne := Text.not_of_mem_splitOnP h Alphabet.stroke hmem
  rw [beq_self_eq_true] at hne
  exact Bool.noConfusion hne

theorem ofSegments_segments (path : List α) : ofSegments (segments path) = path :=
  List.intercalate_splitOn Alphabet.stroke

theorem segments_ofSegments {ss : List (Segment α)} (hne : ss ≠ [])
    (h : ∀ s ∈ ss, Alphabet.stroke ∉ s) : segments (ofSegments ss) = ss :=
  List.splitOn_intercalate Alphabet.stroke h hne

/-- Segments of which the last names something are settled. -/
theorem settled_concat {init : List (Segment α)} {name : Segment α} (h : isIdle name = false) :
    settled (init ++ [name]) = init ++ [name] := by
  cases init with
  | nil => rfl
  | cons first rest =>
    rw [List.cons_append, settled, List.reverse_append, List.reverse_singleton,
      List.singleton_append, List.dropWhile_cons_of_neg (by rw [h]; exact Bool.false_ne_true),
      List.reverse_cons, List.reverse_reverse]

/-! ### Steps -/

/-- The segments of a path that lead somewhere. -/
def steps (path : List α) : List (Segment α) :=
  (segments path).filter (! isIdle ·)

/-- Whether a path begins at the root. -/
def isAbsolute (path : List α) : Bool :=
  path.head? == some Alphabet.stroke

theorem isAbsolute_stroke_cons (rest : List α) : isAbsolute (Alphabet.stroke :: rest) = true :=
  beq_self_eq_true _

/-- The place that a step leads to. -/
def step (place : List (Segment α)) (s : Segment α) : List (Segment α) :=
  if isUp s then place.dropLast else place ++ [s]

/-- The place that a path leads to from `here`, as far as the path itself tells: no file is looked
at. The root is the empty place, and nothing leads above it. -/
def placeFrom (here : List (Segment α)) (path : List α) : List (Segment α) :=
  (steps path).foldl step (if isAbsolute path then [] else here)

theorem steps_append_stroke (path other : List α) :
    steps (path ++ Alphabet.stroke :: other) = steps path ++ steps other := by
  unfold steps
  rw [segments_append_stroke, List.filter_append]

theorem steps_nil : steps ([] : List α) = [] := rfl

theorem steps_ofSegments {ss : List (Segment α)} (h : ∀ s ∈ ss, Alphabet.stroke ∉ s) :
    steps (ofSegments ss) = ss.filter (! isIdle ·) := by
  cases ss with
  | nil => rfl
  | cons s rest =>
    unfold steps
    rw [segments_ofSegments (List.cons_ne_nil s rest) h]

/-- What is dropped from the end of segments leads nowhere. -/
theorem filter_settled (ss : List (Segment α)) :
    (settled ss).filter (! isIdle ·) = ss.filter (! isIdle ·) := by
  cases ss with
  | nil => rfl
  | cons first rest =>
    have hdropped : (rest.reverse.takeWhile isIdle).filter (! isIdle ·) = [] := by
      refine List.filter_eq_nil_iff.mpr fun s hs => ?_
      rw [List.mem_takeWhile_imp hs]
      exact Bool.false_ne_true
    have hrest : (rest.reverse.dropWhile isIdle).reverse.filter (! isIdle ·) =
        rest.filter (! isIdle ·) := by
      have hsplit := List.takeWhile_append_dropWhile (p := isIdle) (l := rest.reverse)
      have hparts := congrArg (List.filter (! isIdle ·)) hsplit
      rw [List.filter_append, hdropped, List.nil_append] at hparts
      rw [List.filter_reverse, hparts, List.filter_reverse, List.reverse_reverse]
    rw [settled, List.filter_cons, List.filter_cons, hrest]

/-! ### Going on by names -/

/-- A segment that names something below the place where it stands. -/
structure IsName (s : Segment α) : Prop where
  ne_nil : s ≠ []
  stroke_not_mem : Alphabet.stroke ∉ s
  ne_dot : s ≠ [Alphabet.dot]
  ne_dots : s ≠ [Alphabet.dot, Alphabet.dot]

theorem IsName.isIdle_eq {s : Segment α} (h : IsName s) : isIdle s = false := by
  unfold isIdle
  rw [Bool.or_eq_false_iff, List.isEmpty_eq_false_iff, beq_eq_false_iff_ne]
  exact ⟨h.ne_nil, h.ne_dot⟩

theorem IsName.isUp_eq {s : Segment α} (h : IsName s) : isUp s = false :=
  beq_eq_false_iff_ne.mpr h.ne_dots

omit [DecidableEq α] in
/-- A segment with a sign that is no dot is a name. -/
theorem isName_of_mem {s : Segment α} (hstroke : Alphabet.stroke ∉ s) {c : α} (hc : c ∈ s)
    (hdot : c ≠ Alphabet.dot) : IsName s where
  ne_nil := List.ne_nil_of_mem hc
  stroke_not_mem := hstroke
  ne_dot := by
    rintro rfl
    exact hdot (List.mem_singleton.mp hc)
  ne_dots := by
    rintro rfl
    simp only [List.mem_cons, List.not_mem_nil, or_false, or_self] at hc
    exact hdot hc

/-- Every step of names counts. -/
theorem filter_of_isName {names : List (Segment α)} (h : ∀ s ∈ names, IsName s) :
    names.filter (! isIdle ·) = names := by
  refine List.filter_eq_self.mpr fun s hs => ?_
  rw [(h s hs).isIdle_eq]
  rfl

/-- A step by name goes down. -/
theorem foldl_step_of_isName {names : List (Segment α)} (h : ∀ s ∈ names, IsName s)
    (place : List (Segment α)) : names.foldl step place = place ++ names := by
  induction names generalizing place with
  | nil => rw [List.foldl_nil, List.append_nil]
  | cons s rest ih =>
    obtain ⟨hs, hrest⟩ := List.forall_mem_cons.mp h
    have hstep : step place s = place ++ [s] := by
      unfold step
      rw [hs.isUp_eq, if_neg Bool.false_ne_true]
    rw [List.foldl_cons, hstep, ih hrest, List.append_assoc, List.singleton_append]

/-- Whether a path begins where another one does, and goes on from its end by names. -/
structure GoesOn (path : List α) (names : List (Segment α)) (other : List α) : Prop where
  isAbsolute_eq : isAbsolute other = isAbsolute path
  steps_eq : steps other = steps path ++ names
  isName : ∀ s ∈ names, IsName s

/-- **What goes on by names leads below.** -/
theorem GoesOn.placeFrom_eq {path other : List α} {names : List (Segment α)}
    (h : GoesOn path names other) (here : List (Segment α)) :
    placeFrom here other = placeFrom here path ++ names := by
  unfold placeFrom
  rw [h.isAbsolute_eq, h.steps_eq, List.foldl_append, foldl_step_of_isName h.isName]

/-- A path whose segments are names does not begin at the root. -/
theorem isAbsolute_of_isName {other : List α} (h : ∀ s ∈ segments other, IsName s) :
    isAbsolute other = false := by
  cases other with
  | nil => rfl
  | cons c rest =>
    refine beq_eq_false_iff_ne.mpr fun hhead => ?_
    obtain rfl : c = Alphabet.stroke := Option.some.inj hhead
    -- the first segment would be empty
    have hsegments : segments (Alphabet.stroke :: rest) = [] :: segments rest :=
      segments_append_stroke [] rest
    exact (h [] (hsegments ▸ List.mem_cons_self)).ne_nil rfl

theorem isAbsolute_append {path : List α} (hne : path ≠ []) (other : List α) :
    isAbsolute (path ++ other) = isAbsolute path := by
  unfold isAbsolute
  rw [List.head?_append_of_ne_nil _ hne]

/-- What is put after a path stands at its end. -/
theorem segments_joined (path : List α) {other : List α} (h : isAbsolute other = false) :
    ∃ before, segments (joined path other) = before ++ segments other ∧
      isAbsolute (joined path other) = isAbsolute path ∧
      before.filter (! isIdle ·) = steps path := by
  have hhead : other.head? ≠ some Alphabet.stroke := beq_eq_false_iff_ne.mp h
  unfold joined
  cases path with
  | nil => exact ⟨[], rfl, h, rfl⟩
  | cons c cs =>
    have hne : c :: cs ≠ [] := List.cons_ne_nil c cs
    have hfirst : ¬ (((c :: cs).isEmpty || other.head? = some Alphabet.stroke) = true) := by
      rw [List.isEmpty_cons, Bool.false_or, decide_eq_true_eq]
      exact hhead
    rw [if_neg hfirst]
    split
    case isTrue hlast =>
      -- the stroke at the end of the path is the one between the two
      obtain ⟨init, hinit⟩ := List.getLast?_eq_some_iff.mp hlast
      refine ⟨segments init, ?_, isAbsolute_append hne other, ?_⟩
      · rw [hinit, List.append_assoc, List.singleton_append, segments_append_stroke]
      · rw [hinit, steps_append_stroke, steps_nil, List.append_nil]
        rfl
    case isFalse =>
      exact ⟨segments (c :: cs), segments_append_stroke _ _, isAbsolute_append hne _, rfl⟩

/-- **A path of names after another one goes on from it.** -/
theorem goesOn_joined (path : List α) {other : List α}
    (h : ∀ s ∈ segments other, IsName s) : GoesOn path (segments other) (joined path other) := by
  obtain ⟨before, hsegments, habsolute, hbefore⟩ := segments_joined path (isAbsolute_of_isName h)
  refine ⟨habsolute, ?_, h⟩
  rw [steps, hsegments, List.filter_append, hbefore, filter_of_isName h]

/-! ### Directories -/

section Directory

variable {path : List α} {init : List (Segment α)} {name : Segment α}

theorem isAbsolute_of_not_mem {s : Segment α} (h : Alphabet.stroke ∉ s) : isAbsolute s = false :=
  beq_eq_false_iff_ne.mpr fun hhead => h (List.mem_of_head? hhead)

/-- Several segments begin at the root if the first of them is empty. -/
theorem isAbsolute_ofSegments {first second : Segment α} {rest : List (Segment α)}
    (h : Alphabet.stroke ∉ first) :
    isAbsolute (ofSegments (first :: second :: rest)) = first.isEmpty := by
  unfold ofSegments
  rw [List.intercalate_cons_cons, List.append_assoc]
  cases first with
  | nil => exact isAbsolute_stroke_cons _
  | cons c cs =>
    rw [isAbsolute_append (List.cons_ne_nil c cs)]
    exact isAbsolute_of_not_mem h

/-- The directory of a file has the segments before its name. -/
theorem directory_eq (h : segments path = init ++ [name]) (hname : IsName name) :
    directory path = settled init := by
  unfold directory
  rw [h, settled_concat hname.isIdle_eq, List.dropLast_concat]

/-- Settled segments are settled already. -/
theorem settled_settled (ss : List (Segment α)) : settled (settled ss) = settled ss := by
  cases ss with
  | nil => rfl
  | cons first rest =>
    rw [settled, settled, List.reverse_reverse, List.dropWhile_idempotent]

theorem parent_eq (path : List α) :
    parent path =
      if directory path = [[]] then [Alphabet.stroke] else ofSegments (directory path) := by
  unfold parent
  split
  · next h => rw [if_pos h]
  · next h => rw [if_neg h]

theorem mem_of_mem_settled {ss : List (Segment α)} {s : Segment α} (h : s ∈ settled ss) :
    s ∈ ss := by
  cases ss with
  | nil => exact h
  | cons first rest =>
    rw [settled, List.mem_cons, List.mem_reverse] at h
    rcases h with rfl | h
    · exact List.mem_cons_self
    · exact List.mem_cons_of_mem _ (List.mem_reverse.mp ((List.dropWhile_suffix isIdle).subset h))

/-- The directory of a file is reached by the steps before its name. -/
theorem steps_parent (h : segments path = init ++ [name]) (hname : IsName name) :
    steps (parent path) = init.filter (! isIdle ·) := by
  have hsegment : ∀ s ∈ settled init, Alphabet.stroke ∉ s := fun s hs =>
    stroke_not_mem_of_mem_segments (h ▸ List.mem_append_left _ (mem_of_mem_settled hs))
  rw [parent_eq, directory_eq h hname, ← filter_settled]
  split
  · next hroot =>
    rw [hroot]
    exact steps_append_stroke [] []
  · exact steps_ofSegments hsegment

/-- It begins where the path begins. -/
theorem isAbsolute_parent (h : segments path = init ++ [name]) (hname : IsName name) :
    isAbsolute (parent path) = isAbsolute path := by
  have hpath : path = ofSegments (init ++ [name]) := by rw [← h, ofSegments_segments]
  rw [parent_eq, directory_eq h hname]
  cases init with
  | nil =>
    rw [List.nil_append, ofSegments, List.intercalate_singleton] at hpath
    rw [hpath, isAbsolute_of_not_mem hname.stroke_not_mem]
    rfl
  | cons first rest =>
    have hmem : first ∈ segments path := by
      rw [h]
      exact List.mem_cons_self
    have hfirst : Alphabet.stroke ∉ first := stroke_not_mem_of_mem_segments hmem
    have habsolute : isAbsolute path = first.isEmpty := by
      rw [hpath]
      cases rest <;> exact isAbsolute_ofSegments hfirst
    rw [habsolute, settled]
    -- the first segment stays, alone or with others
    cases hrest : (rest.reverse.dropWhile isIdle).reverse with
    | cons second others =>
      have hne : first :: second :: others ≠ [[]] := fun heq =>
        absurd (List.tail_eq_of_cons_eq heq) (List.cons_ne_nil _ _)
      rw [if_neg hne, isAbsolute_ofSegments hfirst]
    | nil =>
      cases first with
      | nil => exact isAbsolute_stroke_cons []
      | cons c cs =>
        have hne : [c :: cs] ≠ [[]] := fun heq =>
          absurd (List.head_eq_of_cons_eq heq) (List.cons_ne_nil _ _)
        rw [if_neg hne, ofSegments, List.intercalate_singleton, isAbsolute_of_not_mem hfirst]
        rfl

/-- A file is reached from its directory by its name. -/
theorem goesOn_parent (h : segments path = init ++ [name]) (hname : IsName name) :
    GoesOn (parent path) [name] path := by
  refine ⟨(isAbsolute_parent h hname).symm, ?_, List.forall_mem_singleton.mpr hname⟩
  rw [steps_parent h hname, steps, h, List.filter_append,
    filter_of_isName (List.forall_mem_singleton.mpr hname)]

end Directory

/-- **The directory of what goes on by names goes on by all of them but the last.** -/
theorem goesOn_parent_joined (path : List α) {other : List α}
    (h : ∀ s ∈ segments other, IsName s) :
    GoesOn path (segments other).dropLast (parent (joined path other)) := by
  obtain ⟨before, hsegments, habsolute, hbefore⟩ := segments_joined path (isAbsolute_of_isName h)
  obtain ⟨below, name, hother⟩ :=
    (List.eq_nil_or_concat' (segments other)).resolve_left (segments_ne_nil other)
  rw [hother] at h hsegments
  obtain ⟨hbelow, hname⟩ := List.forall_mem_append.mp h
  have hname : IsName name := hname name (List.mem_singleton_self name)
  rw [← List.append_assoc] at hsegments
  rw [hother, List.dropLast_concat]
  refine ⟨(isAbsolute_parent hsegments hname).trans habsolute, ?_, hbelow⟩
  rw [steps_parent hsegments hname, List.filter_append, hbefore, filter_of_isName hbelow]

end Letterhead.FilePath
