import Letterhead.Proofs.Storage.Paths
import Letterhead.Storage.Store

/-!
# A store stays below its directory

The files of a store are watched: what they are asked is recorded, whatever they answer. A path with
a segment that is no name is refused before the files are asked for anything. Any other path is put
after the path of the store's directory and leads to a place below it, and nothing is asked for but
the directory of that place and a file there.

* `FileRequest`, `Files.recorded` — what files are asked, and files with a record of it;
* `isStoragePath_iff` — the paths that a store accepts;
* `StoresTo`, `Attempt` — how storing goes, and what can become of a path that is accepted;
* `directoryStore_stays_below` — the two ways that storing goes.
-/

namespace Letterhead

open FilePath

/-! ### Files that are watched -/

/-- What a place that keeps files is asked for. -/
inductive FileRequest where
  | read (path : String)
  | write (path text : String)
  | makeDirectories (path : String)

/-- The same files with a record of what they are asked for, in order. -/
def Files.recorded {m : Type → Type} [Monad m] (files : Files m) :
    Files (StateT (List FileRequest) m) where
  read path := do
    modify (· ++ [.read path])
    files.read path
  write path text := do
    modify (· ++ [.write path text])
    files.write path text
  makeDirectories path := do
    modify (· ++ [.makeDirectories path])
    files.makeDirectories path

section Runs

variable {ρ σ α β : Type} (files : Files (StateM σ)) (asked : List FileRequest) (s : σ)

theorem run_bind (x : StateM σ α) (f : α → StateM σ β) :
    (x >>= f).run s = (f (x.run s).1).run (x.run s).2 :=
  rfl

/-- A record and the state of the files go on from one step of a program to the next. -/
theorem run_run_bind (record : ρ) (x : StateT ρ (StateM σ) α) (f : α → StateT ρ (StateM σ) β) :
    ((x >>= f).run record).run s =
      ((f ((x.run record).run s).1.1).run ((x.run record).run s).1.2).run
        ((x.run record).run s).2 :=
  rfl

theorem Files.run_recorded_makeDirectories (path : String) :
    ((files.recorded.makeDirectories path).run asked).run s =
      ((((files.makeDirectories path).run s).1, asked ++ [.makeDirectories path]),
        ((files.makeDirectories path).run s).2) :=
  rfl

theorem Files.run_recorded_write (path text : String) :
    ((files.recorded.write path text).run asked).run s =
      ((((files.write path text).run s).1, asked ++ [.write path text]),
        ((files.write path text).run s).2) :=
  rfl

end Runs

variable {σ : Type}

/-- Whether a store answers so, having asked for so much, and leaves the files in the state `after`.
The record of what is asked makes no difference to the answer. -/
structure StoresTo (files : Files (StateM σ)) (root path text : String) (before : σ)
    (answer : Except UploadError StoredFile) (asked : List FileRequest) (after : σ) : Prop where
  run_eq : (directoryStore files root path text).run before = (answer, after)
  recorded_eq : ((directoryStore files.recorded root path text).run []).run before =
    ((answer, asked), after)

/-! ### Paths that are accepted -/

/-- A store accepts the paths whose segments are names. -/
theorem isStoragePath_iff {path : List Char} :
    isStoragePath path = true ↔ ∀ s ∈ segments path, IsName s := by
  unfold isStoragePath
  rw [List.all_eq_true]
  constructor
  · intro h s hs
    have hs' := h s hs
    rw [Bool.not_eq_true', Bool.or_eq_false_iff] at hs'
    obtain ⟨hidle, hup⟩ := hs'
    unfold isIdle at hidle
    rw [Bool.or_eq_false_iff, List.isEmpty_eq_false_iff, beq_eq_false_iff_ne] at hidle
    exact ⟨hidle.1, stroke_not_mem_of_mem_segments hs, hidle.2, beq_eq_false_iff_ne.mp hup⟩
  · intro h s hs
    rw [(h s hs).isIdle_eq, (h s hs).isUp_eq]
    rfl

/-- Of any other path, some segment is empty or consists of one dot or two. -/
theorem isStoragePath_eq_false_iff {path : List Char} :
    isStoragePath path = false ↔
      ∃ s ∈ segments path, s = [] ∨ s = ['.'] ∨ s = ['.', '.'] := by
  rw [← Bool.not_eq_true, isStoragePath_iff]
  push Not
  refine exists_congr fun s => and_congr_right fun hs => ?_
  have hstroke := stroke_not_mem_of_mem_segments hs
  constructor
  · intro hno
    by_contra hname
    push Not at hname
    exact hno ⟨hname.1, hstroke, hname.2.1, hname.2.2⟩
  · rintro (rfl | rfl | rfl) hname
    · exact hname.ne_nil rfl
    · exact hname.ne_dot rfl
    · exact hname.ne_dots rfl

/-! ### Storing -/

/-- What can become of a text that is to be stored at `full` in the directory `parent`: the answer,
what the files are asked for, and their state after. It is stored if they do what they are asked
for, and refused for their reason if they do not. -/
inductive Attempt (files : Files (StateM σ)) (parent full path text : String) (before : σ) :
    Except UploadError StoredFile → List FileRequest → σ → Prop
  | noDirectory {e : FileError} {after : σ}
      (hmake : (files.makeDirectories parent).run before = (.error e, after)) :
      Attempt files parent full path text before
        (.error (.refused parent e)) [.makeDirectories parent] after
  | noFile {e : FileError} {made after : σ}
      (hmake : (files.makeDirectories parent).run before = (.ok (), made))
      (hwrite : (files.write full text).run made = (.error e, after)) :
      Attempt files parent full path text before
        (.error (.refused full e)) [.makeDirectories parent, .write full text] after
  | stored {made after : σ}
      (hmake : (files.makeDirectories parent).run before = (.ok (), made))
      (hwrite : (files.write full text).run made = (.ok (), after)) :
      Attempt files parent full path text before
        (.ok { path, url := "file://" ++ full }) [.makeDirectories parent, .write full text] after

/-- What a store does with a path that it accepts. -/
theorem directoryStore_of_accepted {m : Type → Type} [Monad m] (files : Files m)
    {root path text : String} (h : isStoragePath path.toList = true) :
    directoryStore files root path text =
      (do
        match ← files.makeDirectories
            (String.ofList (parent (joined root.toList path.toList))) with
        | .error e =>
          return .error (.refused (String.ofList (parent (joined root.toList path.toList))) e)
        | .ok () =>
          match ← files.write (String.ofList (joined root.toList path.toList)) text with
          | .error e => return .error (.refused (String.ofList (joined root.toList path.toList)) e)
          | .ok () =>
            return .ok
              { path, url := "file://" ++ String.ofList (joined root.toList path.toList) }) := by
  unfold directoryStore
  exact if_pos h

section Runs

variable (files : Files (StateM σ)) (root path text : String) (before : σ)

/-- A path that is not accepted is told, and nothing else happens. -/
theorem storesTo_of_refused (h : isStoragePath path.toList = false) :
    StoresTo files root path text before (.error (.invalidPath path)) [] before := by
  constructor
  all_goals
    unfold directoryStore
    rw [h, if_neg Bool.false_ne_true]
    rfl

/-- Whatever the files answer, it is one of the attempts. -/
theorem exists_attempt (parent full : String) :
    ∃ answer asked after, Attempt files parent full path text before answer asked after := by
  cases hmake : (files.makeDirectories parent).run before with
  | mk answer made =>
    cases answer with
    | error e => exact ⟨_, _, _, .noDirectory hmake⟩
    | ok =>
      cases hwrite : (files.write full text).run made with
      | mk answer after =>
        cases answer with
        | error e => exact ⟨_, _, _, .noFile hmake hwrite⟩
        | ok => exact ⟨_, _, _, .stored hmake hwrite⟩

variable {files root path text before}

/-- A path that is accepted is put after that of the directory, and the attempt is made there. -/
theorem storesTo_of_attempt (h : isStoragePath path.toList = true) {parent full : String}
    (hparent : String.ofList (FilePath.parent (joined root.toList path.toList)) = parent)
    (hfull : String.ofList (joined root.toList path.toList) = full)
    {answer : Except UploadError StoredFile} {asked : List FileRequest} {after : σ}
    (hattempt : Attempt files parent full path text before answer asked after) :
    StoresTo files root path text before answer asked after := by
  -- both runs get the same answers in the same states
  cases hattempt with
  | noDirectory hmake =>
    constructor
    · rw [directoryStore_of_accepted _ h, hparent, run_bind, hmake]
      rfl
    · rw [directoryStore_of_accepted _ h, hparent, run_run_bind,
        Files.run_recorded_makeDirectories, hmake]
      rfl
  | noFile hmake hwrite =>
    constructor
    · rw [directoryStore_of_accepted _ h, hparent, hfull, run_bind, hmake, run_bind,
        hwrite]
      rfl
    · rw [directoryStore_of_accepted _ h, hparent, hfull, run_run_bind,
        Files.run_recorded_makeDirectories, hmake, run_run_bind, Files.run_recorded_write, hwrite]
      rfl
  | stored hmake hwrite =>
    constructor
    · rw [directoryStore_of_accepted _ h, hparent, hfull, run_bind, hmake, run_bind,
        hwrite]
      rfl
    · rw [directoryStore_of_accepted _ h, hparent, hfull, run_run_bind,
        Files.run_recorded_makeDirectories, hmake, run_run_bind, Files.run_recorded_write, hwrite]
      rfl

end Runs

/-- **Containment.** Whatever the files answer, a store refuses the paths with an empty segment or
one of dots, and these before it asks for anything. Any other path is made of names, and all that is
asked for is the directory of a place and a file there: the place is the store's directory with the
names after it, so that it lies below, wherever paths start from. -/
theorem directoryStore_stays_below {σ : Type} (files : Files (StateM σ)) (root path text : String)
    (before : σ) :
    ∃ answer asked after, StoresTo files root path text before answer asked after ∧
      ((∃ segment ∈ segments path.toList, segment = [] ∨ segment = ['.'] ∨ segment = ['.', '.']) ∧
          answer = .error (.invalidPath path) ∧ asked = [] ∧ after = before ∨
        (∀ segment ∈ segments path.toList, IsName segment) ∧ segments path.toList ≠ [] ∧
          ∃ parent full : String,
            GoesOn root.toList (segments path.toList).dropLast parent.toList ∧
            GoesOn root.toList (segments path.toList) full.toList ∧
            (∀ here, placeFrom here full.toList =
              placeFrom here root.toList ++ segments path.toList) ∧
            Attempt files parent full path text before answer asked after) := by
  cases haccepted : isStoragePath path.toList with
  | false =>
    exact ⟨_, _, _, storesTo_of_refused files root path text before haccepted,
      Or.inl ⟨isStoragePath_eq_false_iff.mp haccepted, rfl, rfl, rfl⟩⟩
  | true =>
    have hnames := isStoragePath_iff.mp haccepted
    have hfull := goesOn_joined root.toList hnames
    obtain ⟨answer, asked, after, hattempt⟩ := exists_attempt files path text before
      (String.ofList (parent (joined root.toList path.toList)))
      (String.ofList (joined root.toList path.toList))
    refine ⟨answer, asked, after, storesTo_of_attempt haccepted rfl rfl hattempt,
      Or.inr ⟨hnames, segments_ne_nil _, _, _, ?_, ?_, ?_, hattempt⟩⟩
    · rw [String.toList_ofList]
      exact goesOn_parent_joined root.toList hnames
    · rw [String.toList_ofList]
      exact hfull
    · rw [String.toList_ofList]
      exact hfull.placeFrom_eq

example : isStoragePath "documenti/../../x".toList = false := by decide

end Letterhead
