import Letterhead.Brand.Style
import Letterhead.Proofs.Calendar.Counting
import Letterhead.Proofs.Decimal.Digits
import Letterhead.Proofs.Storage.Containment
import Letterhead.Storage.FileTree
import Letterhead.Storage.Publication

/-!
# Paths that can be stored

The path of a document is made from the date, a mark and the name of its file, which may be any text
at all. What a path cannot hold is replaced in the name, and a name that shows nothing has a
default, so that every path has the same four segments, and a store accepts it.

* `IsYear`, `IsMonth` — years and months in writing;
* `storedName_ne_nil`, `isInSegment_of_mem_storedName` — what becomes of the name of a file;
* `segments_storagePath`, `isStoragePath_storagePath` — the segments of a path, which are accepted;
* `run_publish` — what becomes of publishing under an accepted path;
* `storagePath_always_accepted` — the paths of documents.
-/

namespace Letterhead

open Decimal FilePath

/-! ### Dates in writing -/

/-- A year in writing: digits, four characters or more, after a minus sign if it is negative. -/
structure IsYear (text : List Char) (year : Int) : Prop where
  reads : ∃ ds, (∀ c ∈ ds, c.isDigit = true) ∧
    (text = ds ∧ year = readDigits ds ∨ text = '-' :: ds ∧ year = -(readDigits ds : Int))
  four_le_length : 4 ≤ text.length
  length_eq : 0 ≤ year → year ≤ 9999 → text.length = 4

theorem le_length_padded (width n : Nat) : width ≤ (padded width n).length := by
  unfold padded
  rw [List.length_append, List.length_replicate]
  omega

theorem isYear_storedYear (year : Int) : IsYear (storedYear year) year := by
  unfold storedYear
  split
  case isTrue hneg =>
    refine ⟨⟨padded 3 year.natAbs, fun _ => isDigit_of_mem_padded, Or.inr ⟨rfl, ?_⟩⟩, ?_,
      fun hle _ => absurd hneg (Int.not_lt.mpr hle)⟩
    · rw [readDigits_padded]
      omega
    · have hlength := le_length_padded 3 year.natAbs
      rw [List.length_cons]
      omega
  case isFalse hle =>
    refine ⟨⟨padded 4 year.toNat, fun _ => isDigit_of_mem_padded, Or.inl ⟨rfl, ?_⟩⟩,
      le_length_padded 4 _, fun _ hlast => length_padded (by decide) ?_⟩
    · rw [readDigits_padded]
      omega
    · omega

/-- A month in writing: two digits. -/
structure IsMonth (text : List Char) (month : Nat) : Prop where
  isDigit : ∀ c ∈ text, c.isDigit = true
  length_eq : text.length = 2
  reads : readDigits text = month

theorem isMonth_padded {d : Date} (h : d.isValid = true) : IsMonth (padded 2 d.month) d.month where
  isDigit _ := isDigit_of_mem_padded
  length_eq := length_padded (by decide) (by have hmonth := Date.month_of_isValid h; omega)
  reads := readDigits_padded 2 d.month

/-! ### Names -/

/-- A character that may stand in a path: no backslash and no control character. -/
def IsInPath (c : Char) : Prop :=
  c ≠ '\\' ∧ Text.isControl c = false

/-- A character that may stand in a segment: one that does not end it, either. -/
def IsInSegment (c : Char) : Prop :=
  IsInPath c ∧ c ≠ '/'

instance : DecidablePred IsInSegment := fun c =>
  inferInstanceAs (Decidable ((c ≠ '\\' ∧ Text.isControl c = false) ∧ c ≠ '/'))

/-- Whether that is so of every character is computed one by one. -/
theorem isInSegment_of_all {cs : List Char} (h : cs.all (fun c => decide (IsInSegment c)) = true)
    {c : Char} (hc : c ∈ cs) : IsInSegment c :=
  of_decide_eq_true (List.all_eq_true.mp h c hc)

theorem isInSegment_of_isHexDigit {c : Char} (h : isHexDigit c = true) : IsInSegment c := by
  have hrange : 48 ≤ c.toNat ∧ c.toNat ≤ 57 ∨ 97 ≤ c.toNat ∧ c.toNat ≤ 102 ∨
      65 ≤ c.toNat ∧ c.toNat ≤ 70 := by
    unfold isHexDigit at h
    simp only [Bool.or_eq_true, Bool.and_eq_true, decide_eq_true_eq, Char.le_def,
      UInt32.le_iff_toNat_le, or_assoc] at h
    exact h.imp_left Char.isDigit_iff_toNat.mp
  have hbackslash : '\\'.toNat = 92 := rfl
  have hstroke : '/'.toNat = 47 := rfl
  refine ⟨⟨?_, ?_⟩, ?_⟩
  · rintro rfl
    omega
  · unfold Text.isControl
    simp only [Bool.or_eq_false_iff, Bool.and_eq_false_iff, decide_eq_false_iff_not]
    omega
  · rintro rfl
    omega

theorem isInSegment_of_isDigit {c : Char} (h : c.isDigit = true) : IsInSegment c := by
  refine isInSegment_of_isHexDigit ?_
  unfold isHexDigit
  rw [h, Bool.true_or, Bool.true_or]

theorem isInSegment_hyphen : IsInSegment '-' :=
  ⟨⟨by decide, by decide⟩, by decide⟩

/-- What a file's name may hold is replaced where a path cannot hold it. -/
theorem isInSegment_storedChar (c : Char) : IsInSegment (storedChar c) := by
  unfold storedChar
  split
  case isTrue => exact ⟨⟨by decide, by decide⟩, by decide⟩
  case isFalse h =>
    simp only [Bool.or_eq_true, decide_eq_true_eq, not_or, Bool.not_eq_true] at h
    exact ⟨⟨h.1.2, h.2⟩, h.1.1⟩

theorem storedName_ne_nil (fileName : String) : storedName fileName ≠ [] := by
  unfold storedName
  split
  · decide
  · next hne => exact hne

theorem isInSegment_of_mem_storedName {fileName : String} {c : Char}
    (h : c ∈ storedName fileName) : IsInSegment c := by
  unfold storedName at h
  split at h
  · exact isInSegment_of_all (by decide) h
  · obtain ⟨d, -, rfl⟩ := List.mem_map.mp h
    exact isInSegment_storedChar d

/-! ### Paths of documents -/

/-- What a mark may be made of: hexadecimal digits and hyphens. -/
def IsStampMark (mark : String) : Prop :=
  ∀ c ∈ mark.toList, isHexDigit c = true ∨ c = '-'

/-- The segments of the path of a document. -/
def storedSegments (date : Date) (mark fileName : String) : List Segment :=
  ["documenti".toList, storedYear date.year, padded 2 date.month,
    mark.toList ++ '-' :: storedName fileName]

theorem storagePath_eq (date : Date) (mark fileName : String) :
    storagePath (.ofDate date mark) fileName = ofSegments (storedSegments date mark fileName) := by
  unfold storagePath storedSegments ofSegments
  simp only [List.intercalate_cons_cons, List.intercalate_singleton, List.append_assoc,
    List.cons_append, List.nil_append]
  rfl

section Path

variable {date : Date} {mark : String} (fileName : String)

theorem isInSegment_of_mem_storedYear {year : Int} {c : Char} (h : c ∈ storedYear year) :
    IsInSegment c := by
  obtain ⟨ds, hds, htext⟩ := (isYear_storedYear year).reads
  rcases htext with ⟨heq, -⟩ | ⟨heq, -⟩
  · exact isInSegment_of_isDigit (hds c (heq ▸ h))
  · rw [heq, List.mem_cons] at h
    rcases h with rfl | h
    · exact isInSegment_hyphen
    · exact isInSegment_of_isDigit (hds c h)

theorem isInSegment_of_mem_mark (h : IsStampMark mark) {c : Char} (hc : c ∈ mark.toList) :
    IsInSegment c := by
  rcases h c hc with hdigit | rfl
  · exact isInSegment_of_isHexDigit hdigit
  · exact isInSegment_hyphen

/-- Nothing in the segments ends one of them or cannot stand in a path. -/
theorem isInSegment_of_mem_storedSegments (hmark : IsStampMark mark) {s : Segment}
    (hs : s ∈ storedSegments date mark fileName) {c : Char} (hc : c ∈ s) : IsInSegment c := by
  unfold storedSegments at hs
  simp only [List.mem_cons, List.not_mem_nil, or_false] at hs
  rcases hs with rfl | rfl | rfl | rfl
  · exact isInSegment_of_all (by decide) hc
  · exact isInSegment_of_mem_storedYear hc
  · exact isInSegment_of_isDigit (isDigit_of_mem_padded hc)
  · rw [List.mem_append, List.mem_cons] at hc
    rcases hc with hc | rfl | hc
    · exact isInSegment_of_mem_mark hmark hc
    · exact isInSegment_hyphen
    · exact isInSegment_of_mem_storedName hc

/-- **The path of a document has the four segments that it is made of.** -/
theorem segments_storagePath (hmark : IsStampMark mark) :
    segments (storagePath (.ofDate date mark) fileName) = storedSegments date mark fileName := by
  rw [storagePath_eq]
  refine segments_ofSegments (List.cons_ne_nil _ _) fun s hs hstroke => ?_
  exact (isInSegment_of_mem_storedSegments fileName hmark hs hstroke).2 rfl

/-- Digits, of which there are some, are a name. -/
theorem isName_of_isDigit {s : Segment} (hne : s ≠ []) (h : ∀ c ∈ s, c.isDigit = true) :
    IsName s := by
  obtain ⟨c, hc⟩ := List.exists_mem_of_ne_nil s hne
  have hstroke : '/' ∉ s := fun hmem => absurd (h _ hmem) (by decide)
  exact isName_of_mem hstroke hc (ne_of_isDigit (h c hc) rfl)

/-- Each of the four segments is a name. -/
theorem isName_of_mem_storedSegments (hmark : IsStampMark mark) {s : Segment}
    (hs : s ∈ storedSegments date mark fileName) : IsName s := by
  have hstroke : '/' ∉ s := fun hmem =>
    (isInSegment_of_mem_storedSegments fileName hmark hs hmem).2 rfl
  unfold storedSegments at hs
  simp only [List.mem_cons, List.not_mem_nil, or_false] at hs
  rcases hs with rfl | rfl | rfl | rfl
  · exact isName_of_mem hstroke List.mem_cons_self (by decide)
  · -- the last character of a year is a digit
    have hyear := isYear_storedYear date.year
    obtain ⟨ds, hds, htext⟩ := hyear.reads
    have hlength := hyear.four_le_length
    have hne : ds ≠ [] := by
      rintro rfl
      rcases htext with ⟨heq, -⟩ | ⟨heq, -⟩
      all_goals
        rw [heq] at hlength
        exact absurd hlength (by decide)
    obtain ⟨c, hc⟩ := List.exists_mem_of_ne_nil ds hne
    have hmem : c ∈ storedYear date.year := by
      rcases htext with ⟨heq, -⟩ | ⟨heq, -⟩
      · rwa [heq]
      · rw [heq]
        exact List.mem_cons_of_mem _ hc
    exact isName_of_mem hstroke hmem (ne_of_isDigit (hds c hc) rfl)
  · have hlength := le_length_padded 2 date.month
    refine isName_of_isDigit ?_ fun _ => isDigit_of_mem_padded
    exact List.ne_nil_of_length_pos (by omega)
  · exact isName_of_mem hstroke (List.mem_append_right _ List.mem_cons_self) (by decide)

/-- **A store accepts the path of a document.** -/
theorem isStoragePath_storagePath (hmark : IsStampMark mark) :
    isStoragePath (storagePath (.ofDate date mark) fileName) = true := by
  rw [isStoragePath_iff, segments_storagePath fileName hmark]
  intro s hs
  exact isName_of_mem_storedSegments fileName hmark hs

/-- What stands in a path of segments separates them or stands in one of them. -/
theorem mem_ofSegments {ss : List Segment} {c : Char} (h : c ∈ ofSegments ss) :
    c = '/' ∨ ∃ s ∈ ss, c ∈ s := by
  unfold ofSegments at h
  induction ss with
  | nil => exact absurd h List.not_mem_nil
  | cons first rest ih =>
    cases rest with
    | nil =>
      rw [List.intercalate_singleton] at h
      exact Or.inr ⟨first, List.mem_cons_self, h⟩
    | cons second rest =>
      rw [List.intercalate_cons_cons, List.append_assoc, List.mem_append, List.mem_append,
        List.mem_singleton] at h
      rcases h with hfirst | hstroke | hrest
      · exact Or.inr ⟨first, List.mem_cons_self, hfirst⟩
      · exact Or.inl hstroke
      · exact (ih hrest).imp_right fun ⟨s, hs, hc⟩ => ⟨s, List.mem_cons_of_mem _ hs, hc⟩

/-- Nothing in the path of a document but what may stand in it. -/
theorem isInPath_of_mem_storagePath (hmark : IsStampMark mark) {c : Char}
    (hc : c ∈ storagePath (.ofDate date mark) fileName) : IsInPath c := by
  rw [storagePath_eq] at hc
  rcases mem_ofSegments hc with rfl | ⟨s, hs, hmem⟩
  · exact ⟨by decide, by decide⟩
  · exact (isInSegment_of_mem_storedSegments fileName hmark hs hmem).1

end Path

/-! ### Publishing -/

section Publishing

variable {σ : Type} (files : Files (StateM σ)) (root text : String) (before : σ)

/-- A store answers for an accepted path that the document is there, or that its files refused. -/
theorem answer_of_accepted {path : String} (h : isStoragePath path.toList = true) :
    ∃ answer after, (directoryStore files root path text).run before = (answer, after) ∧
      ((∃ url, answer = .ok { path, url }) ∨ ∃ place e, answer = .error (.refused place e)) := by
  obtain ⟨answer, asked, after, hattempt⟩ := exists_attempt files path text before
    (String.ofList (parent (joined root.toList path.toList)))
    (String.ofList (joined root.toList path.toList))
  refine ⟨answer, after, (storesTo_of_attempt h rfl rfl hattempt).run_eq, ?_⟩
  cases hattempt with
  | noDirectory => exact Or.inr ⟨_, _, rfl⟩
  | noFile => exact Or.inr ⟨_, _, rfl⟩
  | stored => exact Or.inl ⟨_, rfl⟩

/-- What is laid out is published, stored under its path unless the files refused it. -/
theorem run_publish {text : String} {typesetter : Typesetter} {stamp : Stamp} {d : Document}
    (fileName : String) (haccepted : isStoragePath (storagePath stamp fileName) = true)
    (htext : typesetter.layOut d = .ok text) :
    ∃ upload after,
      (publish (pure stamp) typesetter (some (directoryStore files root)) fileName d).run before =
        (.ok { fileName, text, upload }, after) ∧
      ((∃ url, upload = .stored { path := String.ofList (storagePath stamp fileName), url }) ∨
        ∃ place e, upload = .failed (.refused place e)) := by
  have hpath : isStoragePath (String.ofList (storagePath stamp fileName)).toList = true := by
    rwa [String.toList_ofList]
  obtain ⟨answer, after, hanswer, hkind⟩ := answer_of_accepted files root text before hpath
  unfold publish upload
  simp only [htext, pure_bind]
  rw [run_bind, run_bind, hanswer]
  rcases hkind with ⟨url, rfl⟩ | ⟨place, e, rfl⟩
  · exact ⟨_, after, rfl, Or.inl ⟨url, rfl⟩⟩
  · exact ⟨_, after, rfl, Or.inr ⟨place, e, rfl⟩⟩

end Publishing

/-- **The path of a document can be stored under.** On any date and with any mark, the path made from
any file name has four segments: the first is always the same, then come the year and the month, and
at last the mark and a name that is not empty. Nothing in it is a backslash or a control character, a
store accepts it, and what is laid out is published under it unless the store's files refuse. -/
theorem storagePath_always_accepted {date : Date} {mark : String} (hdate : date.isValid = true)
    (hmark : IsStampMark mark) (fileName : String) :
    (∃ year month name,
      segments (storagePath (.ofDate date mark) fileName) =
        ["documenti".toList, year, month, mark.toList ++ '-' :: name] ∧
      IsYear year date.year ∧ IsMonth month date.month ∧ name ≠ []) ∧
    (∀ c ∈ storagePath (.ofDate date mark) fileName, c ≠ '\\' ∧ Text.isControl c = false) ∧
    isStoragePath (storagePath (.ofDate date mark) fileName) = true ∧
    ∀ {σ : Type} (files : Files (StateM σ)) (root : String) (typesetter : Typesetter)
      (d : Document) (text : String) (before : σ), typesetter.layOut d = .ok text →
        ∃ upload after,
          (publish (pure (.ofDate date mark)) typesetter (some (directoryStore files root))
            fileName d).run before = (.ok { fileName, text, upload }, after) ∧
          ((∃ url, upload =
              .stored { path := String.ofList (storagePath (.ofDate date mark) fileName), url }) ∨
            ∃ place e, upload = .failed (.refused place e)) := by
  have haccepted : isStoragePath (storagePath (.ofDate date mark) fileName) = true :=
    isStoragePath_storagePath fileName hmark
  refine ⟨⟨storedYear date.year, padded 2 date.month, storedName fileName,
    segments_storagePath fileName hmark, isYear_storedYear date.year, isMonth_padded hdate,
    storedName_ne_nil fileName⟩, ?_, haccepted, ?_⟩
  · intro c hc
    exact isInPath_of_mem_storagePath fileName hmark hc
  · intro σ files root typesetter d text before htext
    exact run_publish files root before fileName haccepted htext

/-- A name that would climb is stored as one segment, and its document is published. -/
theorem storagePath_climbing_name :
    (⟨2026, 12, 1⟩ : Date).isValid = true ∧ IsStampMark "0f-a1" ∧
      storagePath (.ofDate ⟨2026, 12, 1⟩ "0f-a1") "../etc/passwd" =
        "documenti/2026/12/0f-a1-.._etc_passwd".toList ∧
      isStoragePath (storagePath (.ofDate ⟨2026, 12, 1⟩ "0f-a1") "../etc/passwd") = true ∧
      ∀ d : Document, ∃ upload after,
        (publish (pure (.ofDate ⟨2026, 12, 1⟩ "0f-a1")) .json
            (some (directoryStore (FileTree.files []) "store")) "../etc/passwd" d).run {} =
          (.ok { fileName := "../etc/passwd", text := d.compact, upload }, after) := by
  have hdate : (⟨2026, 12, 1⟩ : Date).isValid = true := by decide
  have hmark : IsStampMark "0f-a1" := by
    have hall : ("0f-a1".toList.all fun c => isHexDigit c || c == '-') = true := by decide
    intro c hc
    have hchar := List.all_eq_true.mp hall c hc
    rwa [Bool.or_eq_true, beq_iff_eq] at hchar
  refine ⟨hdate, hmark, by decide, ?_, fun d => ?_⟩
  · exact (storagePath_always_accepted hdate hmark "../etc/passwd").2.2.1
  · obtain ⟨upload, after, hrun, -⟩ := (storagePath_always_accepted hdate hmark
      "../etc/passwd").2.2.2 (FileTree.files []) "store" .json d d.compact {} rfl
    exact ⟨upload, after, hrun⟩

end Letterhead
