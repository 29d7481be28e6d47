import Letterhead.Command.Target
import Letterhead.Proofs.Decimal.Digits
import Letterhead.Proofs.Storage.Paths
import Letterhead.Proofs.Text.Utf8

/-!
# Files for several documents

Documents that are written one after the other go to files of their own. The paths differ in the
number before the extension. They lead to files in one directory, that of the file that was named,
and keep its extension if it is a text; where no file was named, the files are in the directory that
the path leads to.

* `segments_withFileName`, `parent_withFileName`, `fileName?_of_segments` — a path with another
  name;
* `splitName_cases` — a name in its parts;
* `numberedName_inj`, `snd_splitName_encode_numberedName` — the number of a name, and its extension;
* `targetDirectory`, `goesOn_indexedPath` — the directory of the files, and the way from there;
* `indexedPath_apart` — documents at different positions go to different places.
-/

namespace Letterhead

open Decimal FilePath

/-! ### Paths with another name -/

section Names

variable {α : Type} [DecidableEq α] [Alphabet α] {path : List α} {name new : Segment α}

/-- The name of a file is the last of the segments that count. -/
theorem settled_of_fileName? (h : fileName? path = some name) :
    ∃ init, settled (segments path) = init ++ [name] ∧ IsName name := by
  unfold fileName? lastName? at h
  split at h
  case h_2 => cases h
  case h_1 s hlast =>
    obtain ⟨init, hinit⟩ := List.getLast?_eq_some_iff.mp hlast
    have hmem : s ∈ segments path :=
      mem_of_mem_settled (hinit ▸ List.mem_append_right _ (List.mem_singleton_self s))
    split at h
    · cases h
    · next hnamed =>
      obtain rfl : s = name := Option.some.inj h
      rw [Bool.or_eq_true, not_or, isIdle, Bool.or_eq_true, not_or, isUp] at hnamed
      simp only [List.isEmpty_iff, beq_iff_eq] at hnamed
      obtain ⟨hup, hempty, hdot⟩ := hnamed
      exact ⟨init, hinit, hempty, stroke_not_mem_of_mem_segments hmem, hdot, hup⟩

/-- A file is named by the segments of its directory and its name. -/
theorem segments_withFileName (h : fileName? path = some name) (hnew : Alphabet.stroke ∉ new) :
    segments (withFileName path new) = directory path ++ [new] := by
  have hdirectory : ∀ s ∈ directory path, Alphabet.stroke ∉ s := fun s hs =>
    stroke_not_mem_of_mem_segments (mem_of_mem_settled (List.dropLast_subset _
      (mem_of_mem_settled hs)))
  rw [withFileName, h]
  refine segments_ofSegments (List.append_ne_nil_of_right_ne_nil _ (List.cons_ne_nil _ _)) ?_
  exact List.forall_mem_append.mpr ⟨hdirectory, List.forall_mem_singleton.mpr hnew⟩

/-- Another name leaves a file in its directory. -/
theorem parent_withFileName (h : fileName? path = some name) (hnew : IsName new) :
    parent (withFileName path new) = parent path := by
  have hdirectory : directory (withFileName path new) = directory path := by
    rw [directory_eq (segments_withFileName h hnew.stroke_not_mem) hnew, directory,
      settled_settled]
  rw [parent_eq, parent_eq, hdirectory]

/-- The last segment of a path is the name of its file, if it is a name. -/
theorem fileName?_of_segments {init : List (Segment α)} (h : segments path = init ++ [name])
    (hname : IsName name) : fileName? path = some name := by
  rw [fileName?, lastName?, h, settled_concat hname.isIdle_eq, List.getLast?_concat]
  dsimp only
  rw [hname.isUp_eq, hname.isIdle_eq, Bool.or_self, if_neg Bool.false_ne_true]

end Names

/-! ### Names in parts -/

section Parts

variable {α : Type} [DecidableEq α] [Alphabet α] {name stem e : Segment α}

/-- A name is cut at its last dot, if something stands before it. -/
theorem splitName_append_dot (hstem : stem ≠ []) (he : Alphabet.dot ∉ e) :
    splitName (stem ++ Alphabet.dot :: e) = (stem, some e) := by
  have hafter : afterLastDot (stem ++ Alphabet.dot :: e) = e := by
    have hall : ∀ c ∈ e.reverse, (c != Alphabet.dot) = true := by
      intro c hc
      rw [bne_iff_ne]
      rintro rfl
      exact he (List.mem_reverse.mp hc)
    rw [afterLastDot, List.reverse_append, List.reverse_cons, List.append_assoc,
      List.takeWhile_append_of_pos hall, List.singleton_append,
      List.takeWhile_cons_of_neg (by rw [bne_self_eq_false]; exact Bool.false_ne_true),
      List.append_nil, List.reverse_reverse]
  have htake : (stem ++ Alphabet.dot :: e).take
      ((stem ++ Alphabet.dot :: e).length - (e.length + 1)) = stem := by
    rw [List.length_append, List.length_cons, Nat.add_sub_cancel, List.take_left]
  unfold splitName
  dsimp only
  rw [hafter, htake, if_neg (by simpa using hstem)]

/-- A name with no dot but perhaps in front is not cut. -/
theorem splitName_of_tail (h : Alphabet.dot ∉ name.tail) : splitName name = (name, none) := by
  have hlength : name.length - ((afterLastDot name).length + 1) = 0 := by
    cases name with
    | nil => exact Nat.zero_sub _
    | cons c cs =>
      -- all that follows the first character follows the last dot
      have hall : ∀ d ∈ cs.reverse, (d != Alphabet.dot) = true := by
        intro d hd
        rw [bne_iff_ne]
        rintro rfl
        exact h (List.mem_reverse.mp hd)
      rw [afterLastDot, List.reverse_cons, List.takeWhile_append_of_pos hall, List.length_reverse,
        List.length_append, List.length_reverse, List.length_cons]
      omega
  unfold splitName
  dsimp only
  rw [hlength, List.take_zero, List.isEmpty_nil, if_pos rfl]

/-- Those are the two kinds of names. -/
theorem splitName_cases (hne : name ≠ []) :
    (Alphabet.dot ∉ name.tail ∧ splitName name = (name, none)) ∨
      ∃ stem e, stem ≠ [] ∧ Alphabet.dot ∉ e ∧ name = stem ++ Alphabet.dot :: e ∧
        splitName name = (stem, some e) := by
  obtain ⟨c, cs, rfl⟩ := List.exists_cons_of_ne_nil hne
  by_cases hdot : Alphabet.dot ∈ cs
  · -- the last dot is the first one from behind
    obtain ⟨e, before, hcs, he⟩ := List.eq_append_cons_of_mem (List.mem_reverse.mpr hdot)
    have hname : c :: cs = (c :: before.reverse) ++ Alphabet.dot :: e.reverse := by
      rw [← List.reverse_reverse cs, hcs, List.reverse_append, List.reverse_cons, List.append_assoc,
        List.singleton_append, List.cons_append]
    have he' : Alphabet.dot ∉ e.reverse := fun hmem => he (List.mem_reverse.mp hmem)
    refine Or.inr ⟨_, _, List.cons_ne_nil _ _, he', hname, ?_⟩
    rw [hname]
    exact splitName_append_dot (List.cons_ne_nil _ _) he'
  · exact Or.inl ⟨hdot, splitName_of_tail hdot⟩

/-- There is no stroke in the parts of a name. -/
theorem stroke_not_mem_splitName (hname : IsName name) :
    Alphabet.stroke ∉ (splitName name).1 ∧
      ∀ e, (splitName name).2 = some e → Alphabet.stroke ∉ e := by
  rcases splitName_cases hname.ne_nil with ⟨-, hsplit⟩ | ⟨stem, e, -, -, htext, hsplit⟩
  · rw [hsplit]
    exact ⟨hname.stroke_not_mem, fun e he => nomatch he⟩
  · have hstroke := hname.stroke_not_mem
    rw [htext, List.mem_append, List.mem_cons, not_or, not_or] at hstroke
    rw [hsplit]
    refine ⟨hstroke.1, fun e' he' => ?_⟩
    rw [← Option.some.inj he']
    exact hstroke.2.2

end Parts

/-! ### Names as texts -/

section Texts

variable {cs : List Char} {bytes : List UInt8}

/-- A stroke is one in bytes and in texts. -/
theorem stroke_not_mem_encode (h : '/' ∉ cs) : Alphabet.stroke ∉ Utf8.encode cs :=
  fun hmem => h (Utf8.of_mem_encode hmem (by decide))

theorem stroke_not_mem_decode (h : Alphabet.stroke ∉ bytes) : '/' ∉ Utf8.decode bytes :=
  fun hmem => h (Utf8.of_mem_decode hmem (by decide))

/-- So is a dot. -/
theorem dot_not_mem_encode (h : '.' ∉ cs) : Alphabet.dot ∉ Utf8.encode cs :=
  fun hmem => h (Utf8.of_mem_encode hmem (by decide))

theorem dot_not_mem_decode (h : Alphabet.dot ∉ bytes) : '.' ∉ Utf8.decode bytes :=
  fun hmem => h (Utf8.of_mem_decode hmem (by decide))

theorem encode_append (cs ds : List Char) :
    Utf8.encode (cs ++ ds) = Utf8.encode cs ++ Utf8.encode ds :=
  List.flatMap_append

theorem encode_dot_cons (cs : List Char) :
    Utf8.encode ('.' :: cs) = Alphabet.dot :: Utf8.encode cs :=
  rfl

theorem decode_dot_cons (bytes : List UInt8) :
    Utf8.decode (Alphabet.dot :: bytes) = '.' :: Utf8.decode bytes :=
  rfl

end Texts

/-! ### Names with numbers -/

section Numbers

variable {stem e : Segment}

theorem not_mem_toDigits {c : Char} (h : c.isDigit = false) (n : Nat) : c ∉ Nat.toDigits 10 n :=
  fun hmem => ne_of_isDigit (isDigit_of_mem_toDigits hmem) h rfl

theorem numberedName_some (stem e : Segment) (n : Nat) :
    numberedName stem n (some e) = (stem ++ '-' :: Nat.toDigits 10 n) ++ '.' :: e := by
  rw [numberedName, List.append_assoc, List.cons_append]

theorem numberedName_none (stem : Segment) (n : Nat) :
    numberedName stem n none = stem ++ '-' :: Nat.toDigits 10 n := by
  rw [numberedName, List.append_nil]

/-- Names with different numbers are different. -/
theorem numberedName_inj {extension : Option Segment} {m n : Nat}
    (h : numberedName stem m extension = numberedName stem n extension) : m = n := by
  have hdigits : Nat.toDigits 10 m = Nat.toDigits 10 n :=
    List.append_cancel_right (List.tail_eq_of_cons_eq (List.append_cancel_left h))
  rw [← readDigits_toDigits m, hdigits, readDigits_toDigits]

/-- Neither the hyphen nor a digit is a sign of paths. -/
theorem not_mem_append_number {c : Char} (hc : c ∉ stem) (hhyphen : c ≠ '-')
    (hdigit : c.isDigit = false) (n : Nat) : c ∉ stem ++ '-' :: Nat.toDigits 10 n := by
  rw [List.mem_append, List.mem_cons, not_or, not_or]
  exact ⟨hc, hhyphen, not_mem_toDigits hdigit n⟩

/-- The extension of a name with a number is the one that was put there. -/
theorem splitName_encode_numberedName_some (he : '.' ∉ e) (n : Nat) :
    (splitName (Utf8.encode (numberedName stem n (some e)))).2 = some (Utf8.encode e) := by
  have hne : Utf8.encode (stem ++ '-' :: Nat.toDigits 10 n) ≠ [] := by
    rw [encode_append]
    exact List.append_ne_nil_of_right_ne_nil _ (List.cons_ne_nil _ _)
  rw [numberedName_some, encode_append, encode_dot_cons,
    splitName_append_dot hne (dot_not_mem_encode he)]

/-- A name that is not cut has no extension with a number after it, either. -/
theorem splitName_encode_numberedName_none {name : Segment UInt8} (hne : name ≠ [])
    (hdot : Alphabet.dot ∉ name.tail) (n : Nat) :
    (splitName (Utf8.encode (numberedName (Utf8.decode name) n none))).2 = none := by
  have htail : Alphabet.dot ∉
      (Utf8.encode (numberedName (Utf8.decode name) n none)).tail := by
    obtain ⟨b, rest, rfl⟩ := List.exists_cons_of_ne_nil hne
    rw [List.tail_cons] at hdot
    have hrest := not_mem_append_number (dot_not_mem_decode hdot) (by decide) rfl n
    rw [numberedName_none]
    by_cases hb : b = Alphabet.dot
    · -- a dot in front stays there
      rw [hb, decode_dot_cons, List.cons_append, encode_dot_cons, List.tail_cons]
      exact dot_not_mem_encode hrest
    · have hname : Alphabet.dot ∉ b :: rest := by
        rw [List.mem_cons, not_or]
        exact ⟨fun h => hb h.symm, hdot⟩
      have hall := not_mem_append_number (dot_not_mem_decode hname) (by decide) rfl n
      exact fun hmem => dot_not_mem_encode hall (List.mem_of_mem_tail hmem)
  rw [splitName_of_tail htail]

/-- A name with a number is a name, if there is no stroke in its parts. -/
theorem isName_encode_numberedName {extension : Option Segment} (hstem : '/' ∉ stem)
    (hextension : ∀ e, extension = some e → '/' ∉ e) (n : Nat) :
    IsName (Utf8.encode (numberedName stem n extension)) := by
  have hhyphen : (0x2D : UInt8) ∈ Utf8.encode (numberedName stem n extension) := by
    unfold numberedName
    rw [encode_append]
    exact List.mem_append_right _ List.mem_cons_self
  refine isName_of_mem (stroke_not_mem_encode ?_) hhyphen (by decide)
  have hbefore := not_mem_append_number hstem (by decide) rfl n
  cases extension with
  | none =>
    rw [numberedName_none]
    exact hbefore
  | some e =>
    rw [numberedName_some, List.mem_append, List.mem_cons, not_or, not_or]
    exact ⟨hbefore, by decide, hextension e rfl⟩

end Numbers

/-! ### Targets -/

/-- The extension of the file that a path names. -/
def extension? (path : SystemPath) : Option (Segment UInt8) :=
  (fileName? path).bind fun name => (splitName name).2

/-- The directory that the files for several documents are in. -/
def targetDirectory (path : SystemPath) : SystemPath :=
  match fileName? path with
  | some _ => parent path
  | none => path

/-- The name of the file for the document at a position. -/
def targetFile (path : SystemPath) (position : Nat) : Segment UInt8 :=
  Utf8.encode (numberedName (targetName path).1 (position + 1) (targetName path).2)

section Targets

variable (path : SystemPath) {count : Nat}

theorem targetName_of_fileName? {path : SystemPath} {name : Segment UInt8}
    (h : fileName? path = some name) :
    targetName path = (Utf8.decode (splitName name).1, (splitName name).2.map Utf8.decode) := by
  rw [targetName, h]

theorem isName_targetFile (position : Nat) : IsName (targetFile path position) := by
  unfold targetFile
  cases hname : fileName? path with
  | none =>
    rw [targetName, hname]
    refine isName_encode_numberedName (by decide) ?_ _
    rintro e ⟨⟩
  | some name =>
    obtain ⟨-, -, hisName⟩ := settled_of_fileName? hname
    obtain ⟨hstem, hextension⟩ := stroke_not_mem_splitName hisName
    rw [targetName_of_fileName? hname]
    refine isName_encode_numberedName (stroke_not_mem_decode hstem) ?_ _
    intro e he
    obtain ⟨bytes, hbytes, rfl⟩ := Option.map_eq_some_iff.mp he
    exact stroke_not_mem_decode (hextension bytes hbytes)

/-- Files for documents at different positions have different names. -/
theorem targetFile_inj {i j : Nat} (h : targetFile path i = targetFile path j) : i = j :=
  Nat.succ_inj.mp (numberedName_inj (Utf8.encode_injective h))

/-- Read and written again, the extension is the same. -/
theorem snd_splitName_targetFile {path : SystemPath} {name : Segment UInt8}
    (h : fileName? path = some name) (position : Nat) :
    (splitName (targetFile path position)).2 =
      (splitName name).2.map fun e => Utf8.encode (Utf8.decode e) := by
  obtain ⟨-, -, hisName⟩ := settled_of_fileName? h
  unfold targetFile
  rw [targetName_of_fileName? h]
  rcases splitName_cases hisName.ne_nil with ⟨hdot, hsplit⟩ | ⟨stem, e, -, he, -, hsplit⟩
  · rw [hsplit]
    exact splitName_encode_numberedName_none hisName.ne_nil hdot _
  · rw [hsplit]
    exact splitName_encode_numberedName_some (dot_not_mem_decode he) _

theorem indexedPath_eq (hcount : 2 ≤ count) (position : Nat) :
    indexedPath path position count = withFileName path (targetFile path position) := by
  unfold indexedPath targetFile
  rw [if_neg (by omega)]

/-- **The files are in one directory.** Each is reached from there by its name. -/
theorem goesOn_indexedPath (hcount : 2 ≤ count) (position : Nat) :
    GoesOn (targetDirectory path) [targetFile path position] (indexedPath path position count) := by
  have hfile := isName_targetFile path position
  rw [indexedPath_eq path hcount]
  unfold targetDirectory
  split
  · next name hname =>
    have hsegments := segments_withFileName hname hfile.stroke_not_mem
    rw [← parent_withFileName hname hfile]
    exact goesOn_parent hsegments hfile
  · next hnone =>
    -- the name is put after the path
    have hsegments : segments (targetFile path position) = [targetFile path position] :=
      List.splitOn_eq_singleton hfile.stroke_not_mem
    have hnames : ∀ s ∈ segments (targetFile path position), IsName s := by
      rw [hsegments]
      exact List.forall_mem_singleton.mpr hfile
    have hjoined := goesOn_joined path hnames
    rw [withFileName, hnone, ← hsegments]
    exact hjoined

/-- Paths for different positions lead to different places, wherever they are read from. -/
theorem placeFrom_indexedPath_ne (hcount : 2 ≤ count) {i j : Nat} (hij : i ≠ j)
    (here : List (Segment UInt8)) :
    placeFrom here (indexedPath path i count) ≠ placeFrom here (indexedPath path j count) := by
  intro h
  rw [(goesOn_indexedPath path hcount i).placeFrom_eq,
    (goesOn_indexedPath path hcount j).placeFrom_eq] at h
  exact hij (targetFile_inj path (List.head_eq_of_cons_eq (List.append_cancel_left h)))

/-- So they are different. -/
theorem indexedPath_ne (hcount : 2 ≤ count) {i j : Nat} (hij : i ≠ j) :
    indexedPath path i count ≠ indexedPath path j count :=
  fun h => placeFrom_indexedPath_ne path hcount hij [] (congrArg (placeFrom []) h)

theorem fileName?_indexedPath {path : SystemPath} {name : Segment UInt8}
    (h : fileName? path = some name) (hcount : 2 ≤ count) (position : Nat) :
    fileName? (indexedPath path position count) = some (targetFile path position) := by
  have hfile := isName_targetFile path position
  rw [indexedPath_eq path hcount]
  exact fileName?_of_segments (segments_withFileName h hfile.stroke_not_mem) hfile

end Targets

/-- **Documents go to different files.** Of several documents, two at different positions go to
different paths, which also lead to different places wherever they are read from. If the path that
was named leads to a file, the documents are in the directory of that file. If it has an extension,
their names have it as it is read as a text, so that it is the same just if it is a text. -/
theorem indexedPath_apart (path : SystemPath) {count : Nat} (hcount : 2 ≤ count) :
    (∀ i j, i ≠ j → indexedPath path i count ≠ indexedPath path j count ∧
      ∀ here,
        placeFrom here (indexedPath path i count) ≠ placeFrom here (indexedPath path j count)) ∧
    ∀ name, fileName? path = some name → ∀ i,
      parent (indexedPath path i count) = parent path ∧
      (fileName? (indexedPath path i count)).isSome = true ∧
      extension? (indexedPath path i count) =
        (extension? path).map (fun e => Utf8.encode (Utf8.decode e)) ∧
      (extension? (indexedPath path i count) = extension? path ↔
        ∀ e, extension? path = some e → Utf8.IsText e) := by
  refine ⟨fun i j hij => ⟨indexedPath_ne path hcount hij,
    placeFrom_indexedPath_ne path hcount hij⟩, fun name hname i => ?_⟩
  have hfile := fileName?_indexedPath hname hcount i
  have hextension : extension? (indexedPath path i count) =
      (extension? path).map (fun e => Utf8.encode (Utf8.decode e)) := by
    rw [extension?, extension?, hfile, hname, Option.bind_some, Option.bind_some,
      snd_splitName_targetFile hname]
  refine ⟨?_, ?_, hextension, ?_⟩
  · rw [indexedPath_eq path hcount, parent_withFileName hname (isName_targetFile path i)]
  · rw [hfile, Option.isSome_some]
  · rw [hextension]
    cases extension? path with
    | none => exact iff_of_true rfl fun e he => nomatch he
    | some e => simp [Utf8.encode_decode_eq_iff]

/-- A file whose name holds several dots and ends in a number already. -/
theorem indexedPath_apart_dotted :
    let path := Utf8.encode "out/./v1.2-1.txt".toList
    2 ≤ 12 ∧ fileName? path = some (Utf8.encode "v1.2-1.txt".toList) ∧
      indexedPath path 0 12 = Utf8.encode "out/v1.2-1-1.txt".toList ∧
      indexedPath path 10 12 = Utf8.encode "out/v1.2-1-11.txt".toList ∧
      indexedPath path 0 12 ≠ indexedPath path 10 12 ∧
      parent (indexedPath path 10 12) = parent path ∧
      extension? (indexedPath path 10 12) = some (Utf8.encode "txt".toList) := by
  intro path
  have hcount : 2 ≤ 12 := by decide
  have hname : fileName? path = some (Utf8.encode "v1.2-1.txt".toList) := by decide
  have hextension : extension? path = some (Utf8.encode "txt".toList) := by decide
  obtain ⟨happart, hbeside⟩ := indexedPath_apart path hcount
  obtain ⟨hparent, -, hread, -⟩ := hbeside _ hname 10
  rw [hextension, Option.map_some, Utf8.decode_encode] at hread
  exact ⟨hcount, hname, by decide, by decide, (happart 0 10 (by decide)).1, hparent, hread⟩

/-- An extension that is no text is not kept: what cannot be read of it is replaced. -/
theorem extension_replaced :
    let path : SystemPath := [0x6F, 0x75, 0x74, 0x2E, 0x74, 0xFF, 0x74]
    2 ≤ 2 ∧ fileName? path = some path ∧ extension? path = some [0x74, 0xFF, 0x74] ∧
      indexedPath path 0 2 =
        [0x6F, 0x75, 0x74, 0x2D, 0x31, 0x2E, 0x74, 0xEF, 0xBF, 0xBD, 0x74] ∧
      extension? (indexedPath path 0 2) = some [0x74, 0xEF, 0xBF, 0xBD, 0x74] ∧
      extension? (indexedPath path 0 2) ≠ extension? path := by
  decide

end Letterhead
