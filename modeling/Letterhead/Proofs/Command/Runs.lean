import Letterhead.Command.Run
import Letterhead.Proofs.Command.Targets
import Letterhead.Proofs.Storage.Containment

/-!
# What a run writes

The host of a run is watched: what its files are asked for is recorded, whatever they answer. All
input is read before anything is written. Each document is then stored, if there is a store, and
written to a file of its own, in order and up to the first failure. Nothing else is written.

* `HostRequest`, `Host.recorded` — what the files of a host are asked for, and a host with a record
  of it;
* `Records` — a computation with a record that does what another one does, with rules for sequences
  and failures;
* `StoreRequest` — what a store may ask for;
* `deliveries`, `Issues` — the files for documents, and what is asked while these are issued;
* `records_issue`, `records_issueAll` — one document, and by induction all of them;
* `run_writes_apart` — the files that a run writes.
-/

namespace Letterhead

open FilePath

/-! ### Hosts that are watched -/

/-- What a run asks of the files of its host. -/
inductive HostRequest where
  | files (request : FileRequest)
  /-- A document written to a file of its own. -/
  | output (path : SystemPath) (text : String)

/-- Computations that keep a record of what they ask. -/
abbrev Watched (σ : Type) := StateT (List HostRequest) (StateM σ)

variable {σ : Type}

/-- The same host with a record of what its files are asked for, in order. -/
def Host.recorded (host : Host (StateM σ)) : Host (Watched σ) where
  read path := do
    modify (· ++ [.files (.read path)])
    host.read path
  write path text := do
    modify (· ++ [.files (.write path text)])
    host.write path text
  makeDirectories path := do
    modify (· ++ [.files (.makeDirectories path)])
    host.makeDirectories path
  writeOutput path text := do
    modify (· ++ [.output path text])
    host.writeOutput path text
  isFont := host.isFont
  print text := host.print text
  notify notice := host.notify notice
  stamp := host.stamp

/-- Whether a computation does what another one does, and what it asks is added to the record and is
as told. -/
def Records {α : Type} (x : Watched σ α) (y : StateM σ α) (Asked : α → List HostRequest → Prop) :
    Prop :=
  ∀ record s, ∃ asked,
    (x.run record).run s = (((y.run s).1, record ++ asked), (y.run s).2) ∧ Asked (y.run s).1 asked

section Rules

variable {α β ε : Type} {P : α → List HostRequest → Prop} {Q : β → List HostRequest → Prop}

theorem Records.pure {a : α} (h : P a []) : Records (σ := σ) (pure a) (pure a) P :=
  fun record _ => ⟨[], by rw [List.append_nil]; rfl, h⟩

theorem Records.imp {x : Watched σ α} {y : StateM σ α} {P' : α → List HostRequest → Prop}
    (h : Records x y P) (himp : ∀ a asked, P a asked → P' a asked) : Records x y P' := by
  intro record s
  obtain ⟨asked, hrun, hasked⟩ := h record s
  exact ⟨asked, hrun, himp _ _ hasked⟩

/-- What is asked first and what is asked then are asked in this order. -/
theorem Records.bind {x : Watched σ α} {y : StateM σ α} {f : α → Watched σ β} {g : α → StateM σ β}
    (h : Records x y P)
    (hthen : ∀ a asked, P a asked → Records (f a) (g a) fun b more => Q b (asked ++ more)) :
    Records (x >>= f) (y >>= g) Q := by
  intro record s
  obtain ⟨asked, hrun, hasked⟩ := h record s
  -- what comes then starts from the record and the state that the first part leaves
  obtain ⟨more, hrun', hmore⟩ := hthen _ _ hasked (record ++ asked) (y.run s).2
  refine ⟨asked ++ more, ?_, hmore⟩
  rw [run_run_bind, hrun, hrun', List.append_assoc]
  rfl

/-- A failure ends a computation: nothing else is asked. -/
theorem Records.bindOk {P : Except ε α → List HostRequest → Prop}
    {Q : Except ε β → List HostRequest → Prop} {x : ExceptT ε (Watched σ) α}
    {y : ExceptT ε (StateM σ) α} {f : α → ExceptT ε (Watched σ) β} {g : α → ExceptT ε (StateM σ) β}
    (h : Records x.run y.run P)
    (hok : ∀ a asked, P (.ok a) asked →
      Records (f a).run (g a).run fun result more => Q result (asked ++ more))
    (herror : ∀ e asked, P (.error e) asked → Q (.error e) asked) :
    Records (x >>= f).run (y >>= g).run Q := by
  rw [ExceptT.run_bind, ExceptT.run_bind]
  refine h.bind fun result asked hasked => ?_
  cases result with
  | ok a => exact hok a asked hasked
  | error e =>
    refine .pure ?_
    rw [List.append_nil]
    exact herror e asked hasked

/-- A computation that cannot fail, before one that can. -/
theorem Records.liftBind {Q : Except ε β → List HostRequest → Prop} {x : Watched σ α}
    {y : StateM σ α} {f : α → ExceptT ε (Watched σ) β} {g : α → ExceptT ε (StateM σ) β}
    (h : Records x y P)
    (hthen : ∀ a asked, P a asked →
      Records (f a).run (g a).run fun result more => Q result (asked ++ more)) :
    Records (liftM x >>= f).run (liftM y >>= g).run Q :=
  Records.bind (f := fun a => (f a).run) (g := fun a => (g a).run) h hthen

theorem records_orFail (fail : ε → Failure) (result : Except ε α) :
    Records (σ := σ) (orFail fail result).run (orFail fail result).run
      fun answer asked => answer = result.mapError fail ∧ asked = [] := by
  cases result with
  | ok a => exact .pure ⟨rfl, rfl⟩
  | error e => exact .pure ⟨rfl, rfl⟩

end Rules

/-! ### What a host is asked -/

section Requests

variable (host : Host (StateM σ))

theorem records_read (path : String) :
    Records (host.recorded.read path) (host.read path)
      fun _ asked => asked = [.files (.read path)] :=
  fun _ _ => ⟨_, rfl, rfl⟩

theorem records_write (path text : String) :
    Records (host.recorded.write path text) (host.write path text)
      fun _ asked => asked = [.files (.write path text)] :=
  fun _ _ => ⟨_, rfl, rfl⟩

theorem records_makeDirectories (path : String) :
    Records (host.recorded.makeDirectories path) (host.makeDirectories path)
      fun _ asked => asked = [.files (.makeDirectories path)] :=
  fun _ _ => ⟨_, rfl, rfl⟩

theorem records_writeOutput (path : SystemPath) (text : String) :
    Records (host.recorded.writeOutput path text) (host.writeOutput path text)
      fun _ asked => asked = [.output path text] :=
  fun _ _ => ⟨_, rfl, rfl⟩

/-- A record is not changed by what is done without files. -/
theorem records_silent {α : Type} (y : StateM σ α) :
    Records (liftM y : Watched σ α) y fun _ asked => asked = [] :=
  fun _ _ => ⟨[], by rw [List.append_nil]; rfl, rfl⟩

theorem records_told (y : StateM σ Unit) :
    Records (liftM (liftM y : Watched σ Unit) : ExceptT Failure (Watched σ) Unit).run
      (liftM y : ExceptT Failure (StateM σ) Unit).run
      fun result asked => result = .ok () ∧ asked = [] :=
  fun _ _ => ⟨[], by rw [List.append_nil]; rfl, rfl, rfl⟩

/-- Several things told one after the other. -/
theorem records_allTold {α : Type} (y : α → StateM σ Unit) (l : List α) :
    Records (l.forM fun a => (liftM (liftM (y a) : Watched σ Unit) :
        ExceptT Failure (Watched σ) Unit)).run
      (l.forM fun a => (liftM (y a) : ExceptT Failure (StateM σ) Unit)).run
      fun result asked => result = .ok () ∧ asked = [] := by
  induction l with
  | nil => exact .pure ⟨rfl, rfl⟩
  | cons a rest ih =>
    refine (records_silent (y a)).liftBind fun _ first hfirst => ih.imp fun result more hmore => ?_
    rw [hfirst, List.nil_append]
    exact hmore

end Requests

/-! ### Reading -/

/-- Whether a file is read. -/
def HostRequest.IsRead (request : HostRequest) : Prop :=
  ∃ path, request = .files (.read path)

/-- Whether a computation with a record only reads. -/
def Reads {α : Type} (x : Watched σ α) (y : StateM σ α) : Prop :=
  Records x y fun _ asked => ∀ r ∈ asked, r.IsRead

section Reading

variable {α β ε : Type}

theorem Reads.pure {a : α} : Reads (σ := σ) (pure a) (pure a) :=
  Records.pure (List.forall_mem_nil _)

theorem Reads.bind {x : Watched σ α} {y : StateM σ α} {f : α → Watched σ β} {g : α → StateM σ β}
    (h : Reads x y) (hthen : ∀ a, Reads (f a) (g a)) : Reads (x >>= f) (y >>= g) :=
  Records.bind h fun a _ hasked => (hthen a).imp fun _ _ hmore =>
    List.forall_mem_append.mpr ⟨hasked, hmore⟩

theorem Reads.bindOk {x : ExceptT ε (Watched σ) α} {y : ExceptT ε (StateM σ) α}
    {f : α → ExceptT ε (Watched σ) β} {g : α → ExceptT ε (StateM σ) β}
    (h : Reads x.run y.run) (hthen : ∀ a, Reads (f a).run (g a).run) :
    Reads (x >>= f).run (y >>= g).run :=
  Records.bindOk h (fun a _ hasked => (hthen a).imp fun _ _ hmore =>
    List.forall_mem_append.mpr ⟨hasked, hmore⟩) fun _ _ hasked => hasked

theorem Reads.liftBind {x : Watched σ α} {y : StateM σ α} {f : α → ExceptT ε (Watched σ) β}
    {g : α → ExceptT ε (StateM σ) β} (h : Reads x y) (hthen : ∀ a, Reads (f a).run (g a).run) :
    Reads (liftM x >>= f).run (liftM y >>= g).run :=
  Reads.bind h hthen

theorem reads_orFail (fail : ε → Failure) (result : Except ε α) :
    Reads (σ := σ) (orFail fail result).run (orFail fail result).run :=
  (records_orFail fail result).imp fun _ _ h => by
    rw [h.2]
    exact List.forall_mem_nil _

variable (host : Host (StateM σ))

theorem reads_read (path : String) : Reads (host.recorded.read path) (host.read path) :=
  (records_read host path).imp fun _ _ hasked => by
    rw [hasked]
    exact List.forall_mem_singleton.mpr ⟨path, rfl⟩

theorem reads_readText (path : String) :
    Reads (host.recorded.readText path) (host.readText path) := by
  refine (reads_read host path).bind fun result => ?_
  cases result with
  | error e => exact .pure
  | ok bytes =>
    dsimp only
    split
    · exact .pure
    · exact .pure

theorem reads_readInput (path : String) :
    Reads (readInput host.recorded path).run (readInput host path).run :=
  (reads_readText host path).liftBind fun _ => reads_orFail _ _

theorem reads_readFont (fonts : FontRegistry) (request : String) :
    Reads (readFont host.recorded fonts request).run (readFont host fonts request).run := by
  unfold readFont
  split
  · exact .pure
  · refine Reads.liftBind ?_ fun _ => reads_orFail _ _
    refine (reads_read host _).bind fun result => ?_
    cases result with
    | error e => exact .pure
    | ok bytes => exact .pure

theorem reads_readFonts (requests : List String) (fonts : FontRegistry) :
    Reads (requests.foldlM (readFont host.recorded) fonts).run
      (requests.foldlM (readFont host) fonts).run := by
  induction requests generalizing fonts with
  | nil => exact .pure
  | cons request rest ih => exact (reads_readFont host fonts request).bindOk ih

theorem reads_readTemplate (path : String) :
    Reads (readTemplate host.recorded path).run (readTemplate host path).run := by
  refine (reads_readInput host path).bindOk fun text => ?_
  split
  · exact .pure
  · exact .pure
  · exact .pure

theorem reads_readContext (path : String) :
    Reads (readContext host.recorded path).run (readContext host path).run :=
  (reads_readInput host path).bindOk fun _ => reads_orFail _ _

theorem reads_readPage (name : Option String) :
    Reads (σ := σ) (readPage name).run (readPage name).run := by
  unfold readPage
  split
  · exact .pure
  · split
    · exact .pure
    · exact .pure

/-- Readings one after the other give as many results. -/
theorem records_mapM {f : α → ExceptT ε (Watched σ) β} {g : α → ExceptT ε (StateM σ) β}
    (h : ∀ a, Reads (f a).run (g a).run) (l : List α) :
    Records (l.mapM f).run (l.mapM g).run fun result asked =>
      (∀ r ∈ asked, r.IsRead) ∧ ∀ bs, result = .ok bs → bs.length = l.length := by
  induction l with
  | nil =>
    rw [List.mapM_nil, List.mapM_nil]
    exact .pure ⟨List.forall_mem_nil _, fun bs hbs => by cases hbs; rfl⟩
  | cons a rest ih =>
    rw [List.mapM_cons, List.mapM_cons]
    refine Records.bindOk (h a) (fun b first hfirst => ?_) fun _ _ hfirst => ⟨hfirst, nofun⟩
    refine Records.bindOk ih (fun bs more hmore => ?_) fun _ _ hmore =>
      ⟨List.forall_mem_append.mpr ⟨hfirst, hmore.1⟩, nofun⟩
    refine .pure ⟨?_, fun all hall => ?_⟩
    · rw [List.append_nil]
      exact List.forall_mem_append.mpr ⟨hfirst, hmore.1⟩
    · cases hall
      rw [List.length_cons, List.length_cons, hmore.2 bs rfl]

/-- How many documents a run is to make. -/
def RenderOptions.documentCount (o : RenderOptions) : Nat :=
  max 1 o.contexts.length

theorem records_readContexts (o : RenderOptions) :
    Records (readContexts host.recorded o.contexts).run (readContexts host o.contexts).run
      fun result asked => (∀ r ∈ asked, r.IsRead) ∧
        ∀ contexts, result = .ok contexts → contexts.length = o.documentCount := by
  unfold readContexts RenderOptions.documentCount
  split
  · next hnil =>
    rw [hnil]
    exact .pure ⟨List.forall_mem_nil _, fun contexts hcontexts => by cases hcontexts; rfl⟩
  · next hne =>
    refine (records_mapM (reads_readContext host) o.contexts).imp fun _ _ h => ⟨h.1, ?_⟩
    intro contexts hcontexts
    rw [h.2 contexts hcontexts, max_eq_right (List.length_pos_of_ne_nil hne)]

end Reading

/-! ### Storing -/

/-- What a store in a directory may ask for: directories and files at paths that go on from its own
by names. -/
inductive StoreRequest (root : String) : HostRequest → Prop
  | directory {names : List Segment} {path : String}
      (h : GoesOn root.toList names path.toList) :
      StoreRequest root (.files (.makeDirectories path))
  | file {names : List Segment} {path text : String} (hne : names ≠ [])
      (h : GoesOn root.toList names path.toList) :
      StoreRequest root (.files (.write path text))

section Storing

variable (host : Host (StateM σ)) (root path text : String)

theorem records_directoryStore :
    Records (directoryStore host.recorded.toFiles root path text)
      (directoryStore host.toFiles root path text)
      fun _ asked => ∀ r ∈ asked, StoreRequest root r := by
  cases haccepted : isStoragePath path.toList with
  | false =>
    unfold directoryStore
    rw [haccepted, if_neg Bool.false_ne_true, if_neg Bool.false_ne_true]
    exact .pure (List.forall_mem_nil _)
  | true =>
    have hnames := isStoragePath_iff.mp haccepted
    rw [directoryStore_of_accepted _ haccepted, directoryStore_of_accepted _ haccepted]
    -- the directory first, and the file only if that could be made
    refine (records_makeDirectories host _).bind fun made first hfirst => ?_
    have hdirectory : ∀ r ∈ first, StoreRequest root r := by
      rw [hfirst, List.forall_mem_singleton]
      refine .directory (?_ : GoesOn _ (segments path.toList).dropLast _)
      rw [String.toList_ofList]
      exact goesOn_parent_joined root.toList hnames
    cases made with
    | error e =>
      refine .pure ?_
      rwa [List.append_nil]
    | ok =>
      refine (records_write host _ _).bind fun written more hmore => ?_
      have hfile : ∀ r ∈ more, StoreRequest root r := by
        rw [hmore, List.forall_mem_singleton]
        refine .file (segments_ne_nil path.toList) (?_ : GoesOn _ (segments path.toList) _)
        rw [String.toList_ofList]
        exact goesOn_joined root.toList hnames
      have hboth : ∀ r ∈ first ++ (more ++ []), StoreRequest root r := by
        rw [List.append_nil]
        exact List.forall_mem_append.mpr ⟨hdirectory, hfile⟩
      cases written with
      | error e => exact .pure hboth
      | ok => exact .pure hboth

/-- What the store of a run may ask for, if it has one. -/
def RenderOptions.Stores (o : RenderOptions) (request : HostRequest) : Prop :=
  ∃ root, o.store = some root ∧ StoreRequest root request

theorem records_upload (o : RenderOptions) (fileName : String) :
    Records
      (upload host.recorded.stamp (o.store.map (directoryStore host.recorded.toFiles)) fileName
        text)
      (upload host.stamp (o.store.map (directoryStore host.toFiles)) fileName text)
      fun _ asked => ∀ r ∈ asked, o.Stores r := by
  cases hstore : o.store with
  | none => exact .pure (List.forall_mem_nil _)
  | some root =>
    refine (records_silent host.stamp).bind fun _ nothing hnothing => ?_
    refine (records_directoryStore host root _ text).bind fun answer asked hasked => ?_
    have hall : ∀ r ∈ nothing ++ (asked ++ []), o.Stores r := by
      rw [hnothing, List.nil_append, List.append_nil]
      exact fun r hr => ⟨root, hstore, hasked r hr⟩
    cases answer with
    | error e => exact .pure hall
    | ok file => exact .pure hall

theorem records_publish (typesetter : Typesetter) (o : RenderOptions) (fileName : String)
    (d : Document) :
    Records
      (publish host.recorded.stamp typesetter (o.store.map (directoryStore host.recorded.toFiles))
        fileName d)
      (publish host.stamp typesetter (o.store.map (directoryStore host.toFiles)) fileName d)
      fun result asked => (∀ r ∈ asked, o.Stores r) ∧
        ∀ published, result = .ok published → typesetter.layOut d = .ok published.text := by
  unfold publish
  cases hlayOut : typesetter.layOut d with
  | error e => exact .pure ⟨List.forall_mem_nil _, nofun⟩
  | ok text =>
    refine (records_upload host text o fileName).bind fun outcome asked hasked => .pure ⟨?_, ?_⟩
    · rwa [List.append_nil]
    · intro published hpublished
      cases hpublished
      rfl

end Storing

/-! ### Issuing documents -/

/-- The files for documents from a position on with their texts, in order and up to the first
document that cannot be laid out. -/
def deliveries (typesetter : Typesetter) (o : RenderOptions) (count : Nat) :
    Nat → List Document → List (SystemPath × String)
  | _, [] => []
  | position, d :: rest =>
    match typesetter.layOut d with
    | .error _ => []
    | .ok text =>
      (o.target? count position).toList.map (·, text) ++
        deliveries typesetter o count (position + 1) rest

/-- The documents among what was asked, with their files, in order. -/
def writtenIn (asked : List HostRequest) : List (SystemPath × String) :=
  asked.filterMap fun
    | .files _ => none
    | .output path text => some (path, text)

/-- What is asked while documents are issued. -/
structure Issues (typesetter : Typesetter) (o : RenderOptions) (count position : Nat)
    (documents : List Document) (result : Except Failure Unit) (asked : List HostRequest) :
    Prop where
  /-- Nothing is asked for but what the store asks for and the files of documents. -/
  only : ∀ r ∈ asked, o.Stores r ∨ ∃ path text, r = .output path text
  /-- Documents are written to their files, in order. -/
  written : writtenIn asked <+: deliveries typesetter o count position documents
  /-- After success, all documents were laid out and written. -/
  all : result = .ok () → writtenIn asked = deliveries typesetter o count position documents ∧
    ∀ d ∈ documents, ∃ text, typesetter.layOut d = .ok text

section Issuing

variable (host : Host (StateM σ)) (typesetter : Typesetter) (o : RenderOptions)
variable {count position : Nat}

@[simp] theorem writtenIn_append (asked more : List HostRequest) :
    writtenIn (asked ++ more) = writtenIn asked ++ writtenIn more :=
  List.filterMap_append

/-- What the store asks for is no document's own file. -/
theorem writtenIn_of_stores {asked : List HostRequest} (h : ∀ r ∈ asked, o.Stores r) :
    writtenIn asked = [] := by
  refine List.filterMap_eq_nil_iff.mpr fun r hr => ?_
  obtain ⟨root, -, hrequest⟩ := h r hr
  cases hrequest with
  | directory _ => rfl
  | file _ _ => rfl

theorem records_deliver (target : Option SystemPath) (text : String) :
    Records (deliver host.recorded target text).run (deliver host target text).run
      fun _ asked => asked = target.toList.map fun path => .output path text := by
  cases target with
  | none => exact (records_told (host.print text)).imp fun _ _ h => h.2
  | some path =>
    refine (records_writeOutput host path text).liftBind fun answer asked hasked => ?_
    refine (records_orFail .output answer).bindOk (fun _ _ hanswer => ?_) fun _ _ hanswer => ?_
    · refine (records_told _).imp fun _ _ htold => ?_
      rw [hasked, hanswer.2, htold.2]
      rfl
    · rw [hasked, hanswer.2]
      rfl

variable {typesetter o}

theorem deliveries_cons {d : Document} {text : String} (h : typesetter.layOut d = .ok text)
    (rest : List Document) :
    deliveries typesetter o count position (d :: rest) =
      (o.target? count position).toList.map (·, text) ++
        deliveries typesetter o count (position + 1) rest := by
  rw [deliveries, h]

/-- A document that was laid out, after what the store asked for. -/
theorem issues_of_laidOut {d : Document} {text : String} {stored : List HostRequest}
    (hlaid : typesetter.layOut d = .ok text) (hstored : ∀ r ∈ stored, o.Stores r)
    (result : Except Failure Unit) :
    Issues typesetter o count position [d] result
      (stored ++ (o.target? count position).toList.map fun path => .output path text) := by
  have hwritten : writtenIn (stored ++ (o.target? count position).toList.map
      fun path => .output path text) = deliveries typesetter o count position [d] := by
    rw [writtenIn_append, writtenIn_of_stores o hstored, deliveries_cons hlaid, deliveries,
      List.nil_append, List.append_nil]
    cases o.target? count position with
    | none => rfl
    | some path => rfl
  refine ⟨List.forall_mem_append.mpr ⟨fun r hr => .inl (hstored r hr), fun r hr => ?_⟩,
    hwritten ▸ List.prefix_rfl, fun _ => ⟨hwritten, List.forall_mem_singleton.mpr ⟨text, hlaid⟩⟩⟩
  obtain ⟨path, -, rfl⟩ := List.mem_map.mp hr
  exact .inr ⟨path, text, rfl⟩

/-- A failure before a document is written. -/
theorem issues_of_failure (d : Document) {stored : List HostRequest}
    (hstored : ∀ r ∈ stored, o.Stores r) (failure : Failure) :
    Issues typesetter o count position [d] (.error failure) stored := by
  refine ⟨fun r hr => .inl (hstored r hr), ?_, nofun⟩
  rw [writtenIn_of_stores o hstored]
  exact List.nil_prefix

/-- **One document.** What the store needs is asked for first, and then the document is written to
its file, if it can be laid out. -/
theorem records_issue (d : Document) :
    Records (issue host.recorded typesetter o count position d).run
      (issue host typesetter o count position d).run
      (Issues typesetter o count position [d]) := by
  refine (records_publish host typesetter o _ d).liftBind fun result stored ⟨hstored, hlaid⟩ => ?_
  refine (records_orFail .layout result).bindOk (fun published _ hresult => ?_)
    fun failure _ hresult => ?_
  · cases result with
    | error e => exact nomatch hresult.1
    | ok made =>
      obtain ⟨hmade, rfl⟩ := hresult
      cases hmade
      refine (records_deliver host _ published.text).bindOk (fun _ asked hasked => ?_)
        fun failure asked hasked => ?_
      · refine (records_allTold _ _).imp fun result told htold => ?_
        rw [hasked, htold.2, List.nil_append, List.append_nil]
        exact issues_of_laidOut (hlaid published rfl) hstored result
      · rw [hasked, List.nil_append]
        exact issues_of_laidOut (hlaid published rfl) hstored _
  · rw [hresult.2, List.append_nil]
    exact issues_of_failure d hstored failure

/-- Documents after another one. -/
theorem Issues.cons {d : Document} {rest : List Document} {result : Except Failure Unit}
    {asked more : List HostRequest} (h : Issues typesetter o count position [d] (.ok ()) asked)
    (hrest : Issues typesetter o count (position + 1) rest result more) :
    Issues typesetter o count position (d :: rest) result (asked ++ more) := by
  obtain ⟨hwritten, hlaid⟩ := h.all rfl
  obtain ⟨text, htext⟩ := List.forall_mem_singleton.mp hlaid
  rw [deliveries_cons htext, deliveries, List.append_nil] at hwritten
  refine ⟨List.forall_mem_append.mpr ⟨h.only, hrest.only⟩, ?_, fun hok => ⟨?_, ?_⟩⟩
  · rw [writtenIn_append, hwritten, deliveries_cons htext]
    exact (List.prefix_append_right_inj _).mpr hrest.written
  · rw [writtenIn_append, hwritten, (hrest.all hok).1, deliveries_cons htext]
  · exact List.forall_mem_cons.mpr ⟨⟨text, htext⟩, (hrest.all hok).2⟩

/-- A failure ends the documents. -/
theorem Issues.stop {d : Document} {failure : Failure} {asked : List HostRequest}
    (h : Issues typesetter o count position [d] (.error failure) asked) (rest : List Document) :
    Issues typesetter o count position (d :: rest) (.error failure) asked := by
  refine ⟨h.only, h.written.trans ?_, nofun⟩
  unfold deliveries
  cases typesetter.layOut d with
  | error e => exact List.nil_prefix
  | ok text => exact (List.prefix_append_right_inj _).mpr List.nil_prefix

/-- **All documents.** They are issued in order, up to the first failure. -/
theorem records_issueAll (documents : List Document) :
    Records (issueAll host.recorded typesetter o count position documents).run
      (issueAll host typesetter o count position documents).run
      (Issues typesetter o count position documents) := by
  -- what was written so far are the files of the documents before, so that the next one goes on
  induction documents generalizing position with
  | nil =>
    exact .pure ⟨List.forall_mem_nil _, List.nil_prefix, fun _ => ⟨rfl, List.forall_mem_nil _⟩⟩
  | cons d rest ih =>
    refine (records_issue host d).bindOk (fun _ asked hasked => ?_) fun failure asked hasked =>
      hasked.stop rest
    exact ih.imp fun result more hmore => hasked.cons hmore

end Issuing

/-! ### Files for documents -/

/-- Whether two paths are different and lead to different places, wherever they are read from. -/
def Apart (p q : SystemPath) : Prop :=
  p ≠ q ∧ ∀ here, placeFrom here p ≠ placeFrom here q

/-- The files that the documents of a run are to go to, in order. -/
def RenderOptions.targets (o : RenderOptions) (count : Nat) : List SystemPath :=
  (List.range count).filterMap (o.target? count)

/-- Each document goes to a file of its own. -/
theorem pairwise_targets (o : RenderOptions) (count : Nat) :
    (o.targets count).Pairwise Apart := by
  unfold RenderOptions.targets
  rw [List.pairwise_filterMap]
  refine List.pairwise_lt_range.imp_of_mem ?_
  intro i j _ hj hij p hp q hq
  -- there are two positions only if there are two documents, and these have numbers
  have hcount : 2 ≤ count := by
    have := List.mem_range.mp hj
    omega
  unfold RenderOptions.target? at hp hq
  cases houtput : o.output with
  | none =>
    rw [houtput] at hp
    cases hp
  | some path =>
    rw [houtput] at hp hq
    cases hp
    cases hq
    exact ⟨indexedPath_ne _ hcount hij.ne, placeFrom_indexedPath_ne _ hcount hij.ne⟩

section Files

variable (typesetter : Typesetter) (o : RenderOptions) (count : Nat)

/-- The documents that are issued have the files from their position on, one after the other. -/
theorem map_deliveries (position : Nat) (documents : List Document) :
    (deliveries typesetter o count position documents).map Prod.fst =
      (List.range' position
        (documents.takeWhile fun d => (typesetter.layOut d).isOk).length).filterMap
          (o.target? count) := by
  induction documents generalizing position with
  | nil => rfl
  | cons d rest ih =>
    rw [List.takeWhile_cons]
    cases hlaid : typesetter.layOut d with
    | error e =>
      rw [deliveries, hlaid]
      rfl
    | ok text =>
      rw [deliveries_cons hlaid, List.map_append, ih, Except.isOk, Except.toBool, if_pos rfl,
        List.length_cons, List.range'_succ, List.filterMap_cons]
      cases o.target? count position with
      | none => rfl
      | some path => rfl

/-- They are the first of those that are meant for documents. -/
theorem map_deliveries_prefix (documents : List Document) :
    (deliveries typesetter o count 0 documents).map Prod.fst <+:
      (List.range documents.length).filterMap (o.target? count) := by
  have hfirst : documents.takeWhile (fun d => (typesetter.layOut d).isOk) <+: documents :=
    List.takeWhile_prefix _
  obtain ⟨more, hmore⟩ := Nat.exists_eq_add_of_le hfirst.length_le
  rw [map_deliveries, hmore, List.range_eq_range', ← List.range'_append_1, List.filterMap_append]
  exact List.prefix_append _ _

variable {typesetter o count}

/-- If all documents can be laid out, they are all of these. -/
theorem map_deliveries_of_laidOut {documents : List Document}
    (h : ∀ d ∈ documents, ∃ text, typesetter.layOut d = .ok text) :
    (deliveries typesetter o count 0 documents).map Prod.fst =
      (List.range documents.length).filterMap (o.target? count) := by
  have hall : documents.takeWhile (fun d => (typesetter.layOut d).isOk) = documents := by
    refine List.takeWhile_eq_self_iff.mpr fun d hd => ?_
    obtain ⟨text, htext⟩ := h d hd
    rw [htext]
    rfl
  rw [map_deliveries, hall, List.range_eq_range']

end Files

/-! ### Runs -/

/-- What is asked while the documents of a run are rendered: the input is read, and if that succeeds
the documents are issued. -/
inductive Renders (o : RenderOptions) : Except Failure Unit → List HostRequest → Prop
  | failed {failure : Failure} {inputs : List HostRequest} (hinputs : ∀ r ∈ inputs, r.IsRead) :
      Renders o (.error failure) inputs
  | issued {result : Except Failure Unit} {inputs asked : List HostRequest} {page : PageSize}
      {fonts : FontRegistry} {t : Template} {contexts : List Context}
      (hinputs : ∀ r ∈ inputs, r.IsRead) (hcount : contexts.length = o.documentCount)
      (hasked : Issues ((o.format.getD .text).typesetter page) o o.documentCount 0
        (t.renderAll fonts contexts (!o.withoutMargins)) result asked) :
      Renders o result (inputs ++ asked)

section Runs

variable {α : Type} {o : RenderOptions}

theorem Renders.afterReading {result : Except Failure Unit} {first asked : List HostRequest}
    (hfirst : ∀ r ∈ first, r.IsRead) (h : Renders o result asked) :
    Renders o result (first ++ asked) := by
  cases h with
  | failed hinputs => exact .failed (List.forall_mem_append.mpr ⟨hfirst, hinputs⟩)
  | issued hinputs hcount hasked =>
    rw [← List.append_assoc]
    exact .issued (List.forall_mem_append.mpr ⟨hfirst, hinputs⟩) hcount hasked

/-- Input is read before the documents are rendered. -/
theorem records_afterReading {x : ExceptT Failure (Watched σ) α} {y : ExceptT Failure (StateM σ) α}
    {f : α → ExceptT Failure (Watched σ) Unit} {g : α → ExceptT Failure (StateM σ) Unit}
    (h : Reads x.run y.run) (hthen : ∀ a, Records (f a).run (g a).run (Renders o)) :
    Records (x >>= f).run (y >>= g).run (Renders o) :=
  Records.bindOk h (fun a _ hfirst => (hthen a).imp fun _ _ hrest => hrest.afterReading hfirst)
    fun _ _ hfirst => .failed hfirst

variable (host : Host (StateM σ))

theorem length_renderAll (fonts : FontRegistry) (t : Template) (contexts : List Context)
    (margins : Bool) : (t.renderAll fonts contexts margins).length = contexts.length :=
  List.length_map _

theorem records_performRender (path : String) (o : RenderOptions) :
    Records (performRender host.recorded path o).run (performRender host path o).run
      (Renders o) := by
  refine records_afterReading (reads_readPage o.page) fun page => ?_
  refine records_afterReading (reads_readFonts host o.fonts {}) fun fonts => ?_
  refine records_afterReading (reads_readTemplate host path) fun t => ?_
  -- only now is it known how many documents there are
  refine (records_readContexts host o).bindOk (fun contexts inputs hinputs => ?_)
    fun failure inputs hinputs => .failed hinputs.1
  have hcount := hinputs.2 contexts rfl
  dsimp only
  rw [length_renderAll, hcount]
  exact (records_issueAll host _).imp fun _ _ hasked => .issued hinputs.1 hcount hasked

/-- What is written in a run with these options. -/
structure Writes (o : RenderOptions) (succeeded : Prop) (issued : List HostRequest) : Prop where
  /-- Nothing is asked for but what the store asks for and the files of documents. -/
  only : ∀ r ∈ issued, o.Stores r ∨ ∃ path text, r = .output path text
  /-- Documents are written to their files, in order. -/
  targets : (writtenIn issued).map Prod.fst <+: o.targets o.documentCount
  /-- After success, all are written. -/
  all : succeeded → (writtenIn issued).map Prod.fst = o.targets o.documentCount

theorem Writes.pairwise_apart {succeeded : Prop} {issued : List HostRequest}
    (h : Writes o succeeded issued) : ((writtenIn issued).map Prod.fst).Pairwise Apart :=
  (pairwise_targets o o.documentCount).sublist h.targets.sublist

/-- All input is read before anything is written. -/
theorem Renders.exists_writes {result : Except Failure Unit} {asked : List HostRequest}
    (h : Renders o result asked) :
    ∃ inputs issued, asked = inputs ++ issued ∧ (∀ r ∈ inputs, r.IsRead) ∧
      Writes o (result = .ok ()) issued := by
  cases h with
  | failed hinputs =>
    exact ⟨asked, [], (List.append_nil _).symm, hinputs, List.forall_mem_nil _, List.nil_prefix,
      nofun⟩
  | @issued _ inputs issued page fonts t contexts hinputs hcount hissued =>
    refine ⟨_, _, rfl, hinputs, hissued.only, ?_, fun hok => ?_⟩
    · have hfirst := map_deliveries_prefix ((o.format.getD .text).typesetter page) o
        o.documentCount (t.renderAll fonts contexts (!o.withoutMargins))
      rw [length_renderAll, hcount] at hfirst
      exact (hissued.written.map Prod.fst).trans hfirst
    · obtain ⟨hwritten, hlaid⟩ := hissued.all hok
      rw [hwritten, map_deliveries_of_laidOut hlaid, length_renderAll, hcount]
      rfl

theorem writtenIn_of_isRead {asked : List HostRequest} (h : ∀ r ∈ asked, r.IsRead) :
    writtenIn asked = [] := by
  refine List.filterMap_eq_nil_iff.mpr fun r hr => ?_
  obtain ⟨path, rfl⟩ := h r hr
  rfl

/-- What is asked in the run of a command line: nothing, unless it is to render. -/
def RunAsks : Except UsageError Command → UInt32 → List HostRequest → Prop
  | .ok (.render _ o), code, asked =>
    ∃ inputs issued, asked = inputs ++ issued ∧ (∀ r ∈ inputs, r.IsRead) ∧
      Writes o (code = 0) issued
  | _, _, asked => asked = []

theorem RunAsks.pairwise_apart {command : Except UsageError Command} {code : UInt32}
    {asked : List HostRequest} (h : RunAsks command code asked) :
    ((writtenIn asked).map Prod.fst).Pairwise Apart := by
  unfold RunAsks at h
  split at h
  · obtain ⟨inputs, issued, rfl, hinputs, hwrites⟩ := h
    rw [writtenIn_append, writtenIn_of_isRead hinputs, List.nil_append]
    exact hwrites.pairwise_apart
  · rw [h]
    exact .nil

theorem records_blocks :
    Records (Command.blocks.perform host.recorded).run (Command.blocks.perform host).run
      fun _ asked => asked = [] := by
  refine (records_silent (host.print _)).liftBind fun _ first hfirst => ?_
  refine (records_allTold (fun _ => host.print _) BlockKind.all).imp fun _ more hmore => ?_
  rw [hfirst, hmore.2]
  rfl

/-- The exit code tells whether a command succeeded. -/
theorem records_perform {command : Command} {arguments : List String}
    {Q : Except Failure Unit → List HostRequest → Prop} {P : UInt32 → List HostRequest → Prop}
    (hcommand : Command.ofArguments arguments = .ok command)
    (h : Records (command.perform host.recorded).run (command.perform host).run Q)
    (hok : ∀ asked, Q (.ok ()) asked → P 0 asked)
    (herror : ∀ failure asked, Q (.error failure) asked → P 1 asked) :
    Records (run host.recorded arguments) (run host arguments) P := by
  unfold run
  rw [hcommand]
  refine h.bind fun result asked hasked => ?_
  cases result with
  | ok =>
    refine .pure ?_
    rw [List.append_nil]
    exact hok asked hasked
  | error failure =>
    refine (records_silent (host.notify _)).bind fun _ _ hnotice => .pure ?_
    rw [hnotice, List.append_nil, List.append_nil]
    exact herror failure asked hasked

theorem records_run (arguments : List String) :
    Records (run host.recorded arguments) (run host arguments)
      (RunAsks (Command.ofArguments arguments)) := by
  cases hcommand : Command.ofArguments arguments with
  | error e =>
    unfold run
    rw [hcommand]
    dsimp only
    split
    · exact (records_silent (host.print _)).bind fun _ _ htold => .pure (by rw [htold]; rfl)
    · exact (records_silent (host.notify _)).bind fun _ _ htold => .pure (by rw [htold]; rfl)
  | ok command =>
    cases command with
    | blocks =>
      exact records_perform host hcommand (records_blocks host) (fun _ h => h) fun _ _ h => h
    | render path o =>
      refine records_perform host hcommand (records_performRender host path o) ?_ ?_
      · intro asked h
        obtain ⟨inputs, issued, hasked, hinputs, hwrites⟩ := h.exists_writes
        exact ⟨inputs, issued, hasked, hinputs, hwrites.only, hwrites.targets,
          fun _ => hwrites.all rfl⟩
      · intro failure asked h
        obtain ⟨inputs, issued, hasked, hinputs, hwrites⟩ := h.exists_writes
        exact ⟨inputs, issued, hasked, hinputs, hwrites.only, hwrites.targets,
          fun hzero => absurd hzero (by decide)⟩

/-- **The documents of a run go to different files, and nothing else is written.** Whatever the
files answer, a run that is not to render asks for nothing. One that is to render reads all of its
input first. After that it asks for what its store needs and for the files of its documents: these
are the first of those that are meant for them, all of them if the exit code is 0, and any two of
them are different and lead to different places. -/
theorem run_writes_apart (arguments : List String) (before : σ) :
    ∃ asked,
      ((run host.recorded arguments).run []).run before =
        ((((run host arguments).run before).1, asked), ((run host arguments).run before).2) ∧
      RunAsks (Command.ofArguments arguments) ((run host arguments).run before).1 asked ∧
      ((writtenIn asked).map Prod.fst).Pairwise Apart := by
  obtain ⟨asked, hrun, hasked⟩ := records_run host arguments [] before
  exact ⟨asked, hrun, hasked, hasked.pairwise_apart⟩

end Runs

end Letterhead
