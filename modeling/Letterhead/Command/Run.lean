import Letterhead.Block.Kind
import Letterhead.Command.Arguments
import Letterhead.Command.Target
import Letterhead.Context.Reading
import Letterhead.Storage.Publication

/-!
# Running a command

A command runs on a host: a place that keeps files, someone to print to, and an engine that knows
fonts. What is done and in which order does not depend on the host.

* `Host` — what a command needs;
* `Failure`, `Notice` — what is told besides the output;
* `run` — the run of a command line, with its exit code.
-/

namespace Letterhead

/-! ### What is told -/

/-- Why a command fails. -/
inductive Failure where
  | layout (cause : LayoutError)
  | font (cause : FontError)
  /-- A file of input cannot be read. -/
  | input (path : String) (cause : FileError)
  /-- The template's text is not JSON. -/
  | templateText
  | template (cause : TemplateError)
  | context (path : String) (cause : ContextError)
  /-- A file of output cannot be written. -/
  | output (cause : FileError)

/-- The text of a failure. -/
def Failure.message : Failure → String
  | .layout cause => "Layout error: " ++ cause.message
  | .font cause => "Font error: " ++ cause.message
  | .input path cause => "Template error: " ++ path ++ ": " ++ cause.message
  | .templateText => "Template error: not JSON"
  | .template cause => "Template error: " ++ cause.message
  | .context path cause => "Template error: " ++ path ++ ": " ++ cause.message?.getD "not JSON"
  | .output cause => "I/O error: " ++ cause.message

/-- The text of an error of storing. -/
def uploadFailure (cause : UploadError) : String :=
  "Upload error: " ++ cause.message

/-- What is told besides the output. -/
inductive Notice where
  | usage (cause : UsageError)
  | failed (cause : Failure)
  | stored (file : StoredFile)
  | notStored (cause : UploadError)

/-- The text of a notice. -/
def Notice.text : Notice → String
  | .usage cause => cause.message
  | .failed cause => "Error: " ++ cause.message ++ "\n"
  | .stored file => "Stored " ++ file.url ++ "\n"
  | .notStored cause => "Upload failed: " ++ uploadFailure cause ++ "\n"

/-- What a command runs on. -/
structure Host (m : Type → Type) extends Files m where
  /-- Writes a document to a file, whose path need not be a text. -/
  writeOutput : SystemPath → String → m (Except FileError Unit)
  /-- Whether bytes are a font that can be opened. -/
  isFont : Array UInt8 → Bool
  print : String → m Unit
  notify : Notice → m Unit
  /-- A stamp for a document that is stored now. -/
  stamp : m Stamp

variable {m : Type → Type} [Monad m]

/-! ### Input -/

/-- A result, or a failure that tells its cause. -/
def orFail {ε α : Type} (fail : ε → Failure) (result : Except ε α) : ExceptT Failure m α :=
  match result with
  | .ok a => pure a
  | .error e => throw (fail e)

/-- The text of a file of input. -/
def readInput (host : Host m) (path : String) : ExceptT Failure m String := do
  orFail (.input path) (← host.readText path)

/-- The size of the page with a name; A4 if there is none. -/
def readPage (name : Option String) : ExceptT Failure m PageSize :=
  match name with
  | none => pure .a4
  | some name =>
    match PageSize.ofName? name with
    | some page => pure page
    | none => throw (.layout (.unknownPage name))

/-- The registry with one more font, asked for as a family and a path. -/
def readFont (host : Host m) (fonts : FontRegistry) (request : String) :
    ExceptT Failure m FontRegistry := do
  match splitAtEquals request.toList with
  | (_, none) => throw (.font (.malformedRequest request))
  | (family, some path) =>
    let registered ←
      (fonts.registerFile host.isFont host.toFiles (String.ofList family) (String.ofList path) :
        m (Except FontError FontRegistry))
    orFail .font registered

/-- The template in a file. -/
def readTemplate (host : Host m) (path : String) : ExceptT Failure m Template := do
  match Template.ofText (← readInput host path) with
  | .ok t => return t
  | .error none => throw .templateText
  | .error (some cause) => throw (.template cause)

/-- The context in a file. -/
def readContext (host : Host m) (path : String) : ExceptT Failure m Context := do
  orFail (.context path) (Context.ofText (← readInput host path))

/-- The contexts in files; one without data if there are none. -/
def readContexts (host : Host m) (paths : List String) : ExceptT Failure m (List Context) :=
  match paths with
  | [] => pure [{}]
  | _ => paths.mapM (readContext host)

/-! ### Output -/

/-- What lays documents out in a format. -/
def OutputFormat.typesetter (page : PageSize) : OutputFormat → Typesetter
  | .text => .text page
  | .json => .prettyJson

/-- The name of the document at a position: that of its file, or a number. -/
def documentName (target : Option SystemPath) (position : Nat) (extension : String) : String :=
  match target.bind FilePath.fileName? with
  | some name => String.ofList (Utf8.decode name)
  | none => "documento-" ++ toString (position + 1) ++ "." ++ extension

/-- A document delivered: to its file, or else printed. -/
def deliver (host : Host m) (target : Option SystemPath) (text : String) :
    ExceptT Failure m Unit := do
  match target with
  | none => host.print text
  | some path =>
    orFail .output (← host.writeOutput path text)
    host.print ("Wrote " ++ String.ofList (Utf8.decode path) ++ "\n")

/-- What is told about storing a document. -/
def UploadOutcome.notices : UploadOutcome → List Notice
  | .skipped => []
  | .stored file => [.stored file]
  | .failed cause => [.notStored cause]

/-- The path for the document at a position, if documents go to files. -/
def RenderOptions.target? (o : RenderOptions) (count position : Nat) : Option SystemPath :=
  o.output.map fun path => indexedPath (Utf8.encode path.toList) position count

/-- The document at a position published and delivered. -/
def issue (host : Host m) (typesetter : Typesetter) (o : RenderOptions) (count position : Nat)
    (d : Document) : ExceptT Failure m Unit := do
  let target := o.target? count position
  let name := documentName target position typesetter.extension
  let store := o.store.map fun root => directoryStore host.toFiles root
  let result ← (publish host.stamp typesetter store name d : m (Except LayoutError Publication))
  let published ← orFail .layout result
  deliver host target published.text
  published.upload.notices.forM fun notice => host.notify notice

/-- Documents from a position on, published and delivered in order. -/
def issueAll (host : Host m) (typesetter : Typesetter) (o : RenderOptions) (count position : Nat) :
    List Document → ExceptT Failure m Unit
  | [] => pure ()
  | d :: rest => do
    issue host typesetter o count position d
    issueAll host typesetter o count (position + 1) rest

/-! ### Commands -/

/-- A template rendered against its contexts. All input is read before there is any output. -/
def performRender (host : Host m) (path : String) (o : RenderOptions) : ExceptT Failure m Unit := do
  let page ← readPage o.page
  let fonts ← o.fonts.foldlM (readFont host) {}
  let t ← readTemplate host path
  let contexts ← readContexts host o.contexts
  let documents := t.renderAll fonts contexts (!o.withoutMargins)
  issueAll host ((o.format.getD .text).typesetter page) o documents.length 0 documents

/-- A command performed. -/
def Command.perform (host : Host m) : Command → ExceptT Failure m Unit
  | .render path o => performRender host path o
  | .blocks => do
    host.print "Available blocks:\n"
    BlockKind.all.forM fun kind => host.print ("  " ++ kind.name ++ "\n")

/-- The run of a command line. The exit code is 0 after success, 1 after a failure, and 2 if the
arguments ask neither for a command nor for a text about the program. -/
def run (host : Host m) (arguments : List String) : m UInt32 := do
  match Command.ofArguments arguments with
  | .error e =>
    if e.isQuestion then
      host.print e.message
      return 0
    else
      host.notify (.usage e)
      return 2
  | .ok command =>
    match ← (command.perform host).run with
    | .ok () => return 0
    | .error e =>
      host.notify (.failed e)
      return 1

end Letterhead
