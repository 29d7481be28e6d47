import Letterhead.Document.Encoding
import Letterhead.Document.Stationery
import Letterhead.Page.Sheets
import Letterhead.Storage.Store

/-!
# Publishing documents

A document is laid out by a typesetter and, if there is a store, stored. A document that cannot be
laid out is not published; one that cannot be stored is.

* `Typesetter` — what lays a document out; as pages of text, or as JSON;
* `publish` — a document laid out and stored;
* `generate` — the same from a template and a context.
-/

namespace Letterhead

/-! ### Typesetters -/

/-- What lays a document out. -/
structure Typesetter where
  /-- The extension of the files it makes. -/
  extension : String
  layOut : Document → Except LayoutError String

namespace Typesetter

/-- Pages of text. -/
def text (page : PageSize) : Typesetter where
  extension := "txt"
  layOut := Document.text page

/-- JSON on one line. -/
def json : Typesetter where
  extension := "json"
  layOut d := .ok d.compact

/-- JSON over several lines. -/
def prettyJson : Typesetter where
  extension := "json"
  layOut d := .ok d.pretty

end Typesetter

/-! ### Publishing -/

/-- What became of storing a document. -/
inductive UploadOutcome where
  | skipped
  | stored (file : StoredFile)
  | failed (cause : UploadError)
deriving DecidableEq, Repr

/-- A document that was laid out. -/
structure Publication where
  fileName : String
  text : String
  upload : UploadOutcome

/-- Where a document was stored, if it was. -/
def Publication.stored? (p : Publication) : Option StoredFile :=
  match p.upload with
  | .stored file => some file
  | _ => none

variable {m : Type → Type} [Monad m]

/-- A text stored under a new path, if there is a store. -/
def upload (stamp : m Stamp) (store : Option (Uploader m)) (fileName text : String) :
    m UploadOutcome := do
  match store with
  | none => return .skipped
  | some store =>
    match ← store (String.ofList (storagePath (← stamp) fileName)) text with
    | .ok file => return .stored file
    | .error e => return .failed e

/-- A document laid out, and stored if there is a store. -/
def publish (stamp : m Stamp) (typesetter : Typesetter) (store : Option (Uploader m))
    (fileName : String) (d : Document) : m (Except LayoutError Publication) := do
  match typesetter.layOut d with
  | .error e => return .error e
  | .ok text => return .ok { fileName, text, upload := ← upload stamp store fileName text }

/-- The document of a template and a context, published. -/
def generate (stamp : m Stamp) (typesetter : Typesetter) (store : Option (Uploader m))
    (fileName : String) (fonts : FontRegistry) (t : Template) (context : Context)
    (margins : Bool) : m (Except LayoutError Publication) :=
  publish stamp typesetter store fileName (t.render fonts context margins)

end Letterhead
