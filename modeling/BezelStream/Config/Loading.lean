import BezelStream.Config
import BezelStream.Config.Files
import BezelStream.Yaml.Loading

/-! # Loading the configuration

The packaged document comes first. One file may lie over it, key by key: the file that
was asked for, which must exist, or else the user's. Each document is checked against
the schema on its own, and the configuration is built from what results.
-/

namespace BezelStream

namespace Config

def packaged : Document := [
  (.text "target_identifier", .scalar (.text "SHB1000")),
  (.text "characteristic_uuid", .scalar (.text "f62a9f56-f29e-48a8-a317-47ee37a58999")),
  (.text "scan_timeout_s", .scalar (.int 10)),
  (.text "selection_default", .scalar (.text "last")),
  (.text "diagnostics", .scalar (.text "true")),
  (.text "connect_timeout_s", .scalar (.int 10))]

/-- Where part of a configuration comes from. -/
inductive Source where
  | packaged
  | file (path : String)
  deriving Repr, DecidableEq

/-- A configuration, where it comes from, and what the user should know about that. -/
structure Loaded where
  config : Config
  sources : List Source
  warnings : List String
  deriving Repr, DecidableEq

/-- The fault that a flaw of the document at a path is. A key that cannot be written is not told. -/
def faultOf (path : Path) : Yaml.Flaw → Fault
  | .malformed => .malformed path.text
  | .duplicateKey key => if key.isWritable then .duplicateKey key else .mismatch .badValue
  | .mismatch reason => .mismatch reason

/-- The document in a text. A text without a document is an empty one. -/
def documentOf (stack : Stack) (path : Path) (text : String) : Except Fault Document :=
  match Yaml.load stack text with
  | .error flaw => .error (faultOf path flaw)
  | .ok (.scalar .null) => .ok []
  | .ok (.map entries) => .ok entries
  | .ok _ => .error (.rootNotMapping path.text)

def readDocument (stack : Stack) (files : Files) (path : Path) : Except Fault Document := do
  documentOf stack path (← files.readText path)

/-- Puts a value under a key, in the place of the one before or at the end. -/
def put (key : Scalar) (value : Value) : Document → Document
  | [] => [(key, value)]
  | (k, v) :: rest => if k.same key then (k, value) :: rest else (k, v) :: put key value rest

/-- Whether a value differs from the one that a document has under the key, where absence
    counts as null. Not-a-number differs from everything, itself included. -/
def differs (doc : Document) (key : Scalar) (value : Value) : Bool :=
  match Value.lookup? key doc, value with
  | some (.scalar a), .scalar b => b = .float .nan || !a.same b
  | none, .scalar b => b != .null
  | _, _ => true

/-- Lays the entries of a document over another one, in order. A change is logged. -/
def overlay {σ ρ : Type} (path : Path) : Document → (below : Document) → Op σ ρ Document
  | [], below => return below
  | (key, value) :: rest, below => do
    if differs below key value then
      Op.log .info .config ("Config '" ++ key.written.printed ++ "' overridden by " ++ path.text)
    overlay path rest (put key value below)

def ignored (user explicit : Path) : String :=
  "User config " ++ user.text ++ " ignored in favour of " ++ explicit.text

/-- The file to lay over the packaged document, with warnings. -/
def overriding {σ ρ : Type} (files : Files) (explicit : Option Path) :
    Op σ ρ (Option Path × List String) := do
  let user := files.userFile?
  match explicit with
  | none => return (user, [])
  | some path =>
    match files.fileAt? path with
    | none => throw (.configMissing path.text)
    | some place =>
      match user with
      | none => return (some path, [])
      | some userPath =>
        if files.fileAt? userPath = some place then return (some path, [])
        else
          Op.log .warning .config (ignored userPath path)
          return (some path, [ignored userPath path])

def load {σ ρ : Type} (stack : Stack) (files : Files) (explicit : Option Path) :
    Op σ ρ Loaded := do
  let (file, warnings) ← overriding files explicit
  match file with
  | none => return ⟨← Op.ofResult (ofDocument packaged), [.packaged], warnings⟩
  | some path =>
    let doc ← Op.ofResult (readDocument stack files path)
    Op.ofResult (validate stack path.text (.map doc))
    let merged ← overlay path doc packaged
    return ⟨← Op.ofResult (ofDocument merged), [.packaged, .file path.text], warnings⟩

end Config

end BezelStream
