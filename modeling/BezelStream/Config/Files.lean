import BezelStream.Config.Path
import BezelStream.Fault
import BezelStream.Text.Lines
import BezelStream.Text.Utf8

/-! # Files

The files that a configuration may be read from, as a tree of names, with the working
directory and the settings of the environment that say where to look.
-/

namespace BezelStream

/-- What stands at a place of a tree. -/
inductive Entry where
  | file (bytes : List UInt8)
  | directory
  deriving Repr, DecidableEq

/-- A tree of files, and where a run stands in it. -/
structure Files where
  /-- The entries by the names that lead to them. The directories around an entry exist
      without an entry of their own. -/
  entries : List (List String × Entry)
  /-- The names that lead to the working directory, which exists. -/
  working : List String
  home : String
  configHome : Option String
  deriving Repr, DecidableEq

namespace Files

def entryAt? (files : Files) (names : List String) : Option Entry :=
  match files.entries.lookup names with
  | some entry => some entry
  | none =>
    if names.isPrefixOf files.working || files.entries.any fun (place, _) => names.isPrefixOf place
    then some .directory
    else none

/-- Follows names from a place. All but the last must lead through directories. -/
def walk (files : Files) : (place : List String) → List String → Except ReadError (List String)
  | place, [] => .ok place
  | place, name :: rest =>
    match files.entryAt? place with
    | none => .error .missing
    | some (.file _) => .error .notDirectory
    | some .directory =>
      files.walk (if name = ".." then place.dropLast else place ++ [name]) rest

/-- The place that a path leads to and what stands there. -/
def find (files : Files) (path : Path) : Except ReadError (List String × Entry) := do
  let place ← files.walk (if path.root = "" then files.working else []) path.parts
  match files.entryAt? place with
  | some entry => return (place, entry)
  | none => .error .missing

/-- The place of the file that a path leads to, if it leads to one. -/
def fileAt? (files : Files) (path : Path) : Option (List String) :=
  match files.find path with
  | .ok (place, .file _) => some place
  | _ => none

/-- The text of the file at a path, each line end as one line feed. -/
def readText (files : Files) (path : Path) : Except Fault String :=
  match files.find path with
  | .error e => .error (.unreadable path.text e)
  | .ok (_, .directory) => .error (.unreadable path.text .isDirectory)
  | .ok (_, .file bytes) =>
    match Text.decodeUtf8? bytes with
    | some cs => .ok (String.ofList (Text.unifyLineEnds cs))
    | none => .error (.mismatch .undecodable)

/-- The home directory as a path; slashes at its end do not count. -/
def homePath (files : Files) : Path :=
  let text := String.ofList (files.home.toList.reverse.dropWhile (· = '/')).reverse
  .ofText (if text = "" then "/" else text)

def userDirectory (files : Files) : Path :=
  (match files.configHome with
    | some text => Path.ofText text
    | none => files.homePath.child ".config").child "shbctl"

/-- The user's configuration file: the first of its two names that there is a file of. -/
def userFile? (files : Files) : Option Path :=
  ["config.yaml", "config.yml"].map files.userDirectory.child |>.find? fun path =>
    (files.fileAt? path).isSome

end Files

end BezelStream
