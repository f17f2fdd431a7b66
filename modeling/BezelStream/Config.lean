import BezelStream.Selection
import BezelStream.Stack
import BezelStream.Uuid

/-! # The configuration

A configuration is built from a document field by field; a field that the document
lacks has its default.
-/

namespace BezelStream

/-- The settings of a run. -/
structure Config where
  target : CodePoints := "SHB1000"
  characteristic : String := "f62a9f56-f29e-48a8-a317-47ee37a58999"
  scanTimeout : Binary64 := .ofNat 10
  proposal : Proposal := .last
  /-- Whether the table is shown when the characteristic is missing. -/
  diagnostics : Bool := true
  connectTimeout : Binary64 := .ofNat 10
  deriving Repr, DecidableEq

namespace Config

def field (doc : Document) (name : String) (default : Scalar) : Value :=
  (Value.lookup? (.text name) doc).getD (.scalar default)

/-- Reads a truth value; the words for it may have blanks around them and any letter case. -/
def readFlag (context : String) (value : Value) : Except Fault Bool :=
  match value with
  | .scalar (.bool b) => .ok b
  | .scalar (.text t) =>
    match t.chars?.map fun cs => String.ofList (Text.lowercase (Text.trim cs)) with
    | some "true" => .ok true
    | some "false" => .ok false
    | _ => .error (.notBoolean context)
  | _ => .error (.notBoolean context)

def readProposal : Value → Except Fault Proposal
  | .scalar (.text t) =>
    match t.string?.bind Proposal.ofWord? with
    | some p => .ok p
    | none => .error (.mismatch .badValue)
  | _ => .error (.mismatch .badValue)

def readSeconds (value : Value) : Except Fault Binary64 :=
  value.toFloat.mapError .mismatch

def readUuid (context : String) (value : Value) : Except Fault String :=
  match value.written.string? with
  | some text => normalizeUuid context text
  | none => .error (.notUuid context)

def ofDocument (doc : Document) : Except Fault Config := do
  let target := (field doc "target_identifier" (.text "SHB1000")).written
  let characteristic ← readUuid "characteristic_uuid"
    (field doc "characteristic_uuid" (.text "f62a9f56-f29e-48a8-a317-47ee37a58999"))
  let scanTimeout ← readSeconds (field doc "scan_timeout_s" (.float (.ofNat 10)))
  let proposal ← readProposal (field doc "selection_default" (.text "last"))
  let diagnostics ← readFlag "diagnostics" (field doc "diagnostics" (.bool true))
  let connectTimeout ← readSeconds (field doc "connect_timeout_s" (.float (.ofNat 10)))
  return { target, characteristic, scanTimeout, proposal, diagnostics, connectTimeout }

def schema : Schema where
  fields := [
    ("target_identifier", [.kind [.text], .atLeast 1]),
    ("characteristic_uuid", [.kind [.text], .atLeast 4]),
    ("scan_timeout_s", [.kind [.number], .positive]),
    ("selection_default", [.oneOf ["last", "first"]]),
    ("diagnostics", [.kind [.bool, .text]]),
    ("connect_timeout_s", [.kind [.number], .positive])]

/-- The fault for a violation. One whose text cannot be written has no name of its own. -/
def violationFault (stack : Stack) (source : String) (violation : Schema.Violation) : Fault :=
  if !violation.values.all stack.shows then .mismatch .tooDeep
  else if violation.isWritable then .schema source violation
  else .mismatch .badValue

/-- Checks a value against the schema; `source` names it in the fault. -/
def validate (stack : Stack) (source : String) (value : Value) : Except Fault Unit :=
  match schema.violation? value with
  | some violation => .error (violationFault stack source violation)
  | none => .ok ()

end Config

end BezelStream
