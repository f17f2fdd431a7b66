import BezelStream.Config.Schema
import BezelStream.Gatt
import BezelStream.Session.State
import BezelStream.Value.Conversion

/-! # Faults

A fault is a cause, with what is needed to word it. Three questions are asked of a
fault: its `message`; whether it is a `Failure`, one of the kinds that the program
reports under a name of its own; and whether it `isOrdinary`, for an interrupt
passes through every handler that ordinary faults are wrapped by.
-/

namespace BezelStream

/-- The kinds of failure that the program names itself. -/
inductive Failure where
  | general
  /-- A configuration does not conform to its schema or meaning. -/
  | configInvalid
  | configUnreadable
  | adapterNotFound
  | scanFailed
  | noConnectablePeripherals
  | deviceSelection
  | noTargetDevice
  | invalidSelection
  | session
  | connectionFailed
  | serviceDiscoveryFailed
  | characteristicNotFound
  /-- The characteristic sends nothing on its own. -/
  | unsupportedCharacteristic
  | subscriptionFailed
  | unsubscribeFailed
  deriving Repr, DecidableEq

def Failure.isSession : Failure → Bool
  | .session | .connectionFailed | .serviceDiscoveryFailed | .characteristicNotFound
  | .unsupportedCharacteristic | .subscriptionFailed | .unsubscribeFailed => true
  | _ => false

/-- Why a stored text cannot be read. -/
inductive ReadError where
  | missing
  | notDirectory
  | isDirectory
  deriving Repr, DecidableEq

def ReadError.words : ReadError → String
  | .missing => "[Errno 2] No such file or directory"
  | .notDirectory => "[Errno 20] Not a directory"
  | .isDirectory => "[Errno 21] Is a directory"

/-- A cause for which something could not be done. -/
inductive Fault where
  | reported (failure : Failure) (text : String)
  | foreign (kind text : String)
  /-- The radio is switched off or missing. -/
  | radioOff (text : String)
  | interrupt (kind text : String)
  | inputEnded
  /-- A value does not fit where it stands. -/
  | mismatch (reason : Mismatch)
  | unreadable (path : String) (error : ReadError)
  | malformed (path : String)
  | duplicateKey (key : Scalar)
  | rootNotMapping (path : String)
  | schema (source : String) (violation : Schema.Violation)
  | notUuid (context : String)
  | notBoolean (context : String)
  | configMissing (path : String)
  | noTarget (target : CodePoints)
  /-- The index is not one of those offered. -/
  | notAnIndex (count : Nat)
  | nothingConnectable
  | cannotConnect (state : SessionState)
  | wrongState (actual expected : SessionState)
  | nothingLocated
  | connection (cause : Fault)
  | discovery (cause : Fault)
  | subscription (cause : Fault)
  | unsubscription (cause : Fault)
  | characteristicMissing (uuid : String)
  | characteristicGone (characteristic service : String)
  /-- The characteristic sends nothing on its own. -/
  | sendsNothing (characteristic : String)
  | adapterQuery (details : String)
  | noAdapter
  /-- The adapter cannot scan because the radio is off. -/
  | adapterOff (adapter : String) (cause : Fault)
  | scan (cause : Fault)
  | linkConnect (address : String) (cause : Fault)
  | linkDisconnect (address : String) (cause : Fault)
  | linkServices (cause : Fault)
  | linkSubscribe (mode : SubscriptionMode) (characteristic : String) (cause : Fault)
  | linkUnsubscribe (characteristic : String) (cause : Fault)
  /-- There is no client for the call, which fails in its own way. -/
  | notConnected (failure : Failure) (address : String)
  | serviceAbsent (service : String)
  | characteristicAbsent (characteristic service : String)
  deriving Repr

/-- The fault with which something ended, if it did not end with a value. -/
def faultOf? {α : Type} : Except Fault α → Option Fault
  | .ok _ => none
  | .error f => some f

namespace Fault

def message : Fault → String
  | .reported _ text | .foreign _ text | .radioOff text | .interrupt _ text => text
  | .inputEnded => ""
  | .mismatch _ => ""
  | .unreadable path error =>
    "Could not read config file " ++ path ++ ": " ++ error.words ++ ": " ++ Text.quoted path
  | .malformed path => "Invalid YAML in " ++ path ++ ": not a well-formed document"
  | .duplicateKey key => "Duplicate key '" ++ key.written.printed ++ "' in YAML document"
  | .rootNotMapping path => "Config file " ++ path ++ " must contain a mapping at root"
  | .schema source violation =>
    let place := match violation.field? with
      | some field => " (" ++ field ++ ")"
      | none => ""
    "Schema validation failed for " ++ source ++ place ++ ": " ++ violation.message
  | .notUuid context => context ++ " must be a 16-bit, 32-bit, or 128-bit UUID string"
  | .notBoolean context => context ++ " must be boolean true/false"
  | .configMissing path => "Config file " ++ path ++ " does not exist"
  | .noTarget target => "No Simionic G1000 devices (identifier: " ++ target.printed ++ ") found."
  | .notAnIndex count =>
    "Invalid selection. Expected an index between 0 and " ++ toString (count - 1) ++ "."
  | .nothingConnectable => "No connectable peripherals discovered."
  | .cannotConnect state => "Cannot connect from state " ++ state.word
  | .wrongState actual expected =>
    "Session is " ++ actual.word ++ "; expected " ++ expected.word
  | .nothingLocated => "No characteristic has been located"
  | .connection cause => "Connection failed: " ++ cause.message
  | .discovery cause => "Service discovery failed: " ++ cause.message
  | .subscription cause => "Subscription failed: " ++ cause.message
  | .unsubscription cause => "Unsubscribe failed: " ++ cause.message
  | .characteristicMissing uuid => "Characteristic " ++ uuid ++ " not found on selected device."
  | .characteristicGone characteristic service =>
    "Characteristic " ++ characteristic ++ " disappeared from service " ++ service ++ "."
  | .sendsNothing characteristic =>
    "Characteristic " ++ characteristic ++ " supports neither indicate nor notify."
  | .adapterQuery details =>
    "Bluetooth adapter query failed. Ensure a working D-Bus/BlueZ session. Details: " ++ details
  | .noAdapter => "No Bluetooth adapter found."
  | .adapterOff adapter cause =>
    "Bluetooth adapter '" ++ adapter ++ "' is not available: " ++ cause.message
  | .scan cause => "BLE scan failed: " ++ cause.message
  | .linkConnect address cause => "BLE connect failed for " ++ address ++ ": " ++ cause.message
  | .linkDisconnect address cause =>
    "BLE disconnect failed for " ++ address ++ ": " ++ cause.message
  | .linkServices cause => "GATT service discovery failed: " ++ cause.message
  | .linkSubscribe mode characteristic cause =>
    "Enabling " ++ mode.word ++ " on " ++ characteristic ++ " failed: " ++ cause.message
  | .linkUnsubscribe characteristic cause =>
    "Disabling updates on " ++ characteristic ++ " failed: " ++ cause.message
  | .notConnected _ address => "Not connected to " ++ address
  | .serviceAbsent service => "service " ++ service ++ " not present"
  | .characteristicAbsent characteristic service =>
    "characteristic " ++ characteristic ++ " not present in " ++ service

/-- The failure that a fault is, if the program names it itself. -/
def failure? : Fault → Option Failure
  | .reported failure _ => some failure
  | .foreign .. | .radioOff _ | .interrupt .. | .inputEnded | .mismatch _
  | .serviceAbsent _ | .characteristicAbsent .. => none
  | .unreadable .. | .configMissing _ => some .configUnreadable
  | .malformed _ | .duplicateKey _ | .rootNotMapping _ | .schema .. | .notUuid _
  | .notBoolean _ => some .configInvalid
  | .noTarget _ => some .noTargetDevice
  | .notAnIndex _ => some .invalidSelection
  | .nothingConnectable => some .noConnectablePeripherals
  | .cannotConnect _ | .wrongState .. | .nothingLocated => some .session
  | .connection _ | .linkConnect .. | .linkDisconnect .. => some .connectionFailed
  | .discovery _ | .linkServices _ => some .serviceDiscoveryFailed
  | .subscription _ | .linkSubscribe .. => some .subscriptionFailed
  | .unsubscription _ | .linkUnsubscribe .. => some .unsubscribeFailed
  | .characteristicMissing _ | .characteristicGone .. => some .characteristicNotFound
  | .sendsNothing _ => some .unsupportedCharacteristic
  | .adapterQuery _ | .noAdapter | .adapterOff .. => some .adapterNotFound
  | .scan _ => some .scanFailed
  | .notConnected failure _ => some failure

/-- Whether handlers of faults take the fault: all but interrupts. -/
def isOrdinary : Fault → Bool
  | .interrupt .. => false
  | _ => true

def isSession (f : Fault) : Bool :=
  match f.failure? with
  | some failure => failure.isSession
  | none => false

/-- The fault as a failure of the given kind: itself if it is one already or is an
    interrupt, and otherwise the cause of one. -/
def asFailure (failure : Failure) (wrap : Fault → Fault) (f : Fault) : Fault :=
  if f.failure? = some failure || !f.isOrdinary then f else wrap f

/-- The fault wrapped unless it is an interrupt. -/
def wrapped (wrap : Fault → Fault) (f : Fault) : Fault :=
  if f.isOrdinary then wrap f else f

end Fault

end BezelStream
