import BezelStream.Device
import BezelStream.Fault
import BezelStream.Number.Binary64
import BezelStream.Payload

/-! # Events

Everything that can be observed of a run is an event of its journal: what is
logged and shown, what is asked of collaborators, and what comes in from them. A
call is journalled before its outcome is known, and once more when it has ended.

A collaborator adds no events but its own remarks: it cannot speak for the program.
-/

namespace BezelStream

/-- The weight of a log record. -/
inductive Level where
  | debug
  | info
  /-- Something is odd, but the run goes on. -/
  | warning
  | error
  deriving Repr, DecidableEq

def Level.name : Level → String
  | .debug => "DEBUG"
  | .info => "INFO"
  | .warning => "WARNING"
  | .error => "ERROR"

/-- The part of the program that writes a log record. -/
inductive LogSource where
  | config
  | selection
  | scan
  | service
  | session
  | sink
  | radio
  deriving Repr, DecidableEq

def LogSource.name : LogSource → String
  | .config => "shbctl.core.config_loader"
  | .selection => "shbctl.core.device_match"
  | .scan => "shbctl.core.scanner"
  | .service => "shbctl.core.service"
  | .session => "shbctl.core.session"
  | .sink => "shbctl.core.sink"
  | .radio => "shbctl.transports.ble_gatt"

/-- What is asked of a peripheral. -/
inductive PeripheralCall where
  | connect
  | disconnect
  | services
  | subscribe (service characteristic : String) (mode : SubscriptionMode)
  | unsubscribe (service characteristic : String)
  deriving Repr, DecidableEq

/-- What is asked of an adapter, or of the host for one. -/
inductive AdapterCall where
  /-- To provide an adapter, whose connections are given so many seconds. -/
  | locate (connectTimeout : Binary64)
  | scan (timeout : Binary64)
  | peripheral (device : Device)
  | close
  deriving Repr, DecidableEq

/-- What is asked of a client, the radio's end of one connection. -/
inductive ClientCall where
  /-- To come into being for a device, by the radio's own object for it or by address. -/
  | create (byHandle : Bool) (address : String) (timeout : Binary64)
  | connect
  | disconnect
  /-- To send the values of a characteristic, with indications if they are insisted on. -/
  | startNotify (uuid : String) (insist : Bool)
  | stopNotify (uuid : String)
  deriving Repr, DecidableEq

/-- What is asked of the radio. -/
inductive RadioCall where
  | startScan
  | stopScan
  | client (number : Nat) (call : ClientCall)
  deriving Repr, DecidableEq

/-- What a scan tells its listener. -/
inductive ScanSignal where
  | started
  | found (device : Device)
  | stopped
  deriving Repr, DecidableEq

/-- Where a line is printed. -/
inductive Output where
  | standard
  | error
  deriving Repr, DecidableEq

/-- Something that can be observed. -/
inductive Event where
  | log (level : Level) (source : LogSource) (text : String)
  | notice (text : String)
  /-- A question to the user, with the answer that is proposed. -/
  | prompt (text : String) (proposed : Nat)
  | wait (state : SessionState)
  | stopRequested
  | released
  /-- A frame came in from a peripheral. -/
  | arrived (frame : Frame)
  /-- A frame was handed to a sink. -/
  | frame (frame : Frame)
  | told (signal : ScanSignal)
  | peripheral (call : PeripheralCall)
  | adapter (call : AdapterCall)
  | radio (call : RadioCall)
  | command (words : List String)
  | printed (output : Output) (text : String)
  /-- A call that was journalled has ended, with the fault if it failed. -/
  | ended (call : Event) (fault : Option Fault)
  deriving Repr

/-- What a collaborator does by itself that can be observed. -/
inductive Remark where
  /-- A record of the radio's: no other collaborator keeps a log. -/
  | log (level : Level) (text : String)
  | radio (call : RadioCall)
  | command (words : List String)
  | printed (output : Output) (text : String)
  /-- A call that it remarked on has ended, with the fault if it failed. -/
  | ended (call : Remark) (fault : Option Fault)
  deriving Repr

def Remark.event : Remark → Event
  | .log level text => .log level .radio text
  | .radio call => .radio call
  | .command words => .command words
  | .printed output text => .printed output text
  | .ended call fault => .ended call.event fault

end BezelStream
