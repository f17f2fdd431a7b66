import BezelStream.Scan.Sightings
import BezelStream.Session

/-! # Scans

An adapter that scans calls back while it does so, and its further course depends on
how the listener takes it. A `Course` is the tree of all that: each signal is
followed by a branch for every way in which telling it may end.
-/

namespace BezelStream

/-- The course of a scan. -/
inductive Course (σ : Type) where
  | ended (occurrences : List Occurrence) (result : Except Fault Unit) (env : σ)
  /-- The scan gives a signal, after some occurrences, and goes on with how that ended. -/
  | gives (occurrences : List Occurrence) (signal : ScanSignal) (env : σ)
      (next : Except Fault Unit → σ → Course σ)

namespace Course

variable {σ ρ : Type}

/-- Follows a course, telling the signals by `handle`. -/
def follow (handle : ScanSignal → Op σ ρ Unit) : Course σ → Op σ ρ Unit
  | .ended occurrences result env => Op.performWith (fun _ p => p) fun _ => (⟨occurrences, result⟩, env)
  | .gives occurrences signal env next => do
    Op.perform fun _ => (⟨occurrences, .ok ()⟩, env)
    let result ← (handle signal).attempt
    let env ← Op.read (·.env)
    (next result env).follow handle

/-- The course that meets devices in order and then goes on. It ends with the first fault. -/
def meets (devices : List Device) (next : σ → Course σ) (env : σ) : Course σ :=
  match devices with
  | [] => next env
  | device :: rest =>
    .gives [] (.found device) env fun
      | .error f, env => .ended [] (.error f) env
      | .ok (), env => meets rest next env

end Course

/-- An adapter, known by how it answers. -/
structure Adapter (σ : Type) where
  name : String
  scan : Binary64 → σ → Course σ
  peripheral : Device → Call σ (Peripheral σ)
  close : Call σ Unit

def heed {σ : Type} (adapter : String) (listener : Listener σ) :
    ScanSignal → Op σ Sightings Unit
  | .started => do
    Op.log .info .scan ("Scan started on adapter " ++ adapter)
    listener.tell .started
  | .found device => do
    let _ ← collect listener device
  | .stopped => do
    Op.log .info .scan "Scan stopped"
    listener.tell .stopped

/-- Scans for so many seconds and gives the devices that accept connections, in the
    order in which they were met. There may be none. -/
def scan {σ ρ : Type} (adapter : Adapter σ) (timeout : Binary64) (listener : Listener σ) :
    Op σ ρ (List Device) := Op.within {} do
  let course := adapter.scan timeout (← Op.read (·.env))
  Op.called (.adapter (.scan timeout)) (course.follow (heed adapter.name listener))
  let devices := (← Op.own).devices
  Op.log .info .scan ("Scan found " ++ toString devices.length ++ " connectable device(s)")
  return devices

end BezelStream
