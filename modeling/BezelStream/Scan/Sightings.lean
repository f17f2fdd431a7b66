import BezelStream.Interaction.Collaborator

/-! # Sightings

The devices of a scan, each address once. The first sighting of an address decides:
if it does not accept connections, later sightings of the address do not count
either. Sightings without an address are passed over.
-/

namespace BezelStream

/-- What a scan has met so far. -/
structure Sightings where
  seen : List String := []
  /-- The devices that count, in the order of their first sighting. -/
  devices : List Device := []
  deriving Repr, DecidableEq

namespace Sightings

/-- Takes in a sighting: whether the device now counts that did not before. -/
def insert (device : Device) (s : Sightings) : Bool × Sightings :=
  if device.address.isEmpty || s.seen.contains device.address then (false, s)
  else
    let seen := s.seen ++ [device.address]
    if device.connectable then (true, ⟨seen, s.devices ++ [device]⟩)
    else (false, { s with seen })

end Sightings

/-- Who is told of a scan while it runs. -/
inductive Listener (σ : Type) where
  | silent
  | custom (call : ScanSignal → Call σ Unit)
  | inWords (notifier : Notifier σ)

namespace Listener

variable {σ ρ : Type}

def words : ScanSignal → String
  | .started => "Scan started."
  | .found device => "Found device: " ++ device.identifier ++ " [" ++ device.address ++ "]"
  | .stopped => "Scan stopped."

def tell (listener : Listener σ) (signal : ScanSignal) : Op σ ρ Unit :=
  match listener with
  | .silent => pure ()
  | .custom call => Op.called (.told signal) (Op.perform (call signal))
  | .inWords notifier => notifier.tell (words signal)

end Listener

/-- Takes in a sighting during a scan. The listener is told of a device that counts;
    the device counts even if the listener fails. -/
def collect {σ : Type} (listener : Listener σ) (device : Device) : Op σ Sightings Bool := do
  let (counts, sightings) := (← Op.own).insert device
  Op.updateOwn fun _ => sightings
  if counts then
    Op.log .debug .scan ("Found device " ++ device.identifier ++ " [" ++ device.address ++ "]")
    listener.tell (.found device)
  return counts

end BezelStream
