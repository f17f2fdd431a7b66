import BezelStream.Proofs.Streamer.Stages

/-! # What a streamer takes from its configuration

Each stage of a stream has settings of its own. `GoesBy` says of every stage which settings these
are, and `Event.Suits` what follows for a journal: the host and the adapter are given the times of
the configuration, and a peripheral is created for no device but one that is its target.
-/

namespace BezelStream

variable {σ : Type}

open Op

/-- The event asks adapters for nothing that the configuration does not ask for. -/
def Event.Suits (config : Config) : Event → Prop
  | .adapter (.locate seconds) => seconds = config.connectTimeout
  | .adapter (.scan seconds) => seconds = config.scanTimeout
  | .adapter (.peripheral device) => (device.identifier : CodePoints) = config.target
  | _ => True

variable {config : Config} {event : Event}

theorem Event.suits_of_action (other : event.action? = none) : event.Suits config := by
  cases event with
  | adapter call => cases other
  | _ => trivial

theorem Event.Idle.suits (idle : event.Idle) : event.Suits config :=
  suits_of_action idle.action

theorem Event.OfSession.suits (written : event.OfSession) : event.Suits config := by
  cases written with
  | aside aside => exact aside.idle.suits
  | deals deals => cases deals <;> trivial
  | records | ended | released | arrived | frame => trivial

theorem admits_suits : Admits (Event.Suits config) :=
  fun _ aside => aside.idle.suits

namespace Streamer

/-- Every stage goes by the settings of the configuration. -/
structure GoesBy (s : Streamer σ) (config : Config) : Prop where
  settings : s.config = config
  locates : s.findAdapter = Op.called (.adapter (.locate config.connectTimeout))
    (Op.perform (s.locate config.connectTimeout))
  scans : ∀ adapter, s.scanWith adapter = scan adapter config.scanTimeout (.inWords s.notifier)
  selects : ∀ devices, s.select devices =
    BezelStream.select config.target config.proposal s.prompt s.notifier devices
  seeks : ∀ peripheral, (s.sessionWith peripheral).characteristic = config.characteristic
  diagnoses : ∀ peripheral, (s.sessionWith peripheral).diagnostics = config.diagnostics

theorem goesBy (s : Streamer σ) : s.GoesBy s.config :=
  ⟨rfl, rfl, fun _ => rfl, fun _ => rfl, fun _ => rfl, fun _ => rfl⟩

variable (s : Streamer σ) (adapter : Adapter σ)

theorem findAdapter_suits : Writes (Event.Suits s.config) s.findAdapter :=
  .called rfl (fun _ => trivial) (.perform _ admits_suits)

theorem closeAdapter_suits : Writes (Event.Suits config) (closeAdapter adapter) :=
  .called trivial (fun _ => trivial) (.perform _ admits_suits)

theorem scan_suits : (Event.adapter (.scan s.config.scanTimeout)).Suits s.config :=
  rfl

theorem scanWith_suits : Writes (Event.Suits s.config) (s.scanWith adapter) :=
  .begun s.scan_suits fun p => (s.scan_since adapter p).imp fun _ idle => idle.suits

theorem approach_suits : Writes (Event.Suits s.config) (s.approach adapter) :=
  .begun s.scan_suits fun p => (s.approach_since adapter p).imp fun _ idle => idle.suits

theorem createPeripheral_suits {device : Device}
    (target : (device.identifier : CodePoints) = config.target) :
    Writes (Event.Suits config) (createPeripheral adapter device) :=
  .called target (fun _ => trivial) (.perform _ admits_suits)

/-- The device that a peripheral is created for has been selected, so it is the target. -/
theorem streamWith_suits : Writes (Event.Suits s.config) (s.streamWith adapter) := by
  intro p
  rw [streamWith, runFrom_bind]
  have approaches := s.approach_suits adapter p
  rcases approached : (s.approach adapter).runFrom p with ⟨f | device, q⟩
  · rw [approached] at approaches
    exact approaches
  rw [approached] at approaches
  obtain ⟨_, ⟨_, _, _, target, -, -, -⟩, -⟩ := selects_of_approach approached
  have creates := createPeripheral_suits adapter target
  refine approaches.trans (Writes.bind creates (fun peripheral => ?_) q)
  have runs : Writes (Event.Suits s.config) ((s.sessionWith peripheral).run s.wait) :=
    ((s.sessionWith peripheral).run_writes s.wait).imp fun _ written => written.suits
  have tells : Writes (ρ := Unit) (Event.Suits s.config) (s.notifier.tell farewell) :=
    .tell s.notifier admits_suits trivial trivial fun _ => trivial
  exact .bind (.within runs) fun _ => .bind tells fun _ => .pure _

theorem withAdapter_suits {α : Type} {work : Adapter σ → Op σ Unit α}
    (works : ∀ adapter, Writes (Event.Suits s.config) (work adapter)) :
    Writes (Event.Suits s.config) (s.withAdapter work) :=
  .bind s.findAdapter_suits fun adapter => .ensuring (works adapter) (closeAdapter_suits adapter)

theorem stream_suits : Writes (Event.Suits s.config) s.stream :=
  s.withAdapter_suits s.streamWith_suits

theorem listDevices_suits : Writes (Event.Suits s.config) s.listDevices :=
  s.withAdapter_suits s.scanWith_suits

end Streamer

end BezelStream
