import BezelStream.Proofs.Streamer.Actions

/-! # The stages of a stream

A stream approaches a device, has a peripheral created for it, runs a session with that and
bids farewell. `StreamGoes` has a constructor for each stage at which it may end, and the journal
of each stage is known up to idle events.
-/

namespace BezelStream

variable {σ ρ α : Type}

open Op

/-- Such a progress with another state of its own. -/
abbrev Progress.withOwn {ρ' : Type} (own : ρ') (p : Progress σ ρ) : Progress σ ρ' :=
  ⟨p.env, p.journal, p.stopRequested, own⟩

theorem admits_idle : Admits Event.Idle :=
  fun _ aside => aside.idle

namespace Streamer

theorem tell_idle (notifier : Notifier σ) {text : String} (other : text ≠ farewell) :
    Writes (ρ := ρ) Event.Idle (notifier.tell text) :=
  .tell notifier admits_idle (Event.idle_record other) (Event.idle_notice other)
    fun _ => ⟨rfl, rfl, nofun⟩

/-- Telling the farewell notes it once, if anywhere, and idle events only after that. -/
theorem farewell_since (notifier : Notifier σ) (p : Progress σ ρ) :
    ∃ told, (told = [] ∨ ∃ event, event.Farewell ∧ told = [event]) ∧
      ((notifier.tell farewell).runFrom p).2.Since Event.Idle (p.journal ++ told) := by
  cases notifier with
  | silent =>
      have still : p.Since Event.Idle p.journal := .refl p
      exact ⟨[], .inl rfl, (List.append_nil p.journal).symm ▸ still⟩
  | log => exact ⟨_, .inr ⟨_, .recorded, rfl⟩, .of_journal rfl⟩
  | custom call =>
      refine ⟨_, .inr ⟨_, .told, rfl⟩, ?_⟩
      exact called_since (.perform (call farewell) admits_idle) fun _ => ⟨rfl, rfl, nofun⟩

/-! ## The approach -/

theorem heed_idle (adapter : String) (notifier : Notifier σ) (signal : ScanSignal) :
    Writes Event.Idle (heed adapter (.inWords notifier) signal) := by
  intro p
  rw [heed_eq]
  dsimp only
  split
  · have logged : (recordOf adapter signal).Idle := by
      cases signal <;> exact admits_idle (.log _ _ nofun)
    exact (Progress.Since.note logged _).trans (tell_idle notifier (words_ne_farewell signal) _)
  · exact .of_journal rfl

theorem announce_idle (notifier : Notifier σ) (device : Device) :
    Writes (ρ := ρ) Event.Idle (notifier.tell (announcement device)) := by
  have starts : Starts 'C' "Connecting to " := rfl
  exact tell_idle notifier
    (((((starts.append _).append _).append _).append _).ne_farewell (by decide))

variable (s : Streamer σ) (adapter : Adapter σ) (p : Progress σ Unit)

theorem scan_since : ((s.scanWith adapter).runFrom p).2.Since Event.Idle
    (p.journal ++ [.adapter (.scan s.config.scanTimeout)]) := by
  obtain ⟨signals, ending, r, runs, -, ends⟩ :=
    scan_gives adapter s.config.scanTimeout (.inWords s.notifier) p
  have followed : r.Since Event.Idle (p.journal ++ [.adapter (.scan s.config.scanTimeout)]) := by
    have idle := Course.writes_follow admits_idle (heed_idle adapter.name s.notifier)
      (adapter.scan s.config.scanTimeout p.env) (p.scanning s.config.scanTimeout)
    rw [runs.follow] at idle
    exact idle
  exact followed.trans (ends.imp fun _ event => event.idle)

theorem approach_since : ((s.approach adapter).runFrom p).2.Since Event.Idle
    (p.journal ++ [.adapter (.scan s.config.scanTimeout)]) := by
  refine bind_since (s.scan_since adapter p) fun devices => ?_
  have selects : Writes (ρ := Unit) Event.Idle (s.select devices) :=
    (select_writes _ _ _ _ devices).imp fun _ selects => selects.idle
  have rest := Writes.bind selects fun device =>
    .bind (announce_idle s.notifier device) fun _ => .pure device
  split
  · exact .bind (.throw _) fun _ => rest
  · exact rest

/-- A device was selected out of those that a scan has found, which ended without a fault. -/
inductive Selects : Device → Progress σ Unit → Prop where
  | selects {signals : List ScanSignal} {ended : Progress σ Sightings} {devices : List Device}
      {scanned chosen : Progress σ Unit} {device : Device}
      (completes : Course.Runs (heed adapter.name (.inWords s.notifier))
        (adapter.scan s.config.scanTimeout p.env) (p.scanning s.config.scanTimeout) signals
        (.ok ()) ended)
      (scans : (s.scanWith adapter).runFrom p = (.ok devices, scanned))
      (selects : (s.select devices).runFrom scanned = (.ok device, chosen))
      (target : (device.identifier : CodePoints) = s.config.target)
      (connectable : device.connectable = true)
      (addressed : device.address ≠ "")
      (first : (Sightings.found signals).find? (fun other => other.address == device.address) =
        some device) :
      Selects device chosen

variable {s adapter p}

theorem selects_of_scan {devices : List Device} {scanned chosen : Progress σ Unit}
    {device : Device} (scans : (s.scanWith adapter).runFrom p = (.ok devices, scanned))
    (selects : (s.select devices).runFrom scanned = (.ok device, chosen)) :
    s.Selects adapter p device chosen := by
  obtain ⟨signals, ending, r, runs, gives, -⟩ :=
    scan_gives adapter s.config.scanTimeout (.inWords s.notifier) p
  have given : ((scan adapter s.config.scanTimeout (.inWords s.notifier)).runFrom p).1 =
      .ok devices := congrArg Prod.fst scans
  rw [given] at gives
  cases ending with
  | error f => cases gives
  | ok =>
      cases gives
      obtain ⟨member, target⟩ := mem_candidates.mp (candidate_of_select selects)
      obtain ⟨sighted, connectable⟩ := List.mem_filter.mp member
      obtain ⟨addressed, first⟩ := mem_firsts.mp sighted
      exact .selects runs scans selects target connectable addressed first

/-- A device that is approached was selected, and announced after that. -/
theorem selects_of_approach {device : Device} {q : Progress σ Unit}
    (approached : (s.approach adapter).runFrom p = (.ok device, q)) :
    ∃ chosen, s.Selects adapter p device chosen ∧ chosen.journal <+: q.journal := by
  obtain ⟨devices, scanned, scans, rest⟩ := ok_of_bind approached
  split at rest
  · obtain ⟨_, _, thrown, -⟩ := ok_of_bind rest
    cases thrown
  · obtain ⟨other, chosen, selects, rest⟩ := ok_of_bind rest
    obtain ⟨_, announced, told, given⟩ := ok_of_bind rest
    cases given
    have since := announce_idle s.notifier device chosen
    rw [told] at since
    exact ⟨chosen, selects_of_scan scans selects, since.grows⟩

/-- Once a device is selected, only its announcement can still fail. -/
theorem approach_of_selects {device : Device} {chosen : Progress σ Unit}
    (selects : s.Selects adapter p device chosen) :
    ((s.approach adapter).runFrom p).1 =
      ((s.notifier.tell (announcement device)).runFrom chosen).1.map fun _ => device := by
  cases selects with
  | @selects _ _ devices _ _ _ completes scans selects =>
      have some : devices.isEmpty = false := by
        cases devices with
        | nil => cases selects
        | cons => rfl
      rw [approach, runFrom_bind, scans]
      dsimp only
      rw [if_neg (by simp [some]), runFrom_bind, selects]
      dsimp only
      rw [runFrom_bind]
      rcases (s.notifier.tell (announcement device)).runFrom chosen with ⟨f | _, q⟩ <;> rfl

/-! ## The whole stream -/

/-- How a stream with an adapter may go. -/
inductive StreamGoes (s : Streamer σ) (adapter : Adapter σ) (p : Progress σ Unit) :
    Except Fault StreamResult → Progress σ Unit → Prop where
  | astray {f : Fault} {q : Progress σ Unit}
      (approached : (s.approach adapter).runFrom p = (.error f, q)) :
      StreamGoes s adapter p (.error f) q
  | refused {device : Device} {f : Fault} {q r : Progress σ Unit}
      (approached : (s.approach adapter).runFrom p = (.ok device, q))
      (refused : (createPeripheral adapter device).runFrom q = (.error f, r)) :
      StreamGoes s adapter p (.error f) r
  | broken {device : Device} {peripheral : Peripheral σ} {f : Fault} {q r : Progress σ Unit}
      {t : Progress σ Lifecycle}
      (approached : (s.approach adapter).runFrom p = (.ok device, q))
      (created : (createPeripheral adapter device).runFrom q = (.ok peripheral, r))
      (broken : ((s.sessionWith peripheral).run s.wait).runFrom (r.withOwn {}) = (.error f, t)) :
      StreamGoes s adapter p (.error f) (t.withOwn ())
  | through {device : Device} {peripheral : Peripheral σ} {subscription : Subscription}
      {ending : Except Fault Unit} {q r u : Progress σ Unit} {t : Progress σ Lifecycle}
      (approached : (s.approach adapter).runFrom p = (.ok device, q))
      (created : (createPeripheral adapter device).runFrom q = (.ok peripheral, r))
      (returned : ((s.sessionWith peripheral).run s.wait).runFrom (r.withOwn {}) =
        (.ok subscription, t))
      (told : (s.notifier.tell farewell).runFrom (t.withOwn ()) = (ending, u)) :
      StreamGoes s adapter p (ending.map fun _ => ⟨device, subscription⟩) u

theorem goes (s : Streamer σ) (adapter : Adapter σ) (p : Progress σ Unit) :
    StreamGoes s adapter p ((s.streamWith adapter).runFrom p).1
      ((s.streamWith adapter).runFrom p).2 := by
  rw [streamWith, runFrom_bind]
  rcases approached : (s.approach adapter).runFrom p with ⟨f | device, q⟩
  · exact .astray approached
  dsimp only
  rw [runFrom_bind]
  rcases created : (createPeripheral adapter device).runFrom q with ⟨f | peripheral, r⟩
  · exact .refused approached created
  dsimp only
  rw [runFrom_bind, runFrom_within]
  rcases ran : ((s.sessionWith peripheral).run s.wait).runFrom (r.withOwn {}) with
    ⟨f | subscription, t⟩
  · exact .broken approached created ran
  dsimp only
  rw [runFrom_bind]
  rcases told : (s.notifier.tell farewell).runFrom (t.withOwn ()) with ⟨f | _, u⟩
  · exact .through approached created ran told
  · exact .through approached created ran told

end Streamer

end BezelStream
