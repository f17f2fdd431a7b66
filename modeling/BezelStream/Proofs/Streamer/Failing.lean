import BezelStream.Proofs.Radio.Failing
import BezelStream.Streamer

/-! # How streams over the radio fail

A stream over the radio fails only by failures that the program names itself, whatever
ordinary faults the list of adapters, the scanner and the clients end with. What becomes of a
fault of the scanner is known exactly.
-/

namespace BezelStream

open Op Radio

variable {σ ρ τ : Type}

/-- The program reports the fault under a name of its own. -/
def Fault.IsNamed (f : Fault) : Prop :=
  ∃ failure, f.failure? = some failure

theorem Fault.isNamed_of_isSession {f : Fault} (session : f.isSession) : f.IsNamed := by
  unfold isSession at session
  cases named : f.failure? with
  | none =>
      rw [named] at session
      cases session
  | some failure => exact ⟨failure, named⟩

theorem select_fails {target : CodePoints} {proposal : Proposal} {prompt : Prompt σ}
    {notifier : Notifier σ} (asks : prompt.Each Call.NeverFails)
    (tells : notifier.Each Call.NeverFails) (devices : List Device) :
    (select (ρ := ρ) target proposal prompt notifier devices).FailsOnly Fault.IsNamed := by
  unfold select
  split
  · exact .throw ⟨_, rfl⟩
  · exact .bind (.of_never (.tellWith tells _)) fun _ => .pure _
  · refine .bind (.of_never (.tellWith tells _)) fun _ => ?_
    refine .bind (.of_never (.tellAllWith tells _)) fun _ => ?_
    refine .bind (.of_never (.ask asks _ _)) fun answer => ?_
    split
    · exact .bind (.update _) fun _ => .pure _
    · exact .throw ⟨_, rfl⟩

theorem heed_never (adapter : String) {notifier : Notifier σ}
    (tells : notifier.Each Call.NeverFails) (signal : ScanSignal) :
    NeverFails (heed adapter (.inWords notifier) signal) := by
  intro p f failed
  rw [heed_eq] at failed
  dsimp only at failed
  split at failed
  · exact FailsOnly.tellWith tells _ _ f failed
  · cases failed

namespace Radio

variable {host : Host τ}

/-- A scan by radio ends as its scanner does, but for what its faults are to the program. -/
theorem scan_ends {notifier : Notifier (Machine τ)} (tells : notifier.Each Call.NeverFails)
    (connectTimeout : Binary64) (chosen : Chosen) (timeout : Binary64)
    (p : Progress (Machine τ) ρ) :
    ∃ devices, ((scan (host.working connectTimeout chosen) timeout (.inWords notifier)).runFrom
        p).1 =
      ((scannerEnding (heed chosen.name (.inWords notifier)) host.scanner timeout
        (p.scanning timeout)).mapError (scanFault chosen.name)).map fun _ => devices := by
  obtain ⟨signals, ending, r, runs, gives, -⟩ :=
    scan_gives (host.working connectTimeout chosen) timeout (.inWords notifier) p
  have fine (signal : ScanSignal) := (heed_never chosen.name tells signal).ends
  have ends := course_ends fine host.scanner chosen.name timeout (p.scanning timeout)
  have same : ending = _ := (congrArg Prod.fst runs.follow).symm.trans ends
  rw [same] at gives
  exact ⟨_, gives⟩

/-- A fault of the scanner is ordinary if the calls of it fail by ordinary faults only. -/
theorem scannerEnding_ordinary {handle : ScanSignal → Op (Machine τ) ρ Unit} {scanner : Scanner τ}
    (scans : scanner.Each (Call.FailsOnly (·.isOrdinary))) {timeout : Binary64}
    {p : Progress (Machine τ) ρ} {f : Fault}
    (failed : scannerEnding handle scanner timeout p = .error f) : f.isOrdinary := by
  unfold scannerEnding at failed
  cases started : (scanner.start p.env.host).1.result with
  | error g =>
      rw [started] at failed
      cases failed
      exact scans.start _ f started
  | ok =>
      rw [started] at failed
      exact scans.stop _ f failed

theorem scan_fails {notifier : Notifier (Machine τ)} (tells : notifier.Each Call.NeverFails)
    (scans : host.scanner.Each (Call.FailsOnly (·.isOrdinary))) (connectTimeout : Binary64)
    (chosen : Chosen) (timeout : Binary64) :
    (scan (ρ := ρ) (host.working connectTimeout chosen) timeout (.inWords notifier)).FailsOnly
      Fault.IsNamed := by
  intro p f failed
  obtain ⟨devices, ends⟩ := scan_ends tells connectTimeout chosen timeout p
  rw [ends] at failed
  cases ended : scannerEnding (heed chosen.name (.inWords notifier)) host.scanner timeout
      (p.scanning timeout) with
  | error g =>
      rw [ended] at failed
      cases failed
      exact ⟨_, failure_scanFault chosen.name (scannerEnding_ordinary scans ended)⟩
  | ok =>
      rw [ended] at failed
      cases failed

/-- Where the list of adapters is to be had, only choosing from it can fail. -/
theorem adapter_fails (lists : host.list.NeverFails) : host.adapter.FailsOnly Fault.IsNamed := by
  intro env f failed
  unfold Host.adapter at failed
  split at failed
  · have listed : (host.list.remarked (.command ["bluetoothctl", "list"])).NeverFails := lists
    replace listed := listed env
    dsimp only at failed
    generalize host.list.remarked (.command ["bluetoothctl", "list"]) env = reply at listed failed
    obtain ⟨⟨occurrences, result⟩, later⟩ := reply
    cases result with
    | error g => exact (listed g rfl).elim
    | ok listing => exact ⟨_, choose_fails failed⟩
  · cases failed

end Radio

namespace Streamer

variable {s : Streamer (Machine τ)} {host : Host τ}

theorem closeAdapter_never (chosen : Chosen) :
    NeverFails (closeAdapter (host.working s.config.connectTimeout chosen)) :=
  .called _ (.performWith (fun _ _ => nofun) _)

section

variable (locates : s.locate = host.locate)

include locates

/-- A streamer works with the adapter that was chosen at the host. -/
theorem findAdapter_gives (p : Progress (Machine τ) Unit) :
    (s.findAdapter.runFrom p).1 = (host.adapter p.env.host).1.result.map
      (host.working s.config.connectTimeout) := by
  rw [findAdapter, runFrom_called, locates]
  rfl

theorem working_of_findAdapter {p : Progress (Machine τ) Unit} {adapter : Adapter (Machine τ)}
    (found : (s.findAdapter.runFrom p).1 = .ok adapter) :
    ∃ chosen, adapter = host.working s.config.connectTimeout chosen := by
  rw [findAdapter_gives locates] at found
  cases choice : (host.adapter p.env.host).1.result with
  | error f =>
      rw [choice] at found
      cases found
  | ok chosen =>
      rw [choice] at found
      cases found
      exact ⟨chosen, rfl⟩

/-- A scan that fails is the end of a stream, for closing the adapter does not fail. -/
theorem stream_ends_of_scan {p : Progress (Machine τ) Unit} {chosen : Chosen} {f : Fault}
    (found : (host.adapter p.env.host).1.result = .ok chosen)
    (failed : ((s.scanWith (host.working s.config.connectTimeout chosen)).runFrom
      (s.findAdapter.runFrom p).2).1 = .error f) :
    (s.stream.runFrom p).1 = .error f := by
  let adapter := host.working s.config.connectTimeout chosen
  let located := (s.findAdapter.runFrom p).2
  have finds : s.findAdapter.runFrom p = (.ok adapter, located) := by
    refine Prod.ext ?_ rfl
    rw [findAdapter_gives locates, found]
    rfl
  have streamed : ((s.streamWith adapter).runFrom located).1 = .error f :=
    bind_error (bind_error failed _) _
  rw [stream, withAdapter, runFrom_bind, finds]
  exact (ensuring_never (closeAdapter_never chosen) _ _).trans streamed

variable (scans : host.scanner.Each (Call.FailsOnly (·.isOrdinary)))
  (serves : host.central.Each (Call.FailsOnly (·.isOrdinary)))
  (tells : s.notifier.Each Call.NeverFails) (asks : s.prompt.Each Call.NeverFails)
  (waits : s.wait.Each Call.NeverFails)

omit locates

include scans tells asks

theorem approach_fails (chosen : Chosen) :
    (s.approach (host.working s.config.connectTimeout chosen)).FailsOnly Fault.IsNamed := by
  refine .bind (scan_fails tells scans _ chosen _) fun devices => ?_
  split
  · exact .throw_bind ⟨_, rfl⟩ _
  · refine .bind (select_fails asks tells devices) fun device => ?_
    exact .bind (.of_never (.tellWith tells _)) fun _ => .pure device

include serves waits

theorem streamWith_fails (chosen : Chosen) :
    (s.streamWith (host.working s.config.connectTimeout chosen)).FailsOnly Fault.IsNamed := by
  refine .bind (approach_fails scans tells asks chosen) fun device => ?_
  let link : Link τ := ⟨device, host.central, host.platform, s.config.connectTimeout⟩
  have creates : NeverFails
      (createPeripheral (host.working s.config.connectTimeout chosen) device) :=
    .called _ (.performWith (fun _ _ => nofun) _)
  have gives (p : Progress (Machine τ) Unit) (peripheral : Peripheral (Machine τ))
      (created : ((createPeripheral (host.working s.config.connectTimeout chosen) device).runFrom
        p).1 = .ok peripheral) : peripheral.FailsPlainly := by
    cases created
    exact (Link.peripheral_fails serves : link.peripheral.FailsPlainly)
  refine .bind_of_gives (.of_never creates) gives fun peripheral plain => ?_
  have runs : ((s.sessionWith peripheral).run s.wait).FailsOnly Fault.IsNamed :=
    (Session.run_fails plain tells waits).imp fun _ => Fault.isNamed_of_isSession
  exact .bind (.within {} runs) fun _ => .bind (.of_never (.tellWith tells _)) fun _ => .pure _

include locates

/-- Whatever the list of adapters is, and whichever ordinary faults the scanner and the clients
    end with: if those who are told, asked and waited for do not fail, a stream gives a result or
    fails by a failure that the program names. A scanner that fails makes the stream fail: the
    adapter is not there if the radio is off, and otherwise the scan has failed. -/
theorem stream_fails_by_name (lists : host.list.NeverFails) (p : Progress (Machine τ) Unit) :
    let located := s.findAdapter.runFrom p
    let streamed := (s.stream.runFrom p).1
    (∀ f, streamed = .error f → f.IsNamed) ∧
      ∀ chosen f, (host.adapter p.env.host).1.result = .ok chosen →
        scannerEnding (heed chosen.name (.inWords s.notifier)) host.scanner s.config.scanTimeout
          (located.2.scanning s.config.scanTimeout) = .error f →
        streamed = .error (scanFault chosen.name f) ∧
          (scanFault chosen.name f).failure? = some (scanFailure f) := by
  intro located streamed
  constructor
  · have finds : s.findAdapter.FailsOnly Fault.IsNamed := by
      intro q f failed
      rw [findAdapter_gives locates] at failed
      cases found : (host.adapter q.env.host).1.result with
      | error g =>
          rw [found] at failed
          cases failed
          exact adapter_fails lists q.env.host f found
      | ok chosen =>
          rw [found] at failed
          cases failed
    refine FailsOnly.bind_of_gives finds (fun _ _ => working_of_findAdapter locates)
      (fun adapter working => ?_) p
    obtain ⟨chosen, rfl⟩ := working
    exact .ensuring (streamWith_fails scans serves tells asks waits chosen)
      (.of_never (closeAdapter_never chosen))
  · intro chosen f found failed
    refine ⟨stream_ends_of_scan locates found ?_,
      failure_scanFault chosen.name (scannerEnding_ordinary scans failed)⟩
    obtain ⟨devices, ends⟩ := scan_ends tells s.config.connectTimeout chosen s.config.scanTimeout
      located.2
    rw [failed] at ends
    exact ends

end

/-- A host whose radio is switched off while it scans. -/
def fadingHost : Host Unit :=
  { crowdedHost with
    scanner := { crowdedHost.scanner with stop := .fail (.radioOff "powered off") } }

/-- A streamer that takes what is proposed, tells nothing and does not wait. -/
def unattended (host : Host τ) : Streamer (Machine τ) where
  config := {}
  locate := host.locate
  sink := .print
  prompt := .acceptProposal
  wait := .custom (.pure ())
  notifier := .silent

/-- A radio that is switched off while it scans is an adapter that is not there. -/
theorem stream_fails_by_name_fading :
    let p : Progress (Machine Unit) Unit := ⟨⟨(), none, 0⟩, [], false, ()⟩
    let off : Fault := .radioOff "powered off"
    ((unattended fadingHost).stream.runFrom p).1 = .error (.adapterOff "default" off) ∧
      (Fault.adapterOff "default" off).failure? = some .adapterNotFound := by
  intro p off
  have scans : fadingHost.scanner.Each (Call.FailsOnly (·.isOrdinary)) := by
    refine ⟨fun _ _ => nofun, fun env f failed => ?_⟩
    cases failed
    rfl
  have serves : fadingHost.central.Each (Call.FailsOnly (·.isOrdinary)) :=
    ⟨fun _ _ _ => nofun, fun _ _ _ => nofun, fun _ _ _ => nofun, fun _ _ _ _ => nofun,
      fun _ _ _ _ => nofun⟩
  obtain ⟨-, scanned⟩ := stream_fails_by_name (s := unattended fadingHost) rfl scans serves trivial
    trivial (fun _ _ => nofun) (fun _ _ => nofun) p
  exact scanned defaultAdapter off rfl rfl

end Streamer

end BezelStream
