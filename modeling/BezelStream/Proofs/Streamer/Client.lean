import BezelStream.Proofs.Radio.Searching
import BezelStream.Proofs.Radio.Serving
import BezelStream.Proofs.Radio.Stopping
import BezelStream.Proofs.Streamer.Failing
import BezelStream.Proofs.Streamer.Release

/-! # The client of a stream

A stream over the radio makes one client at most, after its scan, and serves it: whatever fails
and however it fails, a client that was connected is disconnected once and last.
-/

namespace BezelStream

open Op Radio

variable {σ ρ τ : Type}

theorem Op.Searches.read_bind {α β : Type} {f : Progress (Machine τ) ρ → α}
    {next : α → Op (Machine τ) ρ β} {p : Progress (Machine τ) ρ} (searches : (next (f p)).Searches p) :
    (Op.read f >>= next).Searches p :=
  ⟨searches.line, searches.hears⟩

section Parts

variable {notifier : Notifier (Machine τ)} {prompt : Prompt (Machine τ)} {host : Host τ}
  (tells : notifier.Each Call.Apart)

include tells

theorem select_apart (asks : prompt.Each Call.Apart) (target : CodePoints) (proposal : Proposal)
    (devices : List Device) : (select (ρ := ρ) target proposal prompt notifier devices).Apart := by
  unfold select
  split
  · exact .throw _
  · exact .bind (.tell tells _) fun _ => .pure _
  · refine .bind (.tell tells _) fun _ => .bind (.tellAll tells _) fun _ => ?_
    refine .bind (.ask asks _ _) fun answer => ?_
    split
    · exact .bind (.note ⟨rfl, rfl⟩) fun _ => .pure _
    · exact .throw _

theorem heed_apart (adapter : String) (signal : ScanSignal) :
    (heed adapter (.inWords notifier) signal).Apart := by
  intro p
  rw [heed_eq]
  dsimp only
  have taken : p.Apart { p with own := p.own.after signal } := .own
  split
  · have logged : (recordOf adapter signal).OffAir := by cases signal <;> exact ⟨rfl, rfl⟩
    exact taken.trans ((Progress.Apart.note logged _).trans (Apart.tell tells _ _))
  · exact taken

theorem scan_searches (off : host.scanner.Each Call.OffAir) (connectTimeout : Binary64)
    (chosen : Chosen) (timeout : Binary64) (p : Progress (Machine τ) ρ) :
    (scan (host.working connectTimeout chosen) timeout (.inWords notifier)).Searches p := by
  refine .within (.read_bind ?_)
  have follows := course_searches (heed_apart tells chosen.name) off chosen.name timeout
    (p.scanning timeout)
  refine .bind (.called follows ⟨rfl, rfl⟩ fun _ => ⟨rfl, rfl⟩) fun _ => ?_
  exact .bind (.update fun p => .refl p) fun _ => .bind (.note ⟨rfl, rfl⟩) fun _ => .pure _

end Parts

namespace Streamer

variable {s : Streamer (Machine τ)} {host : Host τ}

/-- What is on the air of a stream, where so many clients were made before. -/
inductive Contacts (timeout : Binary64) (made : Nat) : List Event → Prop where
  | unlocated : Contacts timeout made []
  | searched {air : List Event} (searches : Searches air) : Contacts timeout made air
  /-- The client is made after the scan. -/
  | served {device : Device} {life : List Event} (served : Served made life) :
      Contacts timeout made (searched ++
        .radio (.client made (.create device.hasHandle device.address timeout)) :: life)

theorem locate_apart (lists : host.list.OffAir) (connectTimeout : Binary64) :
    (host.locate connectTimeout).Apart where
  line _ := rfl
  offAir m := by
    have listed := airedBy_remarked lists (.command ["bluetoothctl", "list"]) m.host
    have records (texts : List String) :
        airedBy (texts.map fun text => .noted (.log .debug text)) = [] := by
      refine List.filterMap_eq_nil_iff.mpr fun occurrence member => ?_
      obtain ⟨text, -, rfl⟩ := List.mem_map.mp member
      rfl
    change airedBy (host.adapter m.host).1.occurrences = []
    unfold Host.adapter
    split
    · dsimp only
      generalize host.list.remarked (.command ["bluetoothctl", "list"]) m.host = reply at listed ⊢
      obtain ⟨⟨occurrences, result⟩, later⟩ := reply
      cases result with
      | error f => exact listed
      | ok listing => exact (airedBy_append _ _).trans (by rw [listed, records]; rfl)
    · rfl

theorem createPeripheral_frees (chosen : Chosen) (device : Device) (p : Progress (Machine τ) Unit) :
    let created := ((createPeripheral (host.working s.config.connectTimeout chosen) device).runFrom
      p).2
    created.env = { p.env with held := none } ∧ p.Hears [] [] created := by
  intro created
  have begins : p.Apart (p.note (.adapter (.peripheral device))) := .note ⟨rfl, rfl⟩ p
  let freed : Progress (Machine τ) Unit :=
    { p.note (.adapter (.peripheral device)) with env := { p.env with held := none } }
  have ends : freed.Apart created := .note ⟨rfl, rfl⟩ freed
  have inside : p.Hears [] [] freed := ⟨begins.silent.exchanges, begins.silent.aired⟩
  exact ⟨rfl, inside.apart ends⟩

section

variable (scans : host.scanner.Each Call.OffAir) (serves : host.central.Each Call.OffAir)
  (tells : s.notifier.Each Call.Apart) (asks : s.prompt.Each Call.Apart)
  (waits : s.wait.Each Call.Apart) (accepts : s.sink.Apart)

include scans tells asks

theorem approach_searches (chosen : Chosen) (p : Progress (Machine τ) Unit) :
    (s.approach (host.working s.config.connectTimeout chosen)).Searches p := by
  refine .bind (scan_searches tells scans _ chosen _ p) fun devices => ?_
  split
  · exact .throw_bind _ _
  · refine .bind (select_apart tells asks _ _ devices) fun device => ?_
    exact .bind (.tell tells _) fun _ => .pure _

/-- A stream that was given a peripheral has searched, and holds no client. -/
theorem created_frees {chosen : Chosen} {device : Device} {p q : Progress (Machine τ) Unit}
    (approached : (s.approach (host.working s.config.connectTimeout chosen)).runFrom p =
      (.ok device, q)) :
    let created := ((createPeripheral (host.working s.config.connectTimeout chosen) device).runFrom
      q).2
    created.env.line = ⟨none, p.env.made⟩ ∧ p.Hears [] searched created := by
  intro created
  obtain ⟨line, air, hears, -, given⟩ := approach_searches scans tells asks chosen p
  rw [approached] at line hears given
  obtain ⟨env, frees⟩ := @createPeripheral_frees τ s host chosen device q
  rw [given device rfl] at hears
  have both := hears.trans frees
  rw [List.append_nil] at both
  refine ⟨?_, both⟩
  have made : q.env.made = p.env.made := congrArg Line.made line
  rw [env, ← made]
  rfl

include serves waits accepts

/-- What the session of a stream adds is one client that is made and served. -/
theorem session_contacts {chosen : Chosen} {device : Device} {peripheral : Peripheral (Machine τ)}
    {p q r : Progress (Machine τ) Unit}
    (approached : (s.approach (host.working s.config.connectTimeout chosen)).runFrom p =
      (.ok device, q))
    (created : (createPeripheral (host.working s.config.connectTimeout chosen) device).runFrom q =
      (.ok peripheral, r)) :
    ∃ exchanged air, p.Hears exchanged air
        (((s.sessionWith peripheral).run s.wait).runFrom (r.withOwn {})).2 ∧
      Contacts s.config.connectTimeout p.env.made air := by
  let link : Link τ := ⟨device, host.central, host.platform, s.config.connectTimeout⟩
  have linked : (s.sessionWith peripheral).peripheral = link.peripheral := by
    cases congrArg Prod.fst created
    rfl
  obtain ⟨line, before⟩ := created_frees scans tells asks approached
  rw [created] at line before
  obtain ⟨exchanged, life, served, hears⟩ := run_serves (p := r.withOwn {})
    (s := s.sessionWith peripheral) linked serves tells waits accepts rfl (congrArg Line.held line)
  have made : r.env.made = p.env.made := congrArg Line.made line
  rw [made] at served hears
  have searching : p.Hears [] searched (r.withOwn {} : Progress (Machine τ) Lifecycle) :=
    ⟨before.exchanges, before.aired⟩
  exact ⟨exchanged, _, searching.trans hears, .served served⟩

theorem StreamGoes.contacts {chosen : Chosen} {result : Except Fault StreamResult}
    {p q : Progress (Machine τ) Unit}
    (goes : s.StreamGoes (host.working s.config.connectTimeout chosen) p result q) :
    ∃ exchanged air, p.Hears exchanged air q ∧
      Contacts s.config.connectTimeout p.env.made air := by
  cases goes with
  | astray approached =>
      obtain ⟨-, air, hears, shape, -⟩ := approach_searches scans tells asks chosen p
      rw [approached] at hears
      exact ⟨[], air, hears, .searched shape⟩
  | refused approached refused =>
      obtain ⟨-, hears⟩ := created_frees scans tells asks approached
      rw [refused] at hears
      exact ⟨[], searched, hears, .searched .through⟩
  | broken approached created broken =>
      obtain ⟨exchanged, air, hears, contacts⟩ :=
        session_contacts scans serves tells asks waits accepts approached created
      rw [broken] at hears
      exact ⟨exchanged, air, ⟨hears.exchanges, hears.aired⟩, contacts⟩
  | @through _ _ _ _ _ _ _ t approached created ran told =>
      obtain ⟨exchanged, air, hears, contacts⟩ :=
        session_contacts scans serves tells asks waits accepts approached created
      rw [ran] at hears
      have farewell := Op.Apart.tell tells farewell (t.withOwn ())
      rw [told] at farewell
      have ended : p.Hears exchanged air (t.withOwn () : Progress (Machine τ) Unit) :=
        ⟨hears.exchanges, hears.aired⟩
      exact ⟨exchanged, air, ended.apart farewell, contacts⟩

/-- Whatever the radio does, and whatever those do who are told, asked and waited for, as long
    as these have nothing to do with the radio: a stream makes one client at most, with the
    timeout that is configured for connecting and after its scanner was stopped. A client that
    does not connect is not called again. One that does is disconnected once and last; values
    are started once at most, and stopped once at most, of the same characteristic, and only if
    they were started without a fault. -/
theorem stream_serves_client (locates : s.locate = host.locate) (lists : host.list.OffAir)
    (p : Progress (Machine τ) Unit) :
    ∃ air, Contacts s.config.connectTimeout p.env.made air ∧
      aired (s.stream.runFrom p).2.journal = aired p.journal ++ air := by
  have finds : s.findAdapter.Apart := by
    rw [findAdapter, locates]
    exact .called ⟨rfl, rfl⟩ (fun _ => ⟨rfl, rfl⟩) (.perform (locate_apart lists _))
  have found := finds p
  rw [stream, withAdapter, runFrom_bind]
  rcases located : s.findAdapter.runFrom p with ⟨f | adapter, q⟩ <;> rw [located] at found
  · exact ⟨[], .unlocated, found.silent.aired⟩
  · obtain ⟨chosen, rfl⟩ := working_of_findAdapter locates (congrArg Prod.fst located)
    obtain ⟨exchanged, air, hears, contacts⟩ :=
      (s.goes _ q).contacts scans serves tells asks waits accepts
    have closes : (closeAdapter (host.working s.config.connectTimeout chosen)).Apart :=
      .called ⟨rfl, rfl⟩ (fun _ => ⟨rfl, rfl⟩) (.perform ⟨fun _ => rfl, fun _ => rfl⟩)
    have made : q.env.made = p.env.made := congrArg Line.made found.line
    rw [made] at contacts
    refine ⟨air, contacts, ?_⟩
    dsimp only
    rw [ensuring_last]
    exact ((found.hears hears).apart (closes _)).aired

end

/-- A host with one panel, which notifies but does not stop notifying when asked to. -/
def panelHost : Host Unit :=
  { crowdedHost with
    scanner := ⟨.pure (), fun _ _ => ([⟨"AA", "SHB1000", "", []⟩], ()), .pure ()⟩
    central :=
      { crowdedHost.central with
        services := fun _ => .pure [⟨"180d", [⟨Config.characteristic {}, ["notify"]⟩]⟩]
        stopNotify := fun _ _ => .fail (.foreign "OSError" "stuck") } }

/-- An interrupt of the wait and a fault of stopping leave no client connected. -/
theorem stream_serves_client_interrupted :
    let s : Streamer (Machine Unit) :=
      { unattended panelHost with wait := .custom (.fail (.interrupt "KeyboardInterrupt" "")) }
    let p : Progress (Machine Unit) Unit := ⟨⟨(), none, 0⟩, [], false, ()⟩
    let uuid := s.config.characteristic
    (∃ air, Contacts s.config.connectTimeout 0 air ∧ aired (s.stream.runFrom p).2.journal = air) ∧
      radioCalls (s.stream.runFrom p).2.journal = [.startScan, .stopScan,
        .client 0 (.create true "AA" s.config.connectTimeout), .client 0 .connect,
        .client 0 (.startNotify uuid false), .client 0 (.stopNotify uuid),
        .client 0 .disconnect] := by
  intro s p uuid
  have silent {σ α : Type} (result : Except Fault α) :
      Call.OffAir (fun env : σ => (⟨[], result⟩, env)) := fun _ => rfl
  refine ⟨?_, by decide +kernel⟩
  exact @stream_serves_client Unit s panelHost ⟨silent _, silent _⟩
    ⟨fun _ => silent _, fun _ => silent _, fun _ => silent _, fun _ _ => silent _,
      fun _ _ => silent _⟩ trivial trivial ⟨fun _ => rfl, silent _⟩ trivial rfl (silent _) p

end Streamer

end BezelStream
