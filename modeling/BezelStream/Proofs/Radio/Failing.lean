import BezelStream.Proofs.Radio.Scan
import BezelStream.Proofs.Session.Failing

/-! # How the radio fails

Every ordinary fault of a client becomes a failure of sessions on its way through the link, and
every ordinary fault of the scanner the failure of the scan: an adapter that is off, or a scan
that failed. As long as the listener does not fail, a scan ends just as its scanner does.
-/

namespace BezelStream.Radio

open Course (Runs)

variable {τ ρ α : Type}

/-- All calls of clients are so. -/
structure Central.Each (holds : ∀ {α : Type}, Call τ α → Prop) (central : Central τ) : Prop where
  connect : ∀ client, holds (central.connect client)
  disconnect : ∀ client, holds (central.disconnect client)
  services : ∀ client, holds (central.services client)
  startNotify : ∀ client uuid, holds (central.startNotify client uuid)
  stopNotify : ∀ client uuid, holds (central.stopNotify client uuid)

structure Scanner.Each (holds : ∀ {α : Type}, Call τ α → Prop) (scanner : Scanner τ) : Prop where
  start : holds scanner.start
  stop : holds scanner.stop

theorem onHost_fails {kind : Fault → Prop} {call : Call τ α} (fails : call.FailsOnly kind)
    (event : RadioCall) : (onHost event call).FailsOnly kind :=
  fun m => fails m.host

/-! ## The link -/

namespace Link

variable {link : Link τ} {client : Client}

theorem wrapReply_session {wrap : Fault → Fault} {reply : Reply α} {f : Fault}
    (ordinary : ∀ g, reply.result = .error g → g.isOrdinary) (wraps : ∀ g, (wrap g).isSession)
    (failed : (wrapReply wrap reply).result = .error f) : f.isSession := by
  rw [wrapReply] at failed
  cases ended : reply.result with
  | error g =>
      rw [ended] at failed
      cases failed
      rw [Fault.wrapped, if_pos (ordinary g ended)]
      exact wraps g
  | ok a =>
      rw [ended] at failed
      cases failed

/-- Without a client a call fails as it is said to. -/
theorem withClient_fails {failure : Failure} {call : Client → Call (Machine τ) α}
    (own : failure.isSession) (fails : ∀ client, (call client).FailsOnly (·.isSession)) :
    (link.withClient failure call).FailsOnly (·.isSession) := by
  intro m f failed
  unfold withClient at failed
  split at failed
  case h_1 client held => exact fails client m f failed
  case h_2 =>
    cases failed
    exact own

theorem isOrdinary_of_resolve {table : List GattService} {service characteristic : String}
    {f : Fault} (failed : resolve table service characteristic = .error f) : f.isOrdinary := by
  unfold resolve at failed
  split at failed
  · cases failed
    rfl
  · split at failed <;> cases failed
    rfl

variable (ordinary : link.central.Each (Call.FailsOnly (·.isOrdinary)))

include ordinary

theorem table_fails (client : Client) : (link.table client).FailsOnly (·.isOrdinary) :=
  fun m => ordinary.services client m.host

theorem withCharacteristic_fails {service characteristic : String}
    {call : String → Call (Machine τ) Unit} (fails : ∀ uuid, (call uuid).FailsOnly (·.isOrdinary)) :
    (link.withCharacteristic client service characteristic call).FailsOnly (·.isOrdinary) := by
  intro m f failed
  have tables := table_fails ordinary client m
  unfold withCharacteristic at failed
  generalize link.table client m = listed at tables failed
  obtain ⟨⟨occurrences, result⟩, later⟩ := listed
  cases result with
  | error g =>
      cases failed
      exact tables f rfl
  | ok table =>
      cases found : resolve table service characteristic with
      | error g =>
          simp only [Except.bind, found] at failed
          cases failed
          exact isOrdinary_of_resolve found
      | ok characteristic =>
          simp only [Except.bind, found] at failed
          exact fails _ later f failed

theorem connect_fails : link.connect.FailsOnly (·.isSession) := by
  intro m f failed
  exact wrapReply_session (fun g => ordinary.connect _ _ g) (fun _ => rfl) failed

theorem disconnect_fails : link.disconnect.FailsOnly (·.isSession) := by
  intro m f failed
  unfold disconnect at failed
  split at failed
  case h_1 => cases failed
  case h_2 client held =>
    exact wrapReply_session (fun g => ordinary.disconnect client _ g) (fun _ => rfl) failed

theorem services_fails : link.services.FailsOnly (·.isSession) := by
  refine withClient_fails rfl fun client m f failed => ?_
  refine wrapReply_session (fun g unlisted => ?_) (fun _ => rfl) failed
  cases listed : (link.table client m).1.result with
  | error h =>
      simp only [listed] at unlisted
      cases unlisted
      exact table_fails ordinary client m _ listed
  | ok table =>
      simp only [listed] at unlisted
      cases unlisted

theorem subscribe_fails (service characteristic : String) (mode : SubscriptionMode) :
    (link.subscribe service characteristic mode).FailsOnly (·.isSession) := by
  refine withClient_fails rfl fun client m f failed => ?_
  have starts (uuid : String) := onHost_fails (ordinary.startNotify client uuid)
    (.client client.number (.startNotify uuid (link.insists mode)))
  exact wrapReply_session (withCharacteristic_fails ordinary starts m) (fun _ => rfl) failed

theorem unsubscribe_fails (service characteristic : String) :
    (link.unsubscribe service characteristic).FailsOnly (·.isSession) := by
  refine withClient_fails rfl fun client m f failed => ?_
  have stops (uuid : String) := onHost_fails (ordinary.stopNotify client uuid)
    (.client client.number (.stopNotify uuid))
  exact wrapReply_session (withCharacteristic_fails ordinary stops m) (fun _ => rfl) failed

/-- What a session needs of its peripheral to fail by failures of sessions only. -/
theorem peripheral_fails : link.peripheral.FailsPlainly where
  connect m f failed := Fault.isOrdinary_of_isSession (connect_fails ordinary m f failed)
  disconnect := disconnect_fails ordinary
  services m f failed := Fault.isOrdinary_of_isSession (services_fails ordinary m f failed)
  subscribe service characteristic mode m f failed :=
    Fault.isOrdinary_of_isSession (subscribe_fails ordinary service characteristic mode m f failed)
  unsubscribe service characteristic m f failed :=
    Fault.isOrdinary_of_isSession (unsubscribe_fails ordinary service characteristic m f failed)

end Link

/-! ## The scan -/

section Scan

variable {handle : ScanSignal → Op (Machine τ) ρ Unit}

/-- Where a scan has heard all advertisements and goes on from there. -/
def heardOut (handle : ScanSignal → Op (Machine τ) ρ Unit) (heard : List Advertisement)
    (unnamed : List Device) (p : Progress (Machine τ) ρ) : Progress (Machine τ) ρ :=
  (((hear (fun _ m => .ended [] (.ok ()) m) heard unnamed p.env).follow handle).runFrom p).2

/-- However the reports are taken, a scan hears all advertisements and then goes on. -/
theorem follow_hear (handle : ScanSignal → Op (Machine τ) ρ Unit)
    (next : List Device → Machine τ → Course (Machine τ))
    (heard : List Advertisement) (unnamed : List Device) (p : Progress (Machine τ) ρ) :
    ((hear next heard unnamed p.env).follow handle).runFrom p =
      let q := heardOut handle heard unnamed p
      ((next (kept (known heard) unnamed) q.env).follow handle).runFrom q := by
  unfold heardOut
  induction heard generalizing unnamed p with
  | nil => rfl
  | cons a others ih =>
      cases read : a.device with
      | error flaw =>
          rw [hear_unreadable read, hear_unreadable read, known_unreadable read]
          exact ih unnamed p
      | ok device =>
          rw [known_readable read, kept]
          cases waits : device.waits with
          | true =>
              rw [hear_waiting read waits, hear_waiting read waits, if_pos rfl]
              exact ih _ p
          | false =>
              rw [hear_reported read waits, hear_reported read waits, if_neg Bool.false_ne_true,
                Course.follow_gives, Course.follow_gives]
              exact ih _ _

/-- Where the scanner of a scan that started is asked to stop. -/
def stoppingAt (handle : ScanSignal → Op (Machine τ) ρ Unit) (scanner : Scanner τ)
    (timeout : Binary64) (p : Progress (Machine τ) ρ) : Progress (Machine τ) ρ :=
  let ready := begun handle scanner p
  let heard := scanner.advertisements timeout ready.env.host
  heardOut handle heard.1 [] { ready with env := { ready.env with host := heard.2 } }

/-- How the scanner of a scan ends: as it starts or, if it started, as it stops. -/
def scannerEnding (handle : ScanSignal → Op (Machine τ) ρ Unit) (scanner : Scanner τ)
    (timeout : Binary64) (p : Progress (Machine τ) ρ) : Except Fault Unit :=
  (scanner.start p.env.host).1.result.bind fun _ =>
    (scanner.stop (stoppingAt handle scanner timeout p).env.host).1.result

/-- How telling the listener of the start of a scan ends. -/
def heeding (handle : ScanSignal → Op (Machine τ) ρ Unit) (scanner : Scanner τ)
    (p : Progress (Machine τ) ρ) : Except Fault Unit :=
  let started := onHost .startScan scanner.start p.env
  ((handle .started).runFrom
    (Progress.takeIn { p with env := started.2 } started.1.occurrences)).1

/-- A scan whose scanner started hears everything. Then it comes to an end at once if the
    listener failed on being told of the start, and else by stopping the scanner. -/
theorem follow_course (handle : ScanSignal → Op (Machine τ) ρ Unit) {scanner : Scanner τ}
    (adapter : String) (timeout : Binary64)
    {p : Progress (Machine τ) ρ} (starts : (scanner.start p.env.host).1.result = .ok ()) :
    let q := stoppingAt handle scanner timeout p
    ∃ unnamed, ((course scanner adapter timeout p.env).follow handle).runFrom p =
      let ended : Except Fault Unit × Progress (Machine τ) ρ := match heeding handle scanner p with
        | .error f => (.error f, q)
        | .ok () => ((finish scanner unnamed q.env).follow handle).runFrom q
      (ended.1.mapError (scanFault adapter), ended.2) := by
  intro q
  let ready := begun handle scanner p
  let heard := scanner.advertisements timeout ready.env.host
  let hearing : Progress (Machine τ) ρ := { ready with env := { ready.env with host := heard.2 } }
  refine ⟨kept (known heard.1) [], ?_⟩
  have hears := follow_hear handle (fun unnamed m =>
    match heeding handle scanner p with
    | .error f => .ended [] (.error f) m
    | .ok () => finish scanner unnamed m) heard.1 [] hearing
  rw [Course.follow_of_env] at hears
  rw [course_started adapter timeout starts, follow_mapFault, Course.follow_gives]
  refine (congrArg (fun ended : Except Fault Unit × Progress (Machine τ) ρ =>
    (ended.1.mapError (scanFault adapter), ended.2)) hears).trans ?_
  dsimp only
  cases heeding handle scanner p <;> rfl

variable (fine : ∀ signal p, ((handle signal).runFrom p).1 = .ok ())

include fine

theorem finish_ends (scanner : Scanner τ) (unnamed : List Device) (p : Progress (Machine τ) ρ) :
    (((finish scanner unnamed p.env).follow handle).runFrom p).1 =
      (scanner.stop p.env.host).1.result := by
  cases ended : (scanner.stop p.env.host).1.result with
  | error f =>
      rw [finish_failed ended]
      rfl
  | ok =>
      let stopped := onHost .stopScan scanner.stop p.env
      let taken := Progress.takeIn { p with env := stopped.2 } stopped.1.occurrences
      obtain ⟨q, runs⟩ : GivesSignals handle (Course.meets unnamed conclude) taken _ (.ok ()) :=
        meets_gives fine (conclude_gives fine) taken
      have env : taken.env = stopped.2 := congrArg Progress.env (Progress.takeIn_env p _ _)
      rw [env] at runs
      rw [finish_stopped ended, follow_after stopped.2, runs.follow]

/-- A scan whose listener does not fail ends as its scanner does. -/
theorem course_ends (scanner : Scanner τ) (adapter : String) (timeout : Binary64)
    (p : Progress (Machine τ) ρ) :
    (((course scanner adapter timeout p.env).follow handle).runFrom p).1 =
      (scannerEnding handle scanner timeout p).mapError (scanFault adapter) := by
  unfold scannerEnding
  cases started : (scanner.start p.env.host).1.result with
  | error f =>
      rw [course_failed adapter timeout started, follow_mapFault]
      rfl
  | ok =>
      obtain ⟨unnamed, whole⟩ := follow_course handle adapter timeout started
      rw [whole, heeding, fine]
      exact congrArg (Except.mapError (scanFault adapter)) (finish_ends fine scanner unnamed _)

end Scan

/-- What a fault of the scanner is to the program. -/
def scanFailure : Fault → Failure
  | .radioOff _ => .adapterNotFound
  | _ => .scanFailed

theorem failure_scanFault (adapter : String) {f : Fault} (ordinary : f.isOrdinary) :
    (scanFault adapter f).failure? = some (scanFailure f) := by
  rw [scanFault, Fault.wrapped, if_pos ordinary]
  cases f <;> rfl

theorem choose_fails {listing : Option Listing} {f : Fault}
    (failed : (choose listing).2 = .error f) : f.failure? = some .adapterNotFound := by
  unfold choose at failed
  split at failed
  · cases failed
  · split at failed
    · cases failed
      rfl
    · split at failed <;> cases failed
      rfl

end BezelStream.Radio
