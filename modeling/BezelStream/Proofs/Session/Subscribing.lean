import BezelStream.Proofs.Session.Locating

/-! # Subscribing to what was located

A table is a snapshot, so a session that has located a pair asks for the services again before it
subscribes. What is listed then decides whether and how it subscribes, and what was listed before
does not. If the table has not changed, the very characteristic that was located decides.
-/

namespace BezelStream

/-- How a characteristic is subscribed to: by notifications only if it has no indications. -/
inductive Characteristic.SendsBy (c : Characteristic) : SubscriptionMode → Prop where
  | indications (can : c.canIndicate = true) : SendsBy c .indicate
  | notifications (can : c.canNotify = true) (only : c.canIndicate = false) : SendsBy c .notify

namespace Characteristic

theorem mode_eq_none_iff {c : Characteristic} :
    c.mode? = none ↔ c.canIndicate = false ∧ c.canNotify = false := by
  unfold mode?
  cases c.canIndicate <;> cases c.canNotify <;> simp

theorem mode_eq_some_iff {c : Characteristic} {mode : SubscriptionMode} :
    c.mode? = some mode ↔ c.SendsBy mode := by
  constructor
  · intro sends
    unfold mode? at sends
    split at sends
    · cases sends
      exact .indications ‹_›
    · split at sends
      · cases sends
        exact .notifications ‹_› (Bool.eq_false_iff.mpr ‹_›)
      · cases sends
  · rintro (can | ⟨can, only⟩)
    · rw [mode?, if_pos can]
    · rw [mode?, if_neg (Bool.eq_false_iff.mp only), if_pos can]

end Characteristic

/-- What is made a failure of a kind is one of that kind, unless it is an interrupt. -/
theorem Fault.asFailure_cases {failure : Failure} {wrap : Fault → Fault}
    (wraps : ∀ f, (wrap f).failure? = some failure) (f : Fault) :
    (f.asFailure failure wrap).failure? = some failure ∨
      f.isOrdinary = false ∧ f.asFailure failure wrap = f := by
  unfold asFailure
  by_cases same : f.failure? = some failure
  · exact .inl (by simp [same])
  · cases ordinary : f.isOrdinary with
    | true => exact .inl (by simp [same, wraps])
    | false => exact .inr ⟨rfl, by simp⟩

theorem Fault.failure_interrupt {f : Fault} (interrupt : f.isOrdinary = false) :
    f.failure? = none := by
  cases f <;> first | rfl | cases interrupt

namespace Session

/-- What subscribing to a pair comes to, by exchanges with the peripheral, if this characteristic is
    the one that counts. -/
inductive Takes (service characteristic : String) (c : Characteristic) :
    List Exchange → Except Fault Subscription → Prop where
  | mute (indicates : c.canIndicate = false) (notifies : c.canNotify = false) {f : Fault}
      (reported : f.failure? = some .unsupportedCharacteristic) :
      Takes service characteristic c [(.services, none)] (.error f)
  | failed {mode : SubscriptionMode} (sends : c.SendsBy mode) {f g : Fault}
      (reported : g.failure? = some .subscriptionFailed ∨ f.isOrdinary = false ∧ g = f) :
      Takes service characteristic c
        [(.services, none), (.subscribe service characteristic mode, some f)] (.error g)
  | subscribed {mode : SubscriptionMode} (sends : c.SendsBy mode) :
      Takes service characteristic c
        [(.services, none), (.subscribe service characteristic mode, none)]
        (.ok ⟨service, characteristic, mode⟩)

/-- What subscribing to a pair comes to, by exchanges with the peripheral, where it answers so when
    it is asked for its services again. -/
inductive LooksAgain (service characteristic : String) :
    Except Fault (List Service) → List Exchange → Except Fault Subscription → Prop where
  | unlisted {f g : Fault}
      (reported : g.failure? = some .serviceDiscoveryFailed ∨ f.isOrdinary = false ∧ g = f) :
      LooksAgain service characteristic (.error f) [(.services, some f)] (.error g)
  | gone {live : List Service}
      (absent : ∀ s ∈ live, ∀ c ∈ s.characteristics, ¬ WantedIn service characteristic s c)
      {f : Fault} (reported : f.failure? = some .characteristicNotFound) :
      LooksAgain service characteristic (.ok live) [(.services, none)] (.error f)
  | listed {live : List Service} (spot : Spot live)
      (first : spot.First (WantedIn service characteristic)) {asked : List Exchange}
      {result : Except Fault Subscription}
      (takes : Takes service characteristic spot.characteristic asked result) :
      LooksAgain service characteristic (.ok live) asked result

variable {σ : Type} {service characteristic : String} {a b : Standing} {log : List Dealing}
  {result : Except Fault Subscription}

theorem SubscribesTo.stored {answer : Except Fault (List Service)}
    (subscribes : SubscribesTo service characteristic a answer log result b)
    {subscription : Subscription} (ok : result = .ok subscription) :
    b.subscription = some subscription := by
  cases subscribes with
  | unlisted | gone | unfit | failed => cases ok
  | subscribed =>
      cases ok
      rfl

/-- If a look among the services of the name finds a characteristic, that one counts. -/
theorem SubscribesTo.takes {live : List Service} {s : Service} {c : Characteristic}
    (found : findCharacteristic? characteristic (servicesNamed service live) = some (s, c))
    (subscribes : SubscribesTo service characteristic a (.ok live) log result b) :
    Takes service characteristic c (exchanges log) result := by
  cases subscribes with
  | gone absent =>
      rw [absent] at found
      cases found
  | unfit again silent =>
      rw [again] at found
      cases found
      obtain ⟨indicates, notifies⟩ := Characteristic.mode_eq_none_iff.mp silent
      exact .mute indicates notifies rfl
  | failed again sends f =>
      rw [again] at found
      cases found
      have sends := Characteristic.mode_eq_some_iff.mp sends
      exact .failed sends (Fault.asFailure_cases (fun _ => rfl) f)
  | subscribed again sends =>
      rw [again] at found
      cases found
      exact .subscribed (Characteristic.mode_eq_some_iff.mp sends)

theorem SubscribesTo.looksAgain {answer : Except Fault (List Service)}
    (subscribes : SubscribesTo service characteristic a answer log result b) :
    LooksAgain service characteristic answer (exchanges log) result := by
  cases answer with
  | error f =>
      cases subscribes with
      | unlisted => exact .unlisted (Fault.asFailure_cases (fun _ => rfl) f)
  | ok live =>
      rcases findCharacteristic_named_cases service characteristic live with
        ⟨missing, absent⟩ | ⟨spot, first, found⟩
      · cases subscribes with
        | gone => exact .gone absent rfl
        | unfit found | failed found | subscribed found =>
            rw [missing] at found
            cases found
      · exact .listed spot first (subscribes.takes found)

theorem Takes.not_missing {c : Characteristic} {asked : List Exchange} {f : Fault}
    (takes : Takes service characteristic c asked (.error f)) :
    f.failure? ≠ some .characteristicNotFound := by
  cases takes with
  | mute _ _ reported => simp [reported]
  | failed _ reported =>
      rcases reported with reported | ⟨interrupt, rfl⟩
      · simp [reported]
      · simp [Fault.failure_interrupt interrupt]

variable (s : Session σ) {p : Progress σ Lifecycle}

/-- A session that has located a pair looks at the services again and subscribes as the first of
    that pair's names sends now. -/
theorem subscribe_looks_again (ready : p.own.state = .characteristicFound)
    (target : p.own.target = some (service, characteristic)) :
    let run := s.subscribe.runFrom p
    ∃ log, p.Adds log run.2 ∧
      LooksAgain service characteristic (s.peripheral.services p.env).1.result (exchanges log)
        run.1 ∧
      ∀ subscription, run.1 = .ok subscription → run.2.own.subscription = some subscription := by
  intro run
  obtain ⟨log, adds, subscribes⟩ := s.subscribe_ends ready target
  exact ⟨log, adds, subscribes.looksAgain, fun _ ok => subscribes.stored ok⟩

/-- A session that has just located a pair. -/
def located (service characteristic : String) : Progress Unit Lifecycle :=
  ⟨(), [], false, { state := .characteristicFound, target := some (service, characteristic) }⟩

/-- The service has changed its spelling since, and the characteristic its flags. The one of that
    name in another service does not count. -/
theorem subscribe_looks_again_changed :
    let live : List Service := [⟨"180f", [⟨"2a37", true, false⟩]⟩, ⟨"180d", [⟨"2a37", true, true⟩]⟩]
    let p := located "180D" "2A37"
    let run := (listingSession live "2a37").subscribe.runFrom p
    let log : List Dealing :=
      [.exchange (.services, none), .exchange (.subscribe "180D" "2A37" .indicate, none)]
    p.Adds log run.2 ∧ LooksAgain "180D" "2A37" (.ok live) (exchanges log) run.1 ∧
      run.2.own.subscription = some ⟨"180D", "2A37", .indicate⟩ := by
  intro live p run log
  have shape : dealings run.2.journal = log := by rfl
  obtain ⟨_, adds, looks, stored⟩ :=
    (listingSession live "2a37").subscribe_looks_again (p := p) rfl rfl
  obtain rfl := adds.dealings.symm.trans shape
  exact ⟨adds, looks, stored _ rfl⟩

/-! ## If nothing has changed -/

variable {services : List Service} {c : Characteristic} {holder : Service}

theorem located_of_found {s : Session σ} {p : Progress σ Lifecycle}
    (ready : p.own.state = .servicesDiscovered)
    (found : findCharacteristic? s.characteristic services = some (holder, c)) :
    RunEnds (s.locate services) p fun _ q =>
      q.own.state = .characteristicFound ∧ q.own.target = some (holder.uuid, c.uuid) := by
  refine (s.locate_does services p).imp fun result q located => ?_
  obtain ⟨log, -, locates⟩ := located
  generalize standing : q.own.standing = b at locates
  cases locates with
  | refused other => exact absurd ready other
  | missed _ absent =>
      rw [absent] at found
      cases found
  | located _ again =>
      rw [again] at found
      cases found
      exact ⟨congrArg Standing.state standing, congrArg Standing.target standing⟩

/-- What a look at a table finds, a look at the services of its service's name finds again at the
    same spot. So a session that has located it in a table that does not change afterwards never
    misses it, and subscribes as just this characteristic sends. -/
theorem subscribe_finds_located {wanted : String}
    (found : findCharacteristic? wanted services = some (holder, c)) :
    (∃ spot : Spot services, spot.service = holder ∧ spot.characteristic = c ∧
        (∀ other, other.First (Wanted wanted) ↔ other = spot) ∧
        ∀ other, other.First (Wanted spot.characteristic.uuid) ↔ other = spot.named) ∧
      findCharacteristic? c.uuid (servicesNamed holder.uuid services) = some (holder, c) ∧
      ∀ (s : Session σ) (o p : Progress σ Lifecycle), s.characteristic = wanted →
        o.own.state = .servicesDiscovered →
        p.own.standing = ((s.locate services).runFrom o).2.own.standing →
        (s.peripheral.services p.env).1.result = .ok services →
        let run := s.subscribe.runFrom p
        (∃ log, p.Adds log run.2 ∧ Takes holder.uuid c.uuid c (exchanges log) run.1) ∧
          ∀ f, run.1 = .error f → f.failure? ≠ some .characteristicNotFound := by
  refine ⟨?_, findCharacteristic_again found, ?_⟩
  · obtain ⟨spot, first, rfl, rfl⟩ := findCharacteristic_eq_some_iff.mp found
    exact ⟨spot, rfl, rfl, first.iff_eq, first.named.iff_eq⟩
  · rintro s o p rfl ready since unchanged run
    obtain ⟨state, target⟩ := located_of_found ready found
    have ready : p.own.state = .characteristicFound := (congrArg Standing.state since).trans state
    have target : p.own.target = some (holder.uuid, c.uuid) :=
      (congrArg Standing.target since).trans target
    obtain ⟨log, adds, subscribes⟩ := s.subscribe_ends ready target
    rw [unchanged] at subscribes
    have takes := subscribes.takes (findCharacteristic_again found)
    refine ⟨⟨log, adds, takes⟩, fun f failed => ?_⟩
    rw [failed] at takes
    exact takes.not_missing

/-- Both services have the name and both characteristics too. The first ones are found and found
    again, and it is their flags that count. -/
theorem subscribe_finds_located_first :
    let first : Characteristic := ⟨"2A37", true, false⟩
    let holder : Service := ⟨"180D", [⟨"2A38", false, true⟩, first]⟩
    let table : List Service := [holder, ⟨"180d", [⟨"2a37", false, true⟩]⟩]
    let s := listingSession table "2a37"
    let p := ((s.locate table).runFrom discovered).2
    findCharacteristic? "2a37" table = some (holder, first) ∧
      findCharacteristic? "2A37" (servicesNamed "180D" table) = some (holder, first) ∧
      ∃ log, p.Adds log (s.subscribe.runFrom p).2 ∧
        exchanges log = [(.services, none), (.subscribe "180D" "2A37" .notify, none)] ∧
        Takes "180D" "2A37" first (exchanges log) (s.subscribe.runFrom p).1 := by
  intro first holder table s p
  have found : findCharacteristic? "2a37" table = some (holder, first) := by decide +kernel
  have succeeds : (faultOf? (s.subscribe.runFrom p).1).isNone = true := by decide +kernel
  obtain ⟨-, again, subscribes⟩ := subscribe_finds_located found
  obtain ⟨⟨log, adds, takes⟩, -⟩ := subscribes s discovered p rfl rfl rfl rfl
  refine ⟨found, again, log, adds, ?_, takes⟩
  generalize exchanges log = asked at takes
  generalize (s.subscribe.runFrom p).1 = result at takes succeeds
  cases takes with
  | mute | failed => cases succeeds
  | subscribed sends =>
      cases sends with
      | indications can => cases can
      | notifications => rfl

end Session

end BezelStream
