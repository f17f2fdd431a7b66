import BezelStream.Proofs.Session.Steps

/-! # Sessions do what their steps allow

Whatever the collaborators answer, a step comes to one of the outcomes that its relation
lists. A step is followed along its definition: `RunEnds` is what holds of its end and of
the progress there, and each way to compose operations has a rule.
-/

namespace BezelStream.Session

variable {σ α β : Type}

/-- From a point of a run, an operation ends so. -/
def RunEnds (x : Step σ α) (p : Progress σ Lifecycle)
    (post : Except Fault α → Progress σ Lifecycle → Prop) : Prop :=
  post (x.runFrom p).1 (x.runFrom p).2

/-- What has to hold where a step ended if the next one is still to come: a value is handed
    on to it, and a fault is the end. -/
abbrev EndsOrGoesOn (next : α → Step σ β) (post : Except Fault β → Progress σ Lifecycle → Prop) :
    Except Fault α → Progress σ Lifecycle → Prop
  | .ok a, q => RunEnds (next a) q post
  | .error f, q => post (.error f) q

/-- What has to hold where a step ended if another one runs in any case: a fault of that
    one hides how the first one ended. -/
def EndsFinally (last : Step σ Unit) (post : Except Fault α → Progress σ Lifecycle → Prop)
    (result : Except Fault α) (q : Progress σ Lifecycle) : Prop :=
  RunEnds last q fun ending r => post (ending.bind fun _ => result) r

namespace RunEnds

variable {x : Step σ α} {p : Progress σ Lifecycle}
  {post : Except Fault α → Progress σ Lifecycle → Prop}
  {final : Except Fault β → Progress σ Lifecycle → Prop}

theorem imp {weaker : Except Fault α → Progress σ Lifecycle → Prop} (ends : RunEnds x p post)
    (implies : ∀ result q, post result q → weaker result q) : RunEnds x p weaker :=
  implies _ _ ends

theorem both {more : Except Fault α → Progress σ Lifecycle → Prop} (one : RunEnds x p post)
    (other : RunEnds x p more) : RunEnds x p fun result q => post result q ∧ more result q :=
  ⟨one, other⟩

theorem bind {next : α → Step σ β} (ends : RunEnds x p (EndsOrGoesOn next final)) :
    RunEnds (x >>= next) p final := by
  unfold RunEnds at ends ⊢
  rw [Op.runFrom_bind]
  generalize x.runFrom p = run at ends ⊢
  rcases run with ⟨f | a, q⟩
  · exact ends
  · exact ends

/-- What a step gives may be dropped. -/
theorem drop {post : Progress σ Lifecycle → Prop} (ends : RunEnds x p fun _ q => post q) :
    RunEnds (x >>= fun _ => Pure.pure ()) p fun _ q => post q := by
  refine bind (ends.imp fun result q ended => ?_)
  cases result with
  | error f => exact ended
  | ok a => exact ended

theorem own_bind {next : Lifecycle → Step σ β} (ends : RunEnds (next p.own) p final) :
    RunEnds (Op.own >>= next) p final :=
  bind ends

theorem attempt_bind {next : Except Fault α → Step σ β}
    (ends : RunEnds x p fun result q => RunEnds (next result) q final) :
    RunEnds (x.attempt >>= next) p final :=
  bind ends

theorem ensuring {last : Step σ Unit} (ends : RunEnds x p (EndsFinally last post)) :
    RunEnds (x.ensuring last) p post := by
  unfold RunEnds at ends ⊢
  rw [Op.runFrom_ensuring]
  unfold EndsFinally RunEnds at ends
  generalize last.runFrom (x.runFrom p).2 = run at ends ⊢
  rcases run with ⟨f | _, q⟩
  · exact ends
  · exact ends

theorem update_bind {f : Lifecycle → Lifecycle} {next : Unit → Step σ β}
    (ends : RunEnds (next ()) { p with own := f p.own } final) :
    RunEnds (Op.updateOwn f >>= next) p final :=
  bind ends

theorem log_bind {level : Level} {source : LogSource} {text : String} {next : Unit → Step σ β}
    (ends : RunEnds (next ()) (p.note (.log level source text)) final) :
    RunEnds (Op.log level source text >>= next) p final :=
  bind ends

theorem pure {a : α} (ended : post (.ok a) p) : RunEnds (Pure.pure a) p post :=
  ended

theorem throw {f : Fault} (ended : post (.error f) p) : RunEnds (MonadExcept.throw f) p post :=
  ended

theorem log {level : Level} {source : LogSource} {text : String}
    {post : Except Fault Unit → Progress σ Lifecycle → Prop}
    (ended : post (.ok ()) (p.note (.log level source text))) :
    RunEnds (Op.log level source text) p post :=
  ended

/-- A call of the peripheral ends as the peripheral answers. -/
theorem answer {s : Session σ} {call : PeripheralCall} {answer : Call σ α}
    (answered : ∀ q, p.Stays [.exchange (call, faultOf? (answer p.env).1.result)] q →
      post (answer p.env).1.result q) :
    RunEnds (s.ask call answer) p post :=
  answered _ (s.ask_stays call answer p)

theorem ask {s : Session σ} {call : PeripheralCall} {answer : Call σ α}
    (answered : ∀ result q, p.Stays [.exchange (call, faultOf? result)] q → post result q) :
    RunEnds (s.ask call answer) p post :=
  .answer (answered _)

/-- A call that is made when the pump was started. -/
theorem pumped_bind {s : Session σ} {call : PeripheralCall} {answer : Call σ α}
    {next : Except Fault α → Step σ β}
    (answered : ∀ result q, p.Adds [.exchange (call, faultOf? result)] q →
      q.own.standing = { p.own.standing with running := true } → RunEnds (next result) q final) :
    RunEnds (s.startPump >>= fun _ => (s.ask call answer).attempt >>= next) p final := by
  have started := s.startPump_runs p
  refine bind (attempt_bind (ask fun result q asked => ?_))
  refine answered result q (started.1.trans asked.adds) ?_
  rw [asked.standing, started.2]

theorem stopPump_bind {s : Session σ} {next : Unit → Step σ β}
    (stopped : ∀ q, p.Adds [] q → q.own.standing = { p.own.standing with running := false } →
      RunEnds (next ()) q final) :
    RunEnds (s.stopPump >>= next) p final :=
  bind (stopped _ (s.stopPump_runs p).1 (s.stopPump_runs p).2)

/-- A step that fails may stop the pump before. -/
theorem stopPump_throw {s : Session σ} {stops : Bool} {f : Fault}
    (stopped : ∀ q, p.Adds [] q →
      q.own.standing = { p.own.standing with running := p.own.standing.running && !stops } →
      post (.error f) q) :
    RunEnds (do
      if stops then s.stopPump
      MonadExcept.throw f) p post := by
  cases stops with
  | true =>
      refine stopPump_bind fun q adds standing => throw (stopped q adds ?_)
      rw [standing, Bool.not_true, Bool.and_false]
  | false =>
      refine bind (pure (throw (stopped p (.refl p) ?_)))
      rw [Bool.not_false, Bool.and_true]

/-- A step that asks for a state goes on in that state only. -/
theorem require_bind {expected : SessionState} {next : Unit → Step σ β}
    (other : p.own.state ≠ expected → final (.error (.wrongState p.own.state expected)) p)
    (ready : p.own.state = expected → RunEnds (next ()) p final) :
    RunEnds (require expected >>= next) p final := by
  refine bind (own_bind ?_)
  by_cases same : p.own.state = expected
  · rw [if_neg (not_not_intro same)]
    exact pure (ready same)
  · rw [if_pos same]
    exact throw (other same)

theorem currentServices {s : Session σ}
    {post : Except Fault (List Service) → Progress σ Lifecycle → Prop}
    (failed : ∀ f q, p.Stays [.exchange (.services, some f)] q →
      post (.error (f.asFailure .serviceDiscoveryFailed .discovery)) q)
    (listed : ∀ services q, p.Stays [.exchange (.services, none)] q → post (.ok services) q) :
    RunEnds s.currentServices p post := by
  refine attempt_bind (ask fun result q asked => ?_)
  cases result with
  | error f => exact throw (failed f q asked)
  | ok services => exact pure (listed services q asked)

/-- Only someone outside can fail to be told. -/
theorem tell {s : Session σ} {text : String}
    {post : Except Fault Unit → Progress σ Lifecycle → Prop}
    (unheard : ∀ q, p.Stays [] q → post (.ok ()) q)
    (told : ∀ result q, p.Stays [.told text (faultOf? result)] q → post result q) :
    RunEnds (s.tell text) p post := by
  unfold Session.tell
  cases s.notifier with
  | silent => exact unheard p (.refl p)
  | log => exact unheard _ (.note ⟨rfl, rfl⟩ p)
  | custom call =>
      have inside : (p.note (.notice text)).Stays []
          ((Op.performWith s.receive (call text)).runFrom (p.note (.notice text))).2 :=
        performWith_stays s.receive_stays (call text) _
      exact told _ _ ⟨.told text _ inside.adds, inside.standing⟩

/-- Telling several texts ends with the first that fails. -/
theorem tellAll {s : Session σ} {texts : List String}
    {post : Except Fault Unit → Progress σ Lifecycle → Prop}
    (ended : ∀ log result q, (∀ d ∈ log, ∃ text fault, d = .told text fault) → p.Stays log q →
      post result q) :
    RunEnds (s.tellAll texts) p post := by
  induction texts generalizing p with
  | nil => exact ended [] (.ok ()) p (by simp) (.refl p)
  | cons text rest ih =>
      refine bind (tell (fun q stays => ih fun log result r words more => ?_)
        fun told q stays => ?_)
      · exact ended log result r words (stays.trans more)
      · cases told with
        | error f => exact ended _ (.error f) q (by simp) stays
        | ok =>
            refine ih fun log result r words more => ?_
            exact ended _ result r (by simpa using words) (stays.trans more)

end RunEnds

/-- From a point of a run, one of the outcomes has come about. -/
def ComesToOne (outcomes : Outcomes α) (p : Progress σ Lifecycle) (result : Except Fault α)
    (q : Progress σ Lifecycle) : Prop :=
  ∃ log, p.Adds log q ∧ outcomes p.own.standing log result q.own.standing

/-- Wherever a step begins, it comes to one of the outcomes. -/
def DoesOneOf (x : Step σ α) (outcomes : Outcomes α) : Prop :=
  ∀ p, RunEnds x p (ComesToOne outcomes p)

theorem RunEnds.in_turn {x : Step σ α} {next : α → Step σ β} {p : Progress σ Lifecycle}
    {first : Outcomes α} {second : α → Outcomes β} (ends : RunEnds x p (ComesToOne first p))
    (does : ∀ a, DoesOneOf (next a) (second a)) :
    RunEnds (x >>= next) p (ComesToOne (InTurn first second) p) := by
  refine .bind (ends.imp fun result q came => ?_)
  obtain ⟨log, adds, outcome⟩ := came
  cases result with
  | error f => exact ⟨log, adds, .failed outcome⟩
  | ok a =>
      refine (does a q).imp fun result r came => ?_
      obtain ⟨more, moreAdds, ended⟩ := came
      exact ⟨log ++ more, adds.trans moreAdds, .passed outcome ended⟩

theorem tell_does (s : Session σ) (text : String) : DoesOneOf (s.tell text) Tells := by
  intro p
  refine .tell (fun q stays => ⟨_, stays.adds, ?_⟩) fun result q stays => ⟨_, stays.adds, ?_⟩
  · rw [stays.standing]
    exact .unheard
  · rw [stays.standing]
    exact .told text result

theorem wait_comes (s : Session σ) (wait : StopWait σ) (p : Progress σ Lifecycle) :
    RunEnds (Op.called (.wait p.own.state) (wait.run s.receive)) p (ComesToOne Waits p) := by
  have waited := s.wait_stays wait p
  refine ⟨_, waited.adds, ?_⟩
  rw [waited.standing]
  exact .waited _

/-- A session that has not begun is connected if the peripheral says so. -/
theorem connect_ends (s : Session σ) {p : Progress σ Lifecycle} (idle : p.own.state = .idle) :
    RunEnds s.connect p fun result q =>
      match (s.peripheral.connect p.env).1.result with
      | .error f => result = .error (f.asFailure .connectionFailed .connection) ∧
          p.Stays [.exchange (.connect, some f)] q
      | .ok () => result = .ok () ∧ p.Adds [.exchange (.connect, none)] q ∧
          q.own.standing = { p.own.standing with state := .connected } := by
  refine .own_bind ?_
  rw [if_neg (not_not_intro idle)]
  refine .attempt_bind (.answer fun q asked => ?_)
  cases answered : (s.peripheral.connect p.env).1.result with
  | error f =>
      rw [answered] at asked
      exact .throw ⟨rfl, asked⟩
  | ok =>
      rw [answered] at asked
      refine .update_bind (.log ⟨rfl, asked.adds.moved.noted ⟨rfl, rfl⟩, ?_⟩)
      rw [← asked.standing]
      rfl

theorem connect_does (s : Session σ) : DoesOneOf s.connect Connects := by
  intro p
  by_cases idle : p.own.state = .idle
  · refine (s.connect_ends idle).imp fun result q connected => ?_
    cases answered : (s.peripheral.connect p.env).1.result with
    | error f =>
        rw [answered] at connected
        obtain ⟨rfl, stays⟩ := connected
        refine ⟨_, stays.adds, ?_⟩
        rw [stays.standing]
        exact .failed idle f
    | ok =>
        rw [answered] at connected
        obtain ⟨rfl, adds, standing⟩ := connected
        refine ⟨_, adds, ?_⟩
        rw [standing]
        exact .connected idle
  · refine .own_bind ?_
    rw [if_pos idle]
    exact .bind (.throw ⟨[], .refl p, .refused idle⟩)

theorem discover_does (s : Session σ) : DoesOneOf s.discover Discovers := by
  intro p
  refine .require_bind (fun other => ⟨[], .refl p, .refused other⟩) fun ready => ?_
  refine .bind (.currentServices (fun f q asked => ?_) fun services q asked => ?_)
  · refine ⟨_, asked.adds, ?_⟩
    rw [asked.standing]
    exact .failed ready f
  · refine .update_bind ?_
    refine .log_bind (.pure ?_)
    refine ⟨_, asked.adds.moved.noted ⟨rfl, rfl⟩, ?_⟩
    change Discovers _ _ _ { q.own.standing with state := .servicesDiscovered }
    rw [asked.standing]
    exact .discovered ready services

theorem locate_does (s : Session σ) (services : List Service) :
    DoesOneOf (s.locate services) (Locates s.characteristic services) := by
  intro p
  refine .require_bind (fun other => ⟨[], .refl p, .refused other⟩) fun ready => ?_
  cases found : findCharacteristic? s.characteristic services with
  | some pair =>
      obtain ⟨service, characteristic⟩ := pair
      refine .update_bind (.log_bind (.pure ?_))
      exact ⟨[], (Progress.Adds.refl p).moved.noted ⟨rfl, rfl⟩, .located ready found⟩
  | none =>
      have missed (f : Fault) (told : List Dealing) (q : Progress σ Lifecycle)
          (words : ∀ d ∈ told, ∃ text fault, d = .told text fault) (stays : p.Stays told q) :
          ComesToOne (Locates s.characteristic services) p (.error f) q := by
        refine ⟨told, stays.adds, ?_⟩
        rw [stays.standing]
        exact .missed ready found told words f
      by_cases shown : s.diagnostics
      · rw [if_pos shown]
        have listed (told : List Dealing) (q : Progress σ Lifecycle)
            (words : ∀ d ∈ told, ∃ text fault, d = .told text fault) (stays : p.Stays told q) :
            RunEnds (do
                s.tellAll (describe services)
                throw (.characteristicMissing s.characteristic)) q
              (ComesToOne (Locates s.characteristic services) p) := by
          refine .bind (.tellAll fun more result r moreWords lists => ?_)
          have all : ∀ d ∈ told ++ more, ∃ text fault, d = .told text fault :=
            fun d member => (List.mem_append.mp member).elim (words d) (moreWords d)
          cases result with
          | ok => exact .throw (missed _ _ r all (stays.trans lists))
          | error f => exact missed f _ r all (stays.trans lists)
        refine .bind (.tell (fun q stays => listed [] q (by simp) stays) fun told q stays => ?_)
        cases told with
        | ok => exact listed _ q (by simp) stays
        | error f => exact missed f _ q (by simp) stays
      · rw [if_neg shown]
        exact .bind (.pure (.throw (missed _ [] p (by simp) (.refl p))))

/-- What a session subscribes to depends on what its peripheral lists when asked again. -/
theorem subscribe_ends (s : Session σ) {p : Progress σ Lifecycle} {service characteristic : String}
    (ready : p.own.state = .characteristicFound)
    (target : p.own.target = some (service, characteristic)) :
    RunEnds s.subscribe p fun result q => ∃ log, p.Adds log q ∧
      SubscribesTo service characteristic p.own.standing (s.peripheral.services p.env).1.result
        log result q.own.standing := by
  refine .require_bind (fun other => absurd ready other) fun _ => .own_bind ?_
  rw [target]
  refine .bind (.attempt_bind (.answer fun q asked => ?_))
  cases answered : (s.peripheral.services p.env).1.result with
  | error f =>
      rw [answered] at asked
      refine .throw ⟨_, asked.adds, ?_⟩
      rw [asked.standing]
      exact .unlisted f
  | ok live =>
      rw [answered] at asked
      refine .pure ?_
      dsimp only [EndsOrGoesOn]
      cases found : findCharacteristic? characteristic (servicesNamed service live) with
      | none =>
          refine .throw ⟨_, asked.adds, ?_⟩
          rw [asked.standing]
          exact .gone found
      | some pair =>
          obtain ⟨_, c⟩ := pair
          dsimp only
          cases sends : c.mode? with
          | none =>
              refine .throw ⟨_, asked.adds, ?_⟩
              rw [asked.standing]
              exact .unfit found sends
          | some mode =>
              -- From here on the pump runs, and only an ordinary fault stops it again.
              refine .pumped_bind fun result r subscribing standing => ?_
              have adds := asked.adds.trans subscribing
              rw [asked.standing] at standing
              cases result with
              | ok =>
                  refine .update_bind (.log_bind (.pure ?_))
                  refine ⟨_, adds.moved.noted ⟨rfl, rfl⟩, ?_⟩
                  change SubscribesTo service characteristic _ _ _ _
                    { r.own.standing with
                      state := .subscribed
                      subscription := some ⟨service, characteristic, mode⟩ }
                  rw [standing]
                  exact .subscribed found sends
              | error f =>
                  refine .stopPump_throw fun t stops stopped => ?_
                  refine ⟨_, adds.trans stops, ?_⟩
                  rw [stopped, standing]
                  exact .failed found sends f

/-- Unless a pair was located before, subscribing does nothing. -/
theorem subscribe_cases (s : Session σ) (p : Progress σ Lifecycle) :
    RunEnds s.subscribe p fun result q =>
      (q = p ∧ Subscribes p.own.standing [] result p.own.standing) ∨
        ∃ service characteristic log, p.own.state = .characteristicFound ∧
          p.own.target = some (service, characteristic) ∧ p.Adds log q ∧
          SubscribesTo service characteristic p.own.standing (s.peripheral.services p.env).1.result
            log result q.own.standing := by
  by_cases ready : p.own.state = .characteristicFound
  · cases target : p.own.target with
    | none =>
        refine .require_bind (fun other => absurd ready other) fun _ => .own_bind ?_
        rw [target]
        exact .throw (.inl ⟨rfl, .unlocated ready target⟩)
    | some pair =>
        refine (s.subscribe_ends ready target).imp fun result q subscribes => ?_
        obtain ⟨log, adds, subscribes⟩ := subscribes
        exact .inr ⟨_, _, log, ready, rfl, adds, subscribes⟩
  · exact .require_bind (fun other => .inl ⟨rfl, .refused other⟩) fun same => absurd same ready

theorem subscribe_does (s : Session σ) : DoesOneOf s.subscribe Subscribes := by
  refine fun p => (s.subscribe_cases p).imp fun result q ends => ?_
  obtain ⟨rfl, nothing⟩ | ⟨_, _, log, ready, target, adds, subscribes⟩ := ends
  · exact ⟨[], .refl q, nothing⟩
  · exact ⟨log, adds, subscribes.subscribes ready target⟩

theorem unsubscribe_reports (s : Session σ) (subscription : Subscription)
    (p : Progress σ Lifecycle) :
    RunEnds (s.unsubscribe subscription) p fun result q =>
      ∃ ending told left, Reports ending told left ∧ result = endedWith left ∧
        p.Stays (.exchange (.unsubscribe subscription.service subscription.characteristic, ending)
          :: told) q := by
  refine .attempt_bind (.ask fun result q asked => ?_)
  cases result with
  | ok => exact .pure ⟨none, [], none, .ended, rfl, asked⟩
  | error f =>
      dsimp only
      cases ordinary : f.isOrdinary with
      | false =>
          rw [if_neg Bool.false_ne_true]
          exact .throw ⟨some f, [], some f, .interrupted ordinary, rfl, asked⟩
      | true =>
          rw [if_pos rfl]
          have logged {more : List Dealing} {level : Level} {text : String}
              {r : Progress σ Lifecycle} (stays : (q.note (.log level .session text)).Stays more r) :
              p.Stays (.exchange (.unsubscribe subscription.service subscription.characteristic,
                some f) :: more) r :=
            asked.trans ((Progress.Stays.note ⟨rfl, rfl⟩ q).trans stays)
          refine .log_bind (.tell (fun r stays => ?_) fun told r stays => ?_)
          · exact ⟨some f, [], none, .unheard ordinary, rfl, logged stays⟩
          · have report := Reports.told ordinary (faultOf? told)
            cases told with
            | ok => exact ⟨some f, _, none, report, rfl, logged stays⟩
            | error g => exact ⟨some f, _, some g, report, rfl, logged stays⟩

theorem endSubscription_reports (s : Session σ) {subscription : Subscription}
    {p : Progress σ Lifecycle} (held : p.own.subscription = some subscription) :
    RunEnds s.endSubscription p fun result q =>
      ∃ ending told left, Reports ending told left ∧ result = endedWith left ∧
        p.Adds (.exchange (.unsubscribe subscription.service subscription.characteristic, ending)
          :: told) q ∧
        q.own.standing =
          { p.own.standing with
            state := .unsubscribing, subscription := none, running := false } := by
  refine .own_bind ?_
  rw [held]
  refine .update_bind (.ensuring ?_)
  refine (s.unsubscribe_reports subscription _).imp ?_
  rintro result q ⟨ending, told, left, report, ended, stays⟩
  -- Whatever the peripheral answered, the pump stops and the subscription is let go.
  refine .stopPump_bind fun r stops stopped => ?_
  have begun : p.Adds [] { p with own := { p.own with state := .unsubscribing } } :=
    (Progress.Adds.refl p).moved
  have adds := (begun.trans stays.adds).trans stops
  rw [List.append_nil] at adds
  refine ⟨ending, told, left, report, ?_, adds.moved, ?_⟩
  · exact ended
  · change { r.own.standing with subscription := none } = _
    rw [stopped, stays.standing]
    rfl

theorem disconnect_ends (s : Session σ) {p : Progress σ Lifecycle} :
    RunEnds s.disconnect p fun result q =>
      ∃ fault, result = endedWith fault ∧ p.Adds [.exchange (.disconnect, fault)] q ∧
        q.own.standing = { p.own.standing with state := .disconnected } := by
  refine .update_bind (.bind (.ask fun result q asked => ?_))
  have adds := (Progress.Adds.refl p).moved.trans asked.adds
  cases result with
  | error f => exact ⟨some f, rfl, adds, asked.standing⟩
  | ok => exact .log ⟨none, rfl, adds.noted ⟨rfl, rfl⟩, asked.standing⟩

theorem close_does (s : Session σ) : DoesOneOf s.close Closes := by
  intro p
  refine .own_bind ?_
  by_cases past : p.own.state = .idle ∨ p.own.state = .disconnected
  · rw [if_pos past]
    exact .pure ⟨[], .refl p, .inert past⟩
  · have live : ¬ p.own.standing.Inert := past
    rw [if_neg past]
    refine .ensuring ?_
    cases held : p.own.subscription with
    | none =>
        refine .own_bind ?_
        rw [held]
        refine .pure (s.disconnect_ends.imp ?_)
        rintro result q ⟨fault, rfl, adds, standing⟩
        refine ⟨_, adds, ?_⟩
        rw [standing]
        have closed : Closes p.own.standing _ _ _ := .disconnected live held fault
        cases fault with
        | none => exact closed
        | some f => exact closed
    | some subscription =>
        refine (s.endSubscription_reports held).imp ?_
        rintro result q ⟨ending, told, left, report, rfl, unsubscribed, between⟩
        refine s.disconnect_ends.imp ?_
        rintro result r ⟨fault, rfl, adds, standing⟩
        refine ⟨_, unsubscribed.trans adds, ?_⟩
        rw [standing, between]
        have closed : Closes p.own.standing _ _ _ := .unsubscribed live held report fault
        cases fault with
        | none => exact closed
        | some f => exact closed

end BezelStream.Session
