import BezelStream.Proofs.Session.Run

/-! # What a run yields

A run that returns a subscription has asked the peripheral for just this one: it is the only
subscribing that succeeded, and it was ended before the peripheral was disconnected.
-/

namespace BezelStream

@[simp] theorem exchanges_deeds (log : List Dealing) : exchanges (deeds log) = exchanges log := by
  induction log with
  | nil => rfl
  | cons d rest ih =>
      cases d with
      | exchange x => exact congrArg (x :: ·) ih
      | told | wait => exact ih

namespace Session

variable {σ : Type}

/-- The exchanges of a run that returned the subscription. -/
inductive Yields (subscription : Subscription) : List Exchange → Prop where
  | ended {opening : List Exchange} (opens : ∀ x ∈ opening, (Dealing.exchange x).Opens)
      (ending fault : Option Fault) :
      Yields subscription
        ((.connect, none) :: opening ++
          [(.subscribe subscription.service subscription.characteristic subscription.mode, none),
            (.unsubscribe subscription.service subscription.characteristic, ending),
            (.disconnect, fault)])

namespace Yields

variable {subscription : Subscription} {exchanged : List Exchange}

theorem subscribe_mem_iff (yields : Yields subscription exchanged)
    (service characteristic : String) (mode : SubscriptionMode) :
    (.subscribe service characteristic mode, none) ∈ exchanged ↔
      subscription = ⟨service, characteristic, mode⟩ := by
  cases yields with
  | @ended opening opens ending fault =>
      have unopened : (.subscribe service characteristic mode, none) ∉ opening := by
        intro member
        cases opens _ member
      obtain ⟨_, _, _⟩ := subscription
      simp [unopened, eq_comm]

theorem last (yields : Yields subscription exchanged) :
    ∃ fault, exchanged.getLast? = some (.disconnect, fault) := by
  cases yields with
  | ended opens ending fault =>
      refine ⟨fault, ?_⟩
      rw [List.getLast?_append]
      rfl

end Yields

theorem exchanges_opening {opening : List Dealing} (opens : ∀ d ∈ opening, d.Opens) :
    ∀ x ∈ exchanges opening, (Dealing.exchange x).Opens := by
  intro x member
  obtain ⟨d, opened, shown⟩ := List.mem_filterMap.mp member
  cases d with
  | exchange y =>
      cases shown
      exact opens _ opened
  | told | wait => cases shown

/-- What a body hands on is the subscription that is in force when it ends. -/
theorem held_of_body {wanted : String} {a b : Standing} {log : List Dealing}
    {subscription : Subscription} (body : Body wanted a log (.ok subscription) b) :
    b.subscription = some subscription := by
  cases body with
  | passed discovers rest =>
  cases rest with
  | passed locates rest =>
  cases rest with
  | passed subscribes streaming =>
  obtain ⟨-, rfl⟩ := waits_once streaming
  cases streaming with
  | passed tells rest =>
  cases rest with
  | passed waits gives =>
  cases gives with
  | given =>
  cases subscribes with
  | subscribed => rfl

theorem Streams.exchanged_opening {log : List Dealing} {result : Except Fault Subscription}
    {b : Standing} {subscription : Subscription} (streams : Streams log result b)
    (held : b.subscription = some subscription) :
    ∃ opening, (∀ x ∈ opening, (Dealing.exchange x).Opens) ∧
      exchanges log = opening ++
        [(.subscribe subscription.service subscription.characteristic subscription.mode,
          none)] := by
  cases streams with
  | unsubscribed opening live bare =>
      rw [bare] at held
      cases held
  | streamed shape opens once state also =>
      rw [also] at held
      cases held
      refine ⟨_, exchanges_opening opens, ?_⟩
      rw [← exchanges_deeds, shape, exchanges_append, exchanges_exchange]
      rcases once with rfl | rfl <;> rfl

/-- What is told in between is no exchange. -/
theorem Reports.exchanged {ending left : Option Fault} {told : List Dealing}
    (reports : Reports ending told left) (call : PeripheralCall) (last : Exchange) :
    exchanges (.exchange (call, ending) :: told ++ [.exchange last]) = [(call, ending), last] := by
  rw [List.cons_append, exchanges_exchange, exchanges_append, exchanges_words reports.words]
  rfl

theorem Closes.exchanged_ending {a b : Standing} {log : List Dealing}
    {result : Except Fault Unit} {subscription : Subscription} (closes : Closes a log result b)
    (live : ¬ a.Inert) (held : a.subscription = some subscription) :
    ∃ ending fault, exchanges log =
      [(.unsubscribe subscription.service subscription.characteristic, ending),
        (.disconnect, fault)] := by
  cases closes with
  | inert past => exact absurd past live
  | disconnected _ bare =>
      rw [bare] at held
      cases held
  | unsubscribed _ also report fault =>
      rw [also] at held
      cases held
      exact ⟨_, fault, report.exchanged _ _⟩

theorem yields_of_closes {wanted : String} {a b c : Standing} {streamed closing : List Dealing}
    {subscription : Subscription} {result : Except Fault Unit} (state : a.state = .connected)
    (bare : a.subscription = none) (body : Body wanted a streamed (.ok subscription) b)
    (closes : Closes b closing result c) :
    Yields subscription (exchanges (.exchange (.connect, none) :: (streamed ++ closing))) := by
  have held := held_of_body body
  have streams := streams_of_body state bare body
  have live : ¬ b.Inert := by
    cases streams with
    | streamed _ _ _ state => simp [Standing.Inert, state]
  obtain ⟨opening, opens, began⟩ := streams.exchanged_opening held
  obtain ⟨ending, fault, ended⟩ := closes.exchanged_ending live held
  rw [exchanges_exchange, exchanges_append, began, ended, List.append_assoc]
  exact .ended opens ending fault

/-- A run in a session that has not begun adds exchanges whose calls are all over when it
    ends, and they yield the subscription that it returns. -/
theorem run_yields (s : Session σ) (wait : StopWait σ) {p : Progress σ Lifecycle}
    (fresh : p.own = {}) :
    RunEnds (s.run wait) p fun result q => ∃ log, p.Adds log q ∧
      ∀ subscription, result = .ok subscription → Yields subscription (exchanges log) := by
  have idle : p.own.state = .idle := congrArg Lifecycle.state fresh
  refine .run ((s.connect_ends idle).imp fun result q connected => ?_)
  cases answered : (s.peripheral.connect p.env).1.result with
  | error f =>
      simp only [answered] at connected
      obtain ⟨rfl, stays⟩ := connected
      refine ⟨_, stays.adds, ?_⟩
      rintro subscription ⟨⟩
  | ok =>
      simp only [answered] at connected
      obtain ⟨rfl, connecting, standing⟩ := connected
      have state : q.own.standing.state = .connected := congrArg Standing.state standing
      have bare : q.own.standing.subscription = none := by
        rw [standing, fresh]
        rfl
      refine (s.body_does wait q).imp fun body r ⟨streamed, streaming, did⟩ => ?_
      refine (s.leave_closes (faultOf? body) r).imp fun left t ⟨_, closing, closes, closed⟩ => ?_
      refine ⟨_, connecting.trans (streaming.trans closes), ?_⟩
      intro subscription returned
      cases left with
      | error f => cases returned
      | ok =>
          change body = .ok subscription at returned
          subst returned
          rw [List.singleton_append]
          exact yields_of_closes state bare did closed

end Session

end BezelStream
