import BezelStream.Proofs.Session.Run

/-! # Runs clean up

However a run ends, by a value or a fault of anyone, an interrupt included, it leaves
nothing behind: a session that was connected is disconnected once and last, and what was
subscribed to is unsubscribed once and just before.
-/

namespace BezelStream.Session

variable {σ : Type}

/-- The deeds of a run that connected. -/
inductive CleanRun : List Dealing → Prop where
  /-- No subscribing succeeded: nothing is waited for, and nothing unsubscribed. -/
  | unsubscribed {opening : List Dealing} (opens : ∀ d ∈ opening, d.Opens)
      (fault : Option Fault) :
      CleanRun (.exchange (.connect, none) :: opening ++ [.exchange (.disconnect, fault)])
  /-- Subscribing succeeded: the wait, if it was come to, lies between that and the one
      unsubscribing from the same characteristic. -/
  | streamed {opening waits : List Dealing} (opens : ∀ d ∈ opening, d.Opens)
      (service characteristic : String) (mode : SubscriptionMode)
      (once : waits = [] ∨ waits = [.wait .subscribed]) (ending fault : Option Fault) :
      CleanRun (.exchange (.connect, none) :: opening ++
        .exchange (.subscribe service characteristic mode, none) :: waits ++
        [.exchange (.unsubscribe service characteristic, ending),
          .exchange (.disconnect, fault)])

/-- Closing after the body cleans up what connecting and the body have done. -/
theorem clean_of_closes {streamed closing : List Dealing} {body : Except Fault Subscription}
    {a b : Standing} {result : Except Fault Unit} (streams : Streams streamed body a)
    (closes : Closes a closing result b) :
    CleanRun (.exchange (.connect, none) :: deeds (streamed ++ closing)) ∧
      b.state = .disconnected ∧ b.subscription = none := by
  rw [deeds_append]
  cases streams with
  | unsubscribed opening live bare f =>
      cases closes with
      | inert past => exact absurd past live
      | disconnected _ _ fault => exact ⟨.unsubscribed opening fault, rfl, bare⟩
      | unsubscribed _ held =>
          rw [bare] at held
          cases held
  | streamed shape opens once state held =>
      cases closes with
      | inert past => simp [Standing.Inert, state] at past
      | disconnected _ bare =>
          rw [bare] at held
          cases held
      | unsubscribed _ also report fault =>
          rw [held] at also
          cases also
          refine ⟨?_, rfl, rfl⟩
          rw [shape, deeds_append, deeds_exchange, deeds_words report.words, ← List.cons_append]
          exact .streamed opens _ _ _ once _ fault

/-- A run cleans up. If the peripheral does not connect, the session is as if it had not
    begun. Otherwise it ends disconnected and without a subscription, and what it did is
    clean. In both cases no call of the peripheral is left open. -/
theorem run_cleans_up (s : Session σ) (wait : StopWait σ) (env : σ) (requested : Bool) :
    RunEnds (s.run wait) (.fresh env requested) fun _ q =>
      calls q.journal = (exchanges (dealings q.journal)).map Prod.fst ∧
        match (s.peripheral.connect env).1.result with
        | .error f => q.own.state = .idle ∧ dealings q.journal = [.exchange (.connect, some f)]
        | .ok () => q.own.state = .disconnected ∧ q.own.subscription = none ∧
            CleanRun (deeds (dealings q.journal)) := by
  refine .run ((s.connect_ends rfl).imp fun result q connected => ?_)
  cases answered : (s.peripheral.connect env).1.result with
  | error f =>
      simp only [Progress.fresh, answered] at connected
      obtain ⟨rfl, stays⟩ := connected
      obtain ⟨log, asked⟩ := Progress.whole_of_adds stays.adds
      exact ⟨asked, congrArg Standing.state stays.standing, log⟩
  | ok =>
      simp only [Progress.fresh, answered] at connected
      obtain ⟨rfl, connecting, standing⟩ := connected
      refine (s.body_does wait q).imp fun body r ⟨streamed, streaming, did⟩ => ?_
      have streams := streams_of_body (congrArg Standing.state standing)
        (congrArg Standing.subscription standing) did
      refine (s.leave_closes (faultOf? body) r).imp fun left t ⟨_, closing, closes, closed⟩ => ?_
      obtain ⟨clean, state, bare⟩ := clean_of_closes streams closed
      obtain ⟨log, asked⟩ := Progress.whole_of_adds (connecting.trans (streaming.trans closes))
      refine ⟨asked, state, bare, ?_⟩
      rw [log]
      exact clean

end BezelStream.Session
