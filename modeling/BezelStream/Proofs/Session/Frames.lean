import BezelStream.Proofs.Payload.Flow
import BezelStream.Proofs.Session.Abreast
import BezelStream.Proofs.Session.Consumer
import BezelStream.Proofs.Session.Discipline
import BezelStream.Proofs.Session.Outcome

/-! # Frames in a session

Whatever is done with a session, its frames stay in order and none is lost. What has
arrived was all handed on while the session is subscribed, where subscribing has failed,
and where a subscribed session asks to be disconnected; after that nothing is handed on.
-/

namespace BezelStream

variable {σ : Type}

/-- The frames of a session flow, and none waits while its pump runs. -/
structure Progress.InFlow (p : Progress σ Lifecycle) : Prop where
  flows : Flows p.own.pump.queue p.journal
  drained : p.own.pump.running = true → p.own.pump.queue = []

namespace Session

open Op
open Progress (InFlow One)

/-! ## The flow is kept -/

theorem notes_inFlow {event : Event} (still : event.Still) :
    Notes (One (InFlow (σ := σ))) event := by
  rintro p q ⟨rfl, inFlow⟩
  exact ⟨rfl, inFlow.flows.note still, inFlow.drained⟩

theorem journals_inFlow {event : Event} (still : event.Still) :
    Journals (One (InFlow (σ := σ))) event :=
  ⟨notes_inFlow still, fun _ => notes_inFlow ⟨rfl, rfl⟩⟩

theorem receive_inFlow (s : Session σ) (frame : Frame) {p : Progress σ Lifecycle}
    (inFlow : p.InFlow) : (s.receive frame p).InFlow where
  flows := by
    have arrives : Flows (p.own.pump.queue ++ [frame]) (p.note (.arrived frame)).journal :=
      inFlow.flows.arrive
    exact Pump.flows_drain s.sink arrives
  drained := by
    intro running
    rw [receive, Pump.submit, Pump.running_drain] at running
    exact Pump.drain_empties s.sink _ running

theorem startPump_inFlow (s : Session σ) {p : Progress σ Lifecycle} (inFlow : p.InFlow) :
    (s.startPump.runFrom p).2.InFlow := by
  let pump : Pump := { p.own.pump with running := true }
  have flows : Flows pump.queue p.journal := inFlow.flows
  have drained : (pump.drain s.sink p).1.queue = [] := Pump.drain_empties s.sink p rfl
  exact ⟨Pump.flows_drain s.sink flows, fun _ => drained⟩

theorem stopPump_inFlow (s : Session σ) {p : Progress σ Lifecycle} (inFlow : p.InFlow) :
    (s.stopPump.runFrom p).2.InFlow where
  flows := Pump.flows_drain s.sink inFlow.flows
  drained := fun running => Bool.noConfusion running

theorem paired_inFlow (s : Session σ) : Paired s s.sink (One InFlow) where
  env related := congrArg Progress.env related.1
  requested related := congrArg Progress.stopRequested related.1
  own related := congrArg Progress.own related.1
  answers := by
    rintro p q ⟨rfl, inFlow⟩ env
    exact ⟨rfl, inFlow.flows, inFlow.drained⟩
  requests := by
    rintro p q ⟨rfl, inFlow⟩
    exact ⟨rfl, inFlow.flows.note ⟨rfl, rfl⟩, inFlow.drained⟩
  remarks remark := notes_inFlow remark.still
  logs _ _ _ _ := notes_inFlow ⟨rfl, rfl⟩
  calls call := journals_inFlow ⟨rfl, rfl⟩
  conveys _ := ⟨journals_inFlow ⟨rfl, rfl⟩, notes_inFlow ⟨rfl, rfl⟩⟩
  waiting state := journals_inFlow ⟨rfl, rfl⟩
  releases := by
    rintro p q ⟨rfl, inFlow⟩
    exact ⟨rfl, inFlow.flows.note ⟨rfl, rfl⟩, inFlow.drained⟩
  moves := by
    rintro p q ⟨rfl, inFlow⟩ f pump
    refine ⟨rfl, ?_, ?_⟩
    · dsimp only
      rw [pump]
      exact inFlow.flows
    · dsimp only
      rw [pump]
      exact inFlow.drained
  receives := by
    rintro frame p q ⟨rfl, inFlow⟩
    exact ⟨rfl, receive_inFlow s frame inFlow⟩
  starts := by
    rintro p q ⟨rfl, inFlow⟩
    exact ⟨rfl, rfl, startPump_inFlow s inFlow⟩
  stops := by
    rintro p q ⟨rfl, inFlow⟩
    exact ⟨rfl, rfl, stopPump_inFlow s inFlow⟩

/-! ## Where nothing waits -/

theorem stopPump_empties (s : Session σ) {p : Progress σ Lifecycle}
    (running : p.own.pump.running = true) : (s.stopPump.runFrom p).2.own.pump.queue = [] :=
  Pump.drain_empties s.sink p running

/-- The pump does not run at the end, and from one point to the other nothing was handed on. -/
structure Idles (p q : Progress σ Lifecycle) : Prop where
  rests : q.own.pump.running = false
  silent : ∃ more, q.journal = p.journal ++ more ∧ handed more = []

namespace Idles

variable {p q r : Progress σ Lifecycle}

theorem refl (rests : p.own.pump.running = false) : Idles p p :=
  ⟨rests, [], (List.append_nil _).symm, rfl⟩

theorem trans (first : Idles p q) (second : Idles q r) : Idles p r := by
  obtain ⟨left, leftAdds, leftSilent⟩ := first.silent
  obtain ⟨right, rightAdds, rightSilent⟩ := second.silent
  refine ⟨second.rests, left ++ right, ?_, ?_⟩
  · rw [rightAdds, leftAdds, List.append_assoc]
  · rw [handed_append, leftSilent, rightSilent, List.nil_append]

theorem note (idles : Idles p q) {event : Event} (still : event.Still) :
    Idles p (q.note event) := by
  refine idles.trans ⟨idles.rests, [event], rfl, handed_still still⟩

end Idles

/-- A frame that comes in while the pump does not run waits. -/
theorem receive_idles (s : Session σ) (frame : Frame) {p : Progress σ Lifecycle}
    (rests : p.own.pump.running = false) : Idles p (s.receive frame p) := by
  let pump : Pump := { p.own.pump with queue := p.own.pump.queue ++ [frame] }
  have waits : pump.drain s.sink (p.note (.arrived frame)) = (pump, p.note (.arrived frame)) :=
    Pump.drain_rests s.sink _ rests
  have received : s.receive frame p =
      { p.note (.arrived frame) with own := { p.own with pump } } := by
    simp only [receive, Pump.submit, pump, waits]
    rfl
  rw [received]
  exact ⟨rests, [.arrived frame], rfl, rfl⟩

theorem takeAll_idles (s : Session σ) (occurrences : List Occurrence) {p : Progress σ Lifecycle}
    (rests : p.own.pump.running = false) : Idles p (p.takeAll s.receive occurrences) := by
  induction occurrences generalizing p with
  | nil => exact .refl rests
  | cons occurrence others ih =>
      have first : Idles p (p.take s.receive occurrence) := by
        cases occurrence with
        | frame frame => exact s.receive_idles frame rests
        | stopRequest => exact ⟨rests, [.stopRequested], rfl, rfl⟩
        | noted remark => exact (Idles.refl rests).note remark.still
      exact first.trans (ih first.rests)

theorem ask_idles {α : Type} (s : Session σ) (call : PeripheralCall) (answer : Call σ α)
    {p : Progress σ Lifecycle} (rests : p.own.pump.running = false) :
    RunEnds (s.ask call answer) p fun _ q => Idles (p.note (.peripheral call)) q := by
  have answered : Idles (p.note (.peripheral call))
      { p.note (.peripheral call) with env := (answer p.env).2 } :=
    ⟨rests, [], (List.append_nil _).symm, rfl⟩
  have taken := s.takeAll_idles (answer p.env).1.occurrences answered.rests
  exact (answered.trans taken).note ⟨rfl, rfl⟩

/-- Some call of the peripheral subscribed. -/
def HasSubscribed (p : Progress σ Lifecycle) : Prop :=
  ∃ service characteristic mode,
    (.subscribe service characteristic mode, none) ∈ exchanges (dealings p.journal)

/-- A session that was closed: after it asked to be disconnected nothing was handed on, and if
    it had subscribed, nothing waited when it asked. -/
def Finished (p : Progress σ Lifecycle) : Prop :=
  ∃ before after, p.journal = before ++ .peripheral .disconnect :: after ∧ handed after = [] ∧
    (HasSubscribed p → handed before = arrived before)

theorem Finished.later {p q : Progress σ Lifecycle} (finished : Finished p)
    (silent : ∃ more, q.journal = p.journal ++ more ∧ handed more = [])
    (same : HasSubscribed q → HasSubscribed p) : Finished q := by
  obtain ⟨before, after, closed, quiet, settled⟩ := finished
  obtain ⟨more, adds, silent⟩ := silent
  refine ⟨before, after ++ more, ?_, ?_, fun subscribed => settled (same subscribed)⟩
  · rw [adds, closed, List.append_assoc, List.cons_append]
  · rw [handed_append, quiet, silent, List.append_nil]

theorem hasSubscribed_of_adds {p q : Progress σ Lifecycle} {log : List Dealing}
    (adds : p.Adds log q)
    (none : ∀ service characteristic mode,
      (.subscribe service characteristic mode, none) ∉ exchanges log) :
    HasSubscribed q → HasSubscribed p := by
  rintro ⟨service, characteristic, mode, member⟩
  rw [adds.dealings, exchanges_append, List.mem_append] at member
  exact ⟨service, characteristic, mode, member.resolve_right (none _ _ _)⟩

theorem disconnect_finishes (s : Session σ) {p : Progress σ Lifecycle} (inFlow : p.InFlow)
    (rests : p.own.pump.running = false) (settled : HasSubscribed p → p.own.pump.queue = []) :
    RunEnds s.disconnect p fun _ q => Finished q := by
  have asked : RunEnds s.disconnect p fun _ q => Idles (p.note (.peripheral .disconnect)) q := by
    refine .update_bind (.bind ?_)
    refine RunEnds.imp (s.ask_idles .disconnect s.peripheral.disconnect rests) fun result q moved => ?_
    have idles : Idles (p.note (.peripheral .disconnect)) q := ⟨moved.rests, moved.silent⟩
    cases result with
    | error f => exact idles
    | ok => exact .log (idles.note ⟨rfl, rfl⟩)
  refine (asked.both s.disconnect_ends).imp fun result q came => ?_
  obtain ⟨idles, fault, -, adds, -⟩ := came
  obtain ⟨more, journal, silent⟩ := idles.silent
  refine ⟨p.journal, more, ?_, silent, fun subscribed => ?_⟩
  · rw [journal, Progress.note, List.append_assoc, List.singleton_append]
  · have before := hasSubscribed_of_adds adds (by simp) subscribed
    have flows := inFlow.flows
    rw [settled before] at flows
    exact flows.settled

/-! ## Closing and after -/

theorem endSubscription_empties (s : Session σ) {subscription : Subscription}
    {p : Progress σ Lifecycle} (held : p.own.subscription = some subscription)
    (running : p.own.pump.running = true) :
    RunEnds s.endSubscription p fun _ q => q.own.pump.queue = [] := by
  refine .own_bind ?_
  rw [held]
  refine .update_bind (.ensuring ?_)
  refine (s.unsubscribe_reports subscription _).imp ?_
  rintro result q ⟨ending, told, left, -, -, stays⟩
  have runs : q.own.pump.running = p.own.pump.running := congrArg Standing.running stays.standing
  exact .bind (s.stopPump_empties (runs.trans running))

/-- What is known of a session from its dealings. -/
structure Tracked (p : Progress σ Lifecycle) : Prop where
  inFlow : p.InFlow
  pumped : Pumped p.own.standing (dealings p.journal)
  recorded : Recorded p.own.standing (dealings p.journal)

theorem Tracked.unsubscribed {p : Progress σ Lifecycle} (tracked : Tracked p)
    (live : ¬ p.own.standing.Inert) (bare : p.own.subscription = none) : ¬ HasSubscribed p := by
  rintro ⟨service, characteristic, mode, called⟩
  have connected : ¬ ∃ fault, (.disconnect, fault) ∈ exchanges (dealings p.journal) :=
    tracked.recorded.disconnected.not.mp fun state => live (.inr state)
  have held := (tracked.recorded.subscription ⟨service, characteristic, mode⟩).mpr
    ⟨called, connected⟩
  have none : p.own.standing.subscription = none := bare
  rw [none] at held
  cases held

theorem Tracked.rests {p : Progress σ Lifecycle} (tracked : Tracked p)
    (unsubscribed : p.own.state ≠ .subscribed) (calm : ¬ Interrupted (dealings p.journal)) :
    p.own.pump.running = false :=
  Bool.eq_false_iff.mpr (tracked.pumped.running.not.mpr (not_or.mpr ⟨unsubscribed, calm⟩))

theorem close_finishes (s : Session σ) {p : Progress σ Lifecycle} (tracked : Tracked p)
    (live : ¬ p.own.standing.Inert) (calm : ¬ Interrupted (dealings p.journal)) :
    RunEnds s.close p fun _ q => Finished q := by
  refine .own_bind ?_
  have past : ¬ (p.own.state = .idle ∨ p.own.state = .disconnected) := live
  rw [if_neg past]
  refine .ensuring ?_
  cases held : p.own.subscription with
  | none =>
      refine .own_bind ?_
      rw [held]
      have unsubscribed : p.own.state ≠ .subscribed := tracked.pumped.held.mp held
      have rests := tracked.rests unsubscribed calm
      have never := tracked.unsubscribed live held
      exact .pure (s.disconnect_finishes tracked.inFlow rests fun ever => absurd ever never)
  | some subscription =>
      have subscribed : p.own.state = .subscribed := tracked.pumped.subscribed held
      have running : p.own.pump.running = true := tracked.pumped.running.mpr (.inl subscribed)
      have inFlow : RunEnds s.endSubscription p fun _ q => q.InFlow :=
        One.kept (paired_inFlow s).stepsRespect.endSubscription tracked.inFlow
      have emptied := s.endSubscription_empties held running
      refine ((inFlow.both emptied).both (s.endSubscription_reports held)).imp ?_
      rintro result q ⟨⟨inFlow, empty⟩, ending, told, left, -, -, -, standing⟩
      have rests : q.own.pump.running = false := congrArg Standing.running standing
      exact s.disconnect_finishes inFlow rests fun _ => empty

theorem leave_finishes (s : Session σ) {p : Progress σ Lifecycle} (tracked : Tracked p)
    (live : ¬ p.own.standing.Inert) (calm : ¬ Interrupted (dealings p.journal))
    (after : Option Fault) : RunEnds (s.leave after) p fun _ q => Finished q := by
  refine .leave ((s.close_finishes tracked live calm).imp fun result q finished => ?_)
  cases result with
  | ok => exact finished
  | error f =>
      dsimp only
      split
      · exact finished.later ⟨[_], rfl, rfl⟩ (hasSubscribed_of_adds (.note ⟨rfl, rfl⟩ q) (by simp))
      · exact finished

theorem Tracked.kept {α : Type} {x : Step σ α} {p : Progress σ Lifecycle} (tracked : Tracked p)
    (flows : Abreast (One InFlow) x x) (pumped : Keeps Pumped x) (recorded : Keeps Recorded x) :
    RunEnds x p fun _ q => Tracked q where
  inFlow := One.kept flows tracked.inFlow
  pumped := (pumped p).holds tracked.pumped
  recorded := (recorded p).holds tracked.recorded

theorem Tracked.act (s : Session σ) (act : Act σ) {p : Progress σ Lifecycle}
    (tracked : Tracked p) : RunEnds (act.perform s) p fun _ q => Tracked q :=
  tracked.kept ((paired_inFlow s).act act) (pumped_kept.keeps_act s act)
    (recorded_kept.keeps_act s act)

/-- Nothing can be done with a session that was closed but to let frames come in. -/
theorem act_disconnected (s : Session σ) (act : Act σ) {p : Progress σ Lifecycle}
    (state : p.own.state = .disconnected) :
    RunEnds (act.perform s) p fun _ q => q = p ∨ ∃ frame, q = s.receive frame p := by
  have connects : RunEnds s.connect p fun result q => q = p ∧ ∃ f, result = .error f := by
    refine .own_bind ?_
    rw [if_pos (by simp [state])]
    exact .bind (.throw ⟨rfl, _, rfl⟩)
  have closes : RunEnds s.close p fun result q => q = p ∧ result = .ok () := by
    refine .own_bind ?_
    rw [if_pos (.inr state)]
    exact .pure ⟨rfl, rfl⟩
  have other {expected : SessionState} (differs : expected ≠ .disconnected)
      (ready : p.own.state = expected) : False :=
    differs (ready.symm.trans state)
  cases act with
  | connect | enter => exact connects.imp fun _ _ same => .inl same.1
  | discover =>
      exact .bind (.require_bind (fun _ => .inl rfl) fun ready => (other (by simp) ready).elim)
  | locate services =>
      exact .bind (.require_bind (fun _ => .inl rfl) fun ready => (other (by simp) ready).elim)
  | subscribe =>
      exact .bind (.require_bind (fun _ => .inl rfl) fun ready => (other (by simp) ready).elim)
  | close => exact closes.imp fun _ _ same => .inl same.1
  | leave after =>
      refine .leave (closes.imp ?_)
      rintro _ q ⟨rfl, rfl⟩
      exact .inl rfl
  | run wait =>
      refine .bind (.run (connects.imp ?_))
      rintro _ q ⟨rfl, f, rfl⟩
      exact .inl rfl
  | receive frame => exact .inr ⟨frame, rfl⟩

theorem Closes.of_inert {a b : Standing} {log : List Dealing} {result : Except Fault Unit}
    (closes : Closes a log result b) (inert : a.Inert) : b = a := by
  cases closes with
  | inert => rfl
  | disconnected live => exact absurd inert live
  | unsubscribed live => exact absurd inert live

/-- What closes a session that has begun finishes it. -/
theorem finishes_of_closes {α : Type} {x : Step σ α} {p : Progress σ Lifecycle}
    (unclosed : p.own.state ≠ .disconnected)
    (closes : RunEnds x p fun _ q => ∃ result, ComesToOne Closes p result q)
    (finishes : ¬ p.own.standing.Inert → ¬ Interrupted (dealings p.journal) →
      RunEnds x p fun _ q => Finished q) :
    RunEnds x p fun _ q =>
      q.own.state = .disconnected → ¬ Interrupted (dealings q.journal) → Finished q := by
  by_cases inert : p.own.standing.Inert
  · refine closes.imp fun _ q came closed => ?_
    obtain ⟨result, log, -, closing⟩ := came
    have same := congrArg Standing.state (closing.of_inert inert)
    exact absurd (same.symm.trans closed) unclosed
  · by_cases calm : Interrupted (dealings p.journal)
    · refine closes.imp fun _ q came _ still => ?_
      obtain ⟨result, log, adds, closing⟩ := came
      rw [adds.dealings, interrupted_append closing.subscribes_not] at still
      exact absurd calm still
    · exact (finishes inert calm).imp fun _ _ finished _ _ => finished

theorem run_finishes (s : Session σ) (wait : StopWait σ) {p : Progress σ Lifecycle}
    (tracked : Tracked p) (unclosed : p.own.state ≠ .disconnected) :
    RunEnds (s.run wait) p fun _ q =>
      q.own.state = .disconnected → ¬ Interrupted (dealings q.journal) → Finished q := by
  have connects : RunEnds s.connect p fun _ q => Tracked q :=
    tracked.kept (paired_inFlow s).stepsRespect.connect (.of_does s.connect_does pumped_kept.connects)
      (.of_does s.connect_does recorded_kept.connects)
  refine .run ((connects.both (s.connect_does p)).imp ?_)
  rintro result q ⟨tracked, log, -, connecting⟩
  generalize standing : q.own.standing = b at connecting
  cases connecting with
  | refused =>
      intro closed
      exact absurd ((congrArg Standing.state standing).symm.trans closed) unclosed
  | failed =>
      intro closed
      exact absurd ((congrArg Standing.state standing).symm.trans closed) unclosed
  | connected idle =>
      have state : q.own.standing.state = .connected := congrArg Standing.state standing
      have bare : q.own.standing.subscription = none := tracked.pumped.held.mpr (by simp [state])
      have streams := tracked.kept ((paired_inFlow s).body wait) (pumped_kept.keeps_body s wait)
        (recorded_kept.keeps_body s wait)
      refine (streams.both (s.body_does wait q)).imp ?_
      rintro body r ⟨tracked, more, -, did⟩
      have live : ¬ r.own.standing.Inert := (streams_of_body state bare did).live
      have unclosed : r.own.state ≠ .disconnected := fun closed => live (.inr closed)
      exact finishes_of_closes unclosed (s.leave_closes _ r) fun live calm =>
        s.leave_finishes tracked live calm _

/-- No step but closing disconnects a session. -/
theorem unclosed_kept {α : Type} {x : Step σ α} {outcomes : Outcomes α} (does : DoesOneOf x outcomes)
    (kept : ∀ {a log result b}, outcomes a log result b → a.state ≠ .disconnected →
      b.state ≠ .disconnected)
    {p : Progress σ Lifecycle} (unclosed : p.own.state ≠ .disconnected) :
    RunEnds x p fun _ q =>
      q.own.state = .disconnected → ¬ Interrupted (dealings q.journal) → Finished q := by
  refine (does p).imp fun result q came closed => ?_
  obtain ⟨log, -, outcome⟩ := came
  exact absurd closed (kept outcome unclosed)

theorem act_finishes (s : Session σ) (act : Act σ) {p : Progress σ Lifecycle}
    (tracked : Tracked p) (unclosed : p.own.state ≠ .disconnected) :
    RunEnds (act.perform s) p fun _ q =>
      q.own.state = .disconnected → ¬ Interrupted (dealings q.journal) → Finished q := by
  cases act with
  | connect | enter =>
      refine unclosed_kept s.connect_does ?_ unclosed
      intro a log result b connects before
      cases connects <;> simp [before]
  | discover =>
      refine .drop (unclosed_kept s.discover_does ?_ unclosed)
      intro a log result b discovers before
      cases discovers <;> simp [before]
  | locate services =>
      refine .drop (unclosed_kept (s.locate_does services) ?_ unclosed)
      intro a log result b locates before
      cases locates <;> simp [before]
  | subscribe =>
      refine .drop (unclosed_kept s.subscribe_does ?_ unclosed)
      intro a log result b subscribes before
      cases subscribes <;> simp [before]
  | close =>
      refine finishes_of_closes unclosed ((s.close_does p).imp fun _ _ came => ⟨_, came⟩) ?_
      exact s.close_finishes tracked
  | leave after =>
      refine finishes_of_closes unclosed (s.leave_closes after p) fun live calm => ?_
      exact s.leave_finishes tracked live calm after
  | run wait => exact .drop (s.run_finishes wait tracked unclosed)
  | receive frame =>
      intro closed
      have same := congrArg Standing.state (s.receive_stays frame p).standing
      exact absurd (same.symm.trans closed) unclosed

/-- Unless an interrupt left its pump running, a session that was closed stays finished. -/
structure Settled (p : Progress σ Lifecycle) : Prop extends Tracked p where
  finished : p.own.state = .disconnected → ¬ Interrupted (dealings p.journal) → Finished p

theorem Settled.act (s : Session σ) (act : Act σ) {p : Progress σ Lifecycle}
    (settled : Settled p) : Settled ((act.perform s).runFrom p).2 where
  toTracked := settled.toTracked.act s act
  finished := by
    by_cases state : p.own.state = .disconnected
    · intro closed calm
      have did := s.act_disconnected act state
      unfold RunEnds at did
      rcases did with same | ⟨frame, received⟩
      · rw [same] at closed calm ⊢
        exact settled.finished closed calm
      · rw [received] at closed calm ⊢
        have stays := s.receive_stays frame p
        have still : ¬ Interrupted (dealings p.journal) := by
          rw [stays.adds.dealings, List.append_nil] at calm
          exact calm
        have rests := settled.toTracked.rests (by simp [state]) still
        exact (settled.finished state still).later (s.receive_idles frame rests).silent
          (hasSubscribed_of_adds stays.adds (by simp))
    · exact s.act_finishes act settled.toTracked state

theorem Settled.follow (s : Session σ) (acts : List (Act σ)) {p : Progress σ Lifecycle}
    (settled : Settled p) : Settled (s.follow acts p) := by
  induction acts generalizing p with
  | nil => exact settled
  | cons act rest ih => exact ih (settled.act s act)

theorem Settled.fresh (env : σ) (requested : Bool) : Settled (.fresh env requested) where
  inFlow := ⟨.start, fun _ => rfl⟩
  pumped := .fresh
  recorded := .fresh
  finished := fun closed => SessionState.noConfusion closed

end Session

end BezelStream
