import BezelStream.Proofs.Interaction.Requests
import BezelStream.Proofs.Session.Abreast
import BezelStream.Proofs.Session.Run

/-! # Stop requests during a session

While a session runs, stop requests may come in at any time, and one that is pending stays
pending until the session has subscribed and waits. So whatever becomes of them during a run is
the stop moves of one stream.
-/

namespace BezelStream.Session

open Op Progress

variable {σ α β : Type}

theorem coupled_held (s : Session σ) (a : Stops) : Coupled s s.sink (One (Held a)) :=
  s.coupled_one (alike_held a) (fun _ => journals_held rfl (fun _ => rfl) a)
    (fun _ => conveys_held a _) (fun _ => notes_held rfl a) (fun _ => notes_held rfl a)
    fun held _ => held

theorem stepsRespect_held (s : Session σ) (a : Stops) : StepsRespect s s.sink (One (Held a)) :=
  (s.coupled_held a).stepsRespect

/-- What holds stop requests may be done before. -/
theorem streamedBetween_bind {x : Step σ α} {next : α → Step σ β} {p : Progress σ Lifecycle}
    (holds : Holds x) (rest : ∀ a q, x.runFrom p = (.ok a, q) → RunEnds (next a) q q.StreamedBetween) :
    RunEnds (x >>= next) p p.StreamedBetween := by
  have held := holds p
  refine .bind ?_
  unfold RunEnds
  rcases run : x.runFrom p with ⟨f | a, q⟩ <;> rw [run] at held
  · exact held.failed f
  · exact (rest a q run).imp fun _ _ streamed => held.streamedBetween streamed

theorem subscribed_of_subscribe {s : Session σ} {p q : Progress σ Lifecycle}
    {subscription : Subscription} (subscribes : s.subscribe.runFrom p = (.ok subscription, q)) :
    q.own.state = .subscribed := by
  have does := s.subscribe_does p
  unfold RunEnds at does
  rw [subscribes] at does
  obtain ⟨log, -, outcome⟩ := does
  generalize standing : q.own.standing = b at outcome
  cases outcome
  exact congrArg Standing.state standing

theorem state_of_tell {s : Session σ} {text : String} {result : Except Fault Unit}
    {p q : Progress σ Lifecycle} (tells : (s.tell text).runFrom p = (result, q)) :
    q.own.state = p.own.state := by
  have same : RunEnds (s.tell text) p fun _ q => q.own.state = p.own.state :=
    .tell (fun _ stays => congrArg Standing.state stays.standing) fun _ _ stays =>
      congrArg Standing.state stays.standing
  unfold RunEnds at same
  rw [tells] at same
  exact same

/-- The body of a run waits only where the session has subscribed. -/
theorem body_streamedBetween (s : Session σ) (idle : Call σ Unit) (p : Progress σ Lifecycle) :
    RunEnds (s.body (.request idle)) p p.StreamedBetween := by
  have steps := s.stepsRespect_held
  refine streamedBetween_bind (.of_abreast fun a => (steps a).discover) fun services q _ => ?_
  refine streamedBetween_bind (.of_abreast fun a => (steps a).locate services) fun _ r _ => ?_
  refine streamedBetween_bind (.of_abreast fun a => (steps a).subscribe) ?_
  intro subscription t subscribes
  refine streamedBetween_bind (.of_abreast fun a => (steps a).tells (.active subscription)) ?_
  intro _ u told
  have state : u.own.state = .subscribed :=
    (state_of_tell told).trans (subscribed_of_subscribe subscribes)
  have waits : RunEnds (Op.called (.wait .subscribed) ((StopWait.request idle).run s.receive)) u
      u.StreamedBetween :=
    wait_stopMoves (fun frame a _ held => ((s.coupled_held a).receives frame ⟨rfl, held⟩).2) idle u
  refine .own_bind (.bind ?_)
  rw [state]
  refine waits.imp fun result v streamed => ?_
  cases result with
  | error f => exact streamed.held (.refl v) nofun
  | ok => exact streamed.held (.refl v) fun _ => rfl

theorem run_streamedBetween (s : Session σ) (idle : Call σ Unit) (p : Progress σ Lifecycle) :
    RunEnds (s.run (.request idle)) p p.StreamedBetween := by
  have connects : RunEnds s.connect p fun _ q => q.Held p.stops :=
    Holds.of_abreast (fun a => (s.stepsRespect_held a).connect) p
  refine .run (connects.imp fun result q held => ?_)
  cases result with
  | error f => exact held.failed f
  | ok =>
      refine (s.body_streamedBetween idle q).imp fun body r streamed => ?_
      have leaves : RunEnds (s.leave (faultOf? body)) r fun _ t => t.Held r.stops :=
        Holds.of_abreast (fun a => (s.stepsRespect_held a).leave _) r
      refine leaves.imp fun left t closed => ?_
      refine held.streamedBetween (streamed.held closed fun passed => ?_)
      cases left with
      | error f => cases passed
      | ok => exact passed

end BezelStream.Session
