import BezelStream.Proofs.Interaction.Abreast
import BezelStream.Proofs.Session.Invariant

/-! # Sessions side by side

Two sessions that differ at most in where their frames go do the same, step by step, as
long as their progresses stay related. `StepsRespect` lists the small steps that a session is made
of and says that none of them breaks the relation; what follows for whole steps is proved once
here. `Coupled` says so of every single thing that a session does to its progress, whatever the
collaborators do, and `Paired` adds the wait, with what follows for whatever a caller does.
-/

namespace BezelStream

variable {σ : Type}

namespace Session

/-- The texts that a session tells. -/
inductive Says : String → Prop where
  | heading : Says "Discovered services and characteristics:"
  | line {services : List Service} {line : String} (listed : line ∈ describe services) : Says line
  | unsubscribeFailed (f : Fault) : Says ("Unsubscribe failed (continuing): " ++ f.message)
  | active (subscription : Subscription) :
      Says (subscription.mode.label ++ " active on characteristic " ++
        subscription.characteristic ++ ".")

/-- The calls that a session journals. -/
inductive Deals : Event → Prop where
  | asks (call : PeripheralCall) : Deals (.peripheral call)
  | tells {text : String} (worded : Says text) : Deals (.notice text)
  | waits (state : SessionState) : Deals (.wait state)

def withSink (s : Session σ) (sink : Sink σ) : Session σ :=
  { s with sink }

@[simp] theorem withSink_characteristic (s : Session σ) (sink : Sink σ) :
    (s.withSink sink).characteristic = s.characteristic :=
  rfl

variable {s : Session σ} {sink : Sink σ}
  {R : Progress σ Lifecycle → Progress σ Lifecycle → Prop}

/-- What a session asks of its peripheral, with what the peripheral answers. -/
inductive Asks (s : Session σ) : {α : Type} → PeripheralCall → Call σ α → Prop where
  | connect : Asks s .connect s.peripheral.connect
  | disconnect : Asks s .disconnect s.peripheral.disconnect
  | services : Asks s .services s.peripheral.services
  | subscribe (service characteristic : String) (mode : SubscriptionMode) :
      Asks s (.subscribe service characteristic mode)
        (s.peripheral.subscribe service characteristic mode)
  | unsubscribe (service characteristic : String) :
      Asks s (.unsubscribe service characteristic)
        (s.peripheral.unsubscribe service characteristic)

open Op

/-- None of the small steps of a session breaks the relation between its progress and that of
    the same session with another sink. -/
structure StepsRespect (s : Session σ) (sink : Sink σ)
    (R : Progress σ Lifecycle → Progress σ Lifecycle → Prop) : Prop where
  own : ∀ {p q}, R p q → p.own = q.own
  moves : ∀ {p q}, R p q → ∀ f : Lifecycle → Lifecycle, (∀ own, (f own).pump = own.pump) →
    R { p with own := f p.own } { q with own := f q.own }
  logs : ∀ (level : Level) {source : LogSource} (text : String), source ≠ .service →
    Notes R (.log level source text)
  asks : ∀ {α : Type} {call : PeripheralCall} {answer : Call σ α}, s.Asks call answer →
    Abreast R (s.ask call answer) ((s.withSink sink).ask call answer)
  tells : ∀ {text : String}, Says text → Abreast R (s.tell text) ((s.withSink sink).tell text)
  starts : Abreast R s.startPump (s.withSink sink).startPump
  stops : Abreast R s.stopPump (s.withSink sink).stopPump

namespace StepsRespect

variable (steps : StepsRespect s sink R)

include steps

theorem readOwn : Abreast R Op.own Op.own :=
  .read steps.own

theorem updateOwn {f : Lifecycle → Lifecycle} (pump : ∀ own, (f own).pump = own.pump) :
    Abreast R (Op.updateOwn f) (Op.updateOwn f) :=
  .update fun related => steps.moves related f pump

theorem log (level : Level) {source : LogSource} (text : String) (other : source ≠ .service) :
    Abreast R (Op.log level source text) (Op.log level source text) :=
  .note (steps.logs level text other)

theorem tellAll {texts : List String} (worded : ∀ text ∈ texts, Says text) :
    Abreast R (s.tellAll texts) ((s.withSink sink).tellAll texts) := by
  induction texts with
  | nil => exact .pure ()
  | cons text rest ih =>
      refine .bind (steps.tells (worded text List.mem_cons_self)) fun _ => ih fun other member => ?_
      exact worded other (List.mem_cons_of_mem text member)

theorem require (expected : SessionState) :
    Abreast R (Session.require expected) (Session.require expected) := by
  exact .bind steps.readOwn fun own => .ite (.throw _) (.pure _)

theorem connect : Abreast R s.connect (s.withSink sink).connect := by
  refine .bind steps.readOwn fun own => .ite (.throw_bind _ _ _) ?_
  refine .bind (.attempt (steps.asks .connect)) fun result => ?_
  cases result with
  | error f => exact .throw _
  | ok => exact .bind (steps.updateOwn fun _ => rfl) fun _ => steps.log _ _ nofun

theorem currentServices : Abreast R s.currentServices (s.withSink sink).currentServices := by
  refine .bind (.attempt (steps.asks .services)) fun result => ?_
  cases result with
  | error f => exact .throw _
  | ok services => exact .pure _

theorem discover : Abreast R s.discover (s.withSink sink).discover := by
  refine .bind (steps.require _) fun _ => .bind steps.currentServices fun services => ?_
  exact .bind (steps.updateOwn fun _ => rfl) fun _ => .bind (steps.log _ _ nofun) fun _ => .pure _

theorem locate (services : List Service) :
    Abreast R (s.locate services) ((s.withSink sink).locate services) := by
  unfold Session.locate
  refine .bind (steps.require _) fun _ => ?_
  rw [withSink_characteristic]
  split
  · refine .bind (steps.updateOwn fun _ => rfl) fun _ => ?_
    exact .bind (steps.log _ _ nofun) fun _ => .pure _
  · refine .ite (.bind (steps.tells .heading) fun _ => .bind ?_ fun _ => .throw _) (.throw _)
    exact steps.tellAll fun line listed => .line listed

theorem subscribe : Abreast R s.subscribe (s.withSink sink).subscribe := by
  unfold Session.subscribe
  refine .bind (steps.require _) fun _ => .bind steps.readOwn fun own => ?_
  cases own.target with
  | none => exact .throw _
  | some pair =>
      obtain ⟨service, characteristic⟩ := pair
      refine .bind steps.currentServices fun live => ?_
      dsimp only
      split
      · exact .throw _
      · split
        · exact .throw _
        · refine .bind steps.starts fun _ => ?_
          refine .bind (.attempt (steps.asks (.subscribe ..))) fun result => ?_
          cases result with
          | error f => exact .ite (.bind steps.stops fun _ => .throw _) (.throw _)
          | ok =>
              refine .bind (steps.updateOwn fun _ => rfl) fun _ => ?_
              exact .bind (steps.log _ _ nofun) fun _ => .pure _

theorem unsubscribe (subscription : Subscription) :
    Abreast R (s.unsubscribe subscription) ((s.withSink sink).unsubscribe subscription) := by
  refine .bind (.attempt (steps.asks (.unsubscribe ..))) fun result => ?_
  cases result with
  | ok => exact .pure _
  | error f =>
      refine .ite (.bind (steps.log _ _ nofun) fun _ => ?_) (.throw _)
      exact steps.tells (.unsubscribeFailed _)

theorem endSubscription : Abreast R s.endSubscription (s.withSink sink).endSubscription := by
  refine .bind steps.readOwn fun own => ?_
  cases own.subscription with
  | none => exact .pure _
  | some subscription =>
      refine .bind (steps.updateOwn fun _ => rfl) fun _ => ?_
      refine .ensuring (steps.unsubscribe subscription) ?_
      exact .bind steps.stops fun _ => steps.updateOwn fun _ => rfl

theorem disconnect : Abreast R s.disconnect (s.withSink sink).disconnect :=
  .bind (steps.updateOwn fun _ => rfl) fun _ =>
    .bind (steps.asks .disconnect) fun _ => steps.log _ _ nofun

theorem close : Abreast R s.close (s.withSink sink).close := by
  refine .bind steps.readOwn fun own => .ite (.pure _) ?_
  exact .ensuring steps.endSubscription steps.disconnect

theorem leave (after : Option Fault) : Abreast R (s.leave after) ((s.withSink sink).leave after) := by
  refine .bind (.attempt steps.close) fun result => ?_
  cases result with
  | ok => exact .pure _
  | error f => exact .ite (steps.log _ _ nofun) (.throw _)

section

variable {wait : StopWait σ} (waits : ∀ state, Abreast R
  (Op.called (.wait state) (wait.run s.receive))
  (Op.called (.wait state) (wait.run (s.withSink sink).receive)))

include waits

theorem body : Abreast R (s.body wait) ((s.withSink sink).body wait) := by
  refine .bind steps.discover fun services => .bind (steps.locate services) fun _ => ?_
  refine .bind steps.subscribe fun subscription => ?_
  refine .bind (steps.tells (.active subscription)) fun _ => .bind steps.readOwn fun own => ?_
  exact .bind (waits _) fun _ => .pure _

theorem run : Abreast R (s.run wait) ((s.withSink sink).run wait) := by
  refine .bind steps.connect fun _ => .bind (.attempt (steps.body waits)) fun result => ?_
  cases result with
  | ok => exact .bind (steps.leave _) fun _ => .pure _
  | error f => exact .bind (steps.leave _) fun _ => .throw _

end

end StepsRespect

/-- Nothing that a session does to its progress before and after it waits breaks the relation
    between that and the progress of the same session with another sink. -/
structure Coupled (s : Session σ) (sink : Sink σ)
    (R : Progress σ Lifecycle → Progress σ Lifecycle → Prop) : Prop extends Op.Alike R where
  calls : ∀ call, Op.Journals R (.peripheral call)
  conveys : ∀ {text : String}, Says text → Op.Conveys R text
  moves : ∀ {p q}, R p q → ∀ f : Lifecycle → Lifecycle, (∀ own, (f own).pump = own.pump) →
    R { p with own := f p.own } { q with own := f q.own }
  receives : ∀ frame {p q}, R p q → R (s.receive frame p) ((s.withSink sink).receive frame q)
  starts : Op.Abreast R s.startPump (s.withSink sink).startPump
  stops : Op.Abreast R s.stopPump (s.withSink sink).stopPump

theorem Coupled.stepsRespect (coupled : Coupled s sink R) : StepsRespect s sink R where
  own := coupled.own
  moves := coupled.moves
  logs := coupled.logs
  asks {_ call answer} _ :=
    .called (coupled.calls call) (coupled.performWith coupled.receives answer)
  tells worded := coupled.tellWith coupled.receives s.notifier (coupled.conveys worded)
  starts := coupled.starts
  stops := coupled.stops

/-- Nothing that a session does to its progress breaks the relation, the wait included. -/
structure Paired (s : Session σ) (sink : Sink σ)
    (R : Progress σ Lifecycle → Progress σ Lifecycle → Prop) : Prop extends Coupled s sink R where
  waiting : ∀ state, Op.Journals R (.wait state)
  releases : Op.Releases R

namespace Paired

variable (paired : Paired s sink R)

include paired

theorem waits (wait : StopWait σ) (state : SessionState) :
    Abreast R (Op.called (.wait state) (wait.run s.receive))
      (Op.called (.wait state) (wait.run (s.withSink sink).receive)) :=
  .called (paired.waiting state) (paired.waitWith paired.receives wait paired.releases)

theorem body (wait : StopWait σ) : Abreast R (s.body wait) ((s.withSink sink).body wait) :=
  paired.stepsRespect.body (paired.waits wait)

theorem run (wait : StopWait σ) : Abreast R (s.run wait) ((s.withSink sink).run wait) :=
  paired.stepsRespect.run (paired.waits wait)

theorem act (act : Act σ) : Abreast R (act.perform s) (act.perform (s.withSink sink)) := by
  cases act with
  | connect | enter => exact paired.stepsRespect.connect
  | discover => exact .bind paired.stepsRespect.discover fun _ => .pure _
  | locate services => exact .bind (paired.stepsRespect.locate services) fun _ => .pure _
  | subscribe => exact .bind paired.stepsRespect.subscribe fun _ => .pure _
  | close => exact paired.stepsRespect.close
  | leave after => exact paired.stepsRespect.leave after
  | run wait => exact .bind (paired.run wait) fun _ => .pure _
  | receive frame => exact .update fun related => paired.receives frame related

/-- Whatever a caller does with both sessions, their progresses stay related. -/
theorem follow (acts : List (Act σ)) {p q : Progress σ Lifecycle} (related : R p q) :
    R (s.follow acts p) ((s.withSink sink).follow acts q) := by
  induction acts generalizing p q with
  | nil => exact related
  | cons act rest ih => exact ih (paired.act act related).2

end Paired

end Session

/-! ## One session -/

open Op Progress

/-- A pump keeps what is kept where it hands a frame on, and where it complains. -/
theorem Pump.drain_kept {ρ : Type} {I : Progress σ ρ → Prop} (alike : Alike (One I))
    (hands : ∀ frame, Notes (One I) (.frame frame)) (sink : Sink σ) (pump : Pump)
    {p : Progress σ ρ} (holds : I p) : I (pump.drain sink p).2 := by
  have noted {event : Event} {q : Progress σ ρ} (notes : Notes (One I) event) (holds : I q) :
      I (q.note event) :=
    (notes ⟨rfl, holds⟩).2
  have given (frame : Frame) {q : Progress σ ρ} (holds : I q) : I (sink.give frame q).2 := by
    cases sink with
    | print => exact noted (alike.remarks (.printed _ _)) (noted (hands frame) holds)
    | custom accept => exact (alike.answers ⟨rfl, noted (hands frame) holds⟩ _).2
  have each (frames : List Frame) {q : Progress σ ρ} (holds : I q) :
      I (frames.foldl (Pump.handOn sink) q) := by
    induction frames generalizing q with
    | nil => exact holds
    | cons frame rest ih =>
        refine ih ?_
        simp only [Pump.handOn]
        split
        · exact given frame holds
        · exact noted (alike.logs _ _ (by simp)) (given frame holds)
  simp only [Pump.drain]
  split
  · exact each pump.queue holds
  · exact holds

/-- A session keeps what is kept where frames arrive and are handed on, wherever it stands. -/
theorem Session.receive_kept (s : Session σ) {I : Progress σ Lifecycle → Prop}
    (alike : Alike (One I)) (arrives : ∀ frame, Notes (One I) (.arrived frame))
    (hands : ∀ frame, Notes (One I) (.frame frame))
    (moves : ∀ {p : Progress σ Lifecycle}, I p → ∀ own, I { p with own }) (frame : Frame)
    {p q : Progress σ Lifecycle} (related : One I p q) :
    One I (s.receive frame p) (s.receive frame q) := by
  obtain ⟨rfl, holds⟩ := related
  have drained := Pump.drain_kept alike hands s.sink
    { p.own.pump with queue := p.own.pump.queue ++ [frame] } (arrives frame ⟨rfl, holds⟩).2
  exact ⟨rfl, moves drained _⟩

/-- A session keeps what is kept where it also asks and tells. -/
theorem Session.coupled_one (s : Session σ) {I : Progress σ Lifecycle → Prop}
    (alike : Alike (One I)) (calls : ∀ call, Journals (One I) (.peripheral call))
    (conveys : ∀ {text : String}, Says text → Conveys (One I) text)
    (arrives : ∀ frame, Notes (One I) (.arrived frame))
    (hands : ∀ frame, Notes (One I) (.frame frame))
    (moves : ∀ {p : Progress σ Lifecycle}, I p → ∀ own, I { p with own }) :
    Coupled s s.sink (One I) where
  toAlike := alike
  calls := calls
  conveys := conveys
  moves := by
    rintro p q ⟨rfl, holds⟩ f -
    exact ⟨rfl, moves holds _⟩
  receives := s.receive_kept alike arrives hands moves
  starts := by
    rintro p q ⟨rfl, holds⟩
    have drained := Pump.drain_kept alike hands s.sink { p.own.pump with running := true } holds
    exact ⟨rfl, rfl, moves drained _⟩
  stops := by
    rintro p q ⟨rfl, holds⟩
    exact ⟨rfl, rfl, moves (Pump.drain_kept alike hands s.sink p.own.pump holds) _⟩

end BezelStream
