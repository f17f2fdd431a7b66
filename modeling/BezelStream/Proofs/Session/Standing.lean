import BezelStream.Proofs.Session.Dealings

/-! # Where a session stands

The standing of a session is its lifecycle without the frames that wait in the pump. A
session `Stays` over dealings if it stands where it stood. Whatever collaborators do
while they answer, it stays and deals nothing, so a call of the peripheral adds one
exchange and nothing else.
-/

namespace BezelStream

/-- How far a session has come, whatever frames are queued. -/
structure Standing where
  state : SessionState
  subscription : Option Subscription
  target : Option (String × String)
  running : Bool
  deriving Repr, DecidableEq

/-- The standing of a session that has not begun. -/
def Standing.fresh : Standing := ⟨.idle, none, none, false⟩

/-- There is nothing to close. -/
def Standing.Inert (a : Standing) : Prop :=
  a.state = .idle ∨ a.state = .disconnected

def Lifecycle.standing (own : Lifecycle) : Standing :=
  ⟨own.state, own.subscription, own.target, own.pump.running⟩

namespace Progress

variable {σ ρ : Type}

/-- A run at its start, with a session that has not begun. -/
def fresh (env : σ) (requested : Bool) : Progress σ Lifecycle := ⟨env, [], requested, {}⟩

theorem whole_of_adds {env : σ} {requested : Bool} {log : List Dealing}
    {p : Progress σ Lifecycle} (adds : (fresh env requested).Adds log p) :
    dealings p.journal = log ∧ calls p.journal = (exchanges (dealings p.journal)).map Prod.fst := by
  have all : dealings p.journal = log := adds.dealings
  rw [all]
  exact ⟨rfl, adds.calls⟩

/-- Nothing was dealt, and the operation at work is where it was. -/
structure Silent (p q : Progress σ ρ) : Prop where
  adds : p.Adds [] q
  own : q.own = p.own

namespace Silent

variable {p q r : Progress σ ρ}

theorem of_journal (journal : q.journal = p.journal) (own : q.own = p.own) : Silent p q :=
  ⟨.of_journal journal, own⟩

theorem refl (p : Progress σ ρ) : Silent p p :=
  of_journal rfl rfl

theorem trans (first : Silent p q) (second : Silent q r) : Silent p r :=
  ⟨first.adds.trans second.adds, second.own.trans first.own⟩

theorem note {event : Event} (quiet : event.Quiet) (p : Progress σ ρ) :
    Silent p (p.note event) :=
  ⟨.note quiet p, rfl⟩

theorem requestStop (p : Progress σ ρ) : Silent p p.requestStop :=
  (note ⟨rfl, rfl⟩ p).trans (of_journal rfl rfl)

end Silent

/-- The session dealt so, and stands where it stood. -/
structure Stays (p : Progress σ Lifecycle) (log : List Dealing) (q : Progress σ Lifecycle) :
    Prop where
  adds : p.Adds log q
  standing : q.own.standing = p.own.standing

namespace Stays

variable {p q r : Progress σ Lifecycle} {left right : List Dealing}

theorem of_silent (silent : Silent p q) : p.Stays [] q :=
  ⟨silent.adds, congrArg Lifecycle.standing silent.own⟩

theorem refl (p : Progress σ Lifecycle) : p.Stays [] p :=
  of_silent (.refl p)

theorem trans (first : p.Stays left q) (second : q.Stays right r) : p.Stays (left ++ right) r :=
  ⟨first.adds.trans second.adds, second.standing.trans first.standing⟩

theorem note {event : Event} (quiet : event.Quiet) (p : Progress σ Lifecycle) :
    p.Stays [] (p.note event) :=
  of_silent (.note quiet p)

end Stays

end Progress

variable {σ ρ α : Type}

open Progress (Silent Stays)

namespace Sink

theorem give_silent (sink : Sink σ) (frame : Frame) (p : Progress σ ρ) :
    Silent p (sink.give frame p).2 := by
  cases sink with
  | print => exact (Silent.note ⟨rfl, rfl⟩ p).trans (.note ⟨rfl, rfl⟩ _)
  | custom accept => exact (Silent.note ⟨rfl, rfl⟩ p).trans (.of_journal rfl rfl)

end Sink

namespace Pump

theorem handOn_silent (sink : Sink σ) (p : Progress σ ρ) (frame : Frame) :
    Silent p (handOn sink p frame) := by
  have given := sink.give_silent frame p
  simp only [handOn]
  split
  · exact given
  · exact given.trans (.note ⟨rfl, rfl⟩ _)

theorem foldl_handOn_silent (sink : Sink σ) (frames : List Frame) (p : Progress σ ρ) :
    Silent p (frames.foldl (handOn sink) p) := by
  induction frames generalizing p with
  | nil => exact .refl p
  | cons frame rest ih => exact (handOn_silent sink p frame).trans (ih _)

theorem drain_silent (sink : Sink σ) (pump : Pump) (p : Progress σ ρ) :
    Silent p (pump.drain sink p).2 := by
  simp only [drain]
  split
  · exact foldl_handOn_silent sink pump.queue p
  · exact .refl p

@[simp] theorem running_drain (sink : Sink σ) (pump : Pump) (p : Progress σ ρ) :
    (pump.drain sink p).1.running = pump.running := by
  simp only [drain]
  split <;> rfl

end Pump

namespace Session

theorem receive_stays (s : Session σ) (frame : Frame) (p : Progress σ Lifecycle) :
    p.Stays [] (s.receive frame p) := by
  have silent := (Silent.note ⟨rfl, rfl⟩ p).trans
    (Pump.drain_silent s.sink { p.own.pump with queue := p.own.pump.queue ++ [frame] }
      (p.note (.arrived frame)))
  refine ⟨silent.adds.trans (.of_journal rfl), ?_⟩
  simp [receive, Pump.submit, Lifecycle.standing, silent.own]

section Taking

variable {deliver : Frame → Progress σ Lifecycle → Progress σ Lifecycle}
  (stays : ∀ frame p, Stays p [] (deliver frame p))

include stays

theorem take_stays (p : Progress σ Lifecycle) (occurrence : Occurrence) :
    p.Stays [] (p.take deliver occurrence) := by
  cases occurrence with
  | frame frame => exact stays frame p
  | stopRequest => exact .of_silent (.requestStop p)
  | noted remark => exact .note remark.quiet p

theorem takeAll_stays (occurrences : List Occurrence) (p : Progress σ Lifecycle) :
    p.Stays [] (p.takeAll deliver occurrences) := by
  induction occurrences generalizing p with
  | nil => exact .refl p
  | cons occurrence rest ih => exact (take_stays stays p occurrence).trans (ih _)

theorem performWith_stays (call : Call σ α) (p : Progress σ Lifecycle) :
    p.Stays [] ((Op.performWith deliver call).runFrom p).2 := by
  have begun : p.Stays [] { p with env := (call p.env).2 } := .of_silent (.of_journal rfl rfl)
  exact begun.trans (takeAll_stays stays (call p.env).1.occurrences _)

end Taking

/-- A call of the peripheral adds one exchange and nothing else. -/
theorem ask_stays (s : Session σ) (call : PeripheralCall) (answer : Call σ α)
    (p : Progress σ Lifecycle) :
    p.Stays [.exchange (call, faultOf? ((s.ask call answer).runFrom p).1)]
      ((s.ask call answer).runFrom p).2 := by
  have inside := performWith_stays s.receive_stays answer (p.note (.peripheral call))
  exact ⟨.exchange call _ inside.adds, inside.standing⟩

theorem startPump_runs (s : Session σ) (p : Progress σ Lifecycle) :
    p.Adds [] (s.startPump.runFrom p).2 ∧
      (s.startPump.runFrom p).2.own.standing = { p.own.standing with running := true } := by
  have silent := Pump.drain_silent s.sink { p.own.pump with running := true } p
  refine ⟨silent.adds.moved, ?_⟩
  simp [startPump, Pump.start, Lifecycle.standing, silent.own]

theorem stopPump_runs (s : Session σ) (p : Progress σ Lifecycle) :
    p.Adds [] (s.stopPump.runFrom p).2 ∧
      (s.stopPump.runFrom p).2.own.standing = { p.own.standing with running := false } := by
  have silent := Pump.drain_silent s.sink p.own.pump p
  refine ⟨silent.adds.moved, ?_⟩
  simp [stopPump, Pump.stop, Lifecycle.standing, silent.own]

/-- Waiting deals nothing by itself. -/
theorem stopWait_stays (s : Session σ) (wait : StopWait σ) (p : Progress σ Lifecycle) :
    p.Stays [] ((wait.run s.receive).runFrom p).2 := by
  have released (p : Progress σ Lifecycle) :
      p.Stays [] ((release : Op σ Lifecycle Unit).runFrom p).2 :=
    (Stays.note ⟨rfl, rfl⟩ p).trans (.of_silent (.of_journal rfl rfl))
  cases wait with
  | custom call => exact performWith_stays s.receive_stays call p
  | request idle =>
      simp only [StopWait.run, Op.runFrom_bind, Op.runFrom_read]
      split
      · exact released p
      · have idled := performWith_stays s.receive_stays idle p
        simp only [Op.runFrom_bind]
        rcases run : (Op.performWith s.receive idle).runFrom p with ⟨_ | _, q⟩ <;>
          rw [run] at idled
        · exact idled
        · exact idled.trans ((Stays.of_silent (.requestStop q)).trans (released _))

/-- The call that waits is one entry of the wait and nothing else. -/
theorem wait_stays (s : Session σ) (wait : StopWait σ) (p : Progress σ Lifecycle) :
    p.Stays [.wait p.own.state]
      ((Op.called (.wait p.own.state) (wait.run s.receive)).runFrom p).2 := by
  have inside := s.stopWait_stays wait (p.note (.wait p.own.state))
  exact ⟨.wait p.own.state _ inside.adds, inside.standing⟩

end Session

end BezelStream
