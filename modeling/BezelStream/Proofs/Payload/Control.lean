import BezelStream.Proofs.Payload.Flow

/-! # A pump under control

A pump may be started, stopped and given frames in any order and as often as one likes. What it has
then handed on is the beginning of what it was given, and what waits is the rest. It runs if it was
started last, and nothing waits while it runs. A frame leaves in the journal that it was handed on
and, if the sink refused it, one complaint.
-/

namespace BezelStream

variable {σ ρ : Type}

namespace Sink

/-- What a sink makes of a frame: whether it accepts it, and the state outside after that. -/
def verdict (sink : Sink σ) (frame : Frame) (env : σ) : Bool × σ :=
  match sink with
  | .print => (true, env)
  | .custom accept => accept frame env

/-- Frames that a sink is given one after another, each with whether it was accepted. -/
def verdicts (sink : Sink σ) : List Frame → σ → List (Frame × Bool)
  | [], _ => []
  | frame :: rest, env =>
    (frame, (sink.verdict frame env).1) :: sink.verdicts rest (sink.verdict frame env).2

/-- The line that a sink prints of a frame, if it prints. -/
def prints (sink : Sink σ) (frame : Frame) : List Event :=
  match sink with
  | .print => [.printed .standard (frame.line ++ "\n")]
  | .custom _ => []

/-- What is logged of a frame that was accepted or not. -/
def complaints (accepted : Bool) : List Event :=
  if accepted then [] else [.log .error .sink "Payload sink failed; dropping frame"]

/-- What a frame leaves in the journal with which it was accepted or not. -/
def traces (sink : Sink σ) (judged : Frame × Bool) : List Event :=
  .frame judged.1 :: (sink.prints judged.1 ++ complaints judged.2)

theorem handed_traces (sink : Sink σ) (judged : Frame × Bool) :
    handed (sink.traces judged) = [judged.1] := by
  have cons (rest : List Event) : handed (.frame judged.1 :: rest) = judged.1 :: handed rest := rfl
  have printed : handed (sink.prints judged.1) = [] := by cases sink <;> rfl
  have complained : handed (complaints judged.2) = [] := by cases judged.2 <;> rfl
  simp [traces, cons, printed, complained]

theorem countP_traces (sink : Sink σ) (judged : Frame × Bool) :
    (sink.traces judged).countP Event.isComplaint = if judged.2 then 0 else 1 := by
  have printed : (sink.prints judged.1).countP Event.isComplaint = 0 := by cases sink <;> rfl
  have complained :
      (complaints judged.2).countP Event.isComplaint = if judged.2 then 0 else 1 := by
    cases judged.2 <;> rfl
  simp [traces, Event.isComplaint, printed, complained]

variable {frames : List Frame} {env : σ}

theorem handed_verdicts (sink : Sink σ) :
    handed ((sink.verdicts frames env).flatMap sink.traces) = frames := by
  induction frames generalizing env with
  | nil => rfl
  | cons frame rest ih => simp [verdicts, handed_traces, ih]

theorem countP_verdicts (sink : Sink σ) (judged : List (Frame × Bool)) :
    (judged.flatMap sink.traces).countP Event.isComplaint = judged.countP (!·.2) := by
  induction judged with
  | nil => rfl
  | cons first rest ih =>
      simp only [List.flatMap_cons, List.countP_append, countP_traces, ih, List.countP_cons]
      cases first.2 <;> simp [Nat.add_comm]

end Sink

namespace Pump

/-- What is done with a pump. -/
inductive Control where
  | start
  | stop
  | submit (frame : Frame)
  deriving Repr, DecidableEq

namespace Control

def perform (sink : Sink σ) (control : Control) (pump : Pump) (p : Progress σ ρ) :
    Pump × Progress σ ρ :=
  match control with
  | .start => pump.start sink p
  | .stop => pump.stop sink p
  | .submit frame => pump.submit sink frame p

/-- The frame that is submitted. -/
def frame? : Control → Option Frame
  | .submit frame => some frame
  | .start | .stop => none

/-- Whether the pump is to run from now on. -/
def switch? : Control → Option Bool
  | .start => some true
  | .stop => some false
  | .submit _ => none

end Control

/-- The frames submitted in the course of some controls. -/
def submitted (controls : List Control) : List Frame :=
  controls.filterMap Control.frame?

/-- The pump was started, and not stopped since. -/
def Started (controls : List Control) : Prop :=
  (controls.filterMap Control.switch?).getLast? = some true

/-- A pump and how far the run has come, after some controls one after another. -/
def follow (sink : Sink σ) (controls : List Control) (now : Pump × Progress σ ρ) :
    Pump × Progress σ ρ :=
  controls.foldl (fun now control => control.perform sink now.1 now.2) now

variable {sink : Sink σ} {controls : List Control} {control : Control} {pump : Pump}
  {p q : Progress σ ρ} {given : List Frame}

theorem handOn_eq (sink : Sink σ) (p : Progress σ ρ) (frame : Frame) :
    handOn sink p frame =
      { p with
        env := (sink.verdict frame p.env).2
        journal := p.journal ++ sink.traces (frame, (sink.verdict frame p.env).1) } := by
  cases sink with
  | print => simp [handOn, Sink.give, Sink.verdict, Sink.traces, Sink.prints, Sink.complaints,
      Progress.note]
  | custom accept =>
      cases accepted : (accept frame p.env).1 <;>
        simp [handOn, Sink.give, Sink.verdict, Sink.traces, Sink.prints, Sink.complaints,
          Progress.note, accepted]

theorem journal_foldl_handOn (sink : Sink σ) (frames : List Frame) (p : Progress σ ρ) :
    (frames.foldl (handOn sink) p).journal =
      p.journal ++ (sink.verdicts frames p.env).flatMap sink.traces := by
  induction frames generalizing p with
  | nil => simp [Sink.verdicts]
  | cons frame rest ih => simp [ih, handOn_eq, Sink.verdicts]

theorem handed_foldl_handOn (sink : Sink σ) (frames : List Frame) (p : Progress σ ρ) :
    handed (frames.foldl (handOn sink) p).journal = handed p.journal ++ frames := by
  rw [journal_foldl_handOn, handed_append, Sink.handed_verdicts]

@[simp] theorem submitted_submit (controls : List Control) (frame : Frame) :
    submitted (controls ++ [.submit frame]) = submitted controls ++ [frame] := by
  simp [submitted, Control.frame?]

@[simp] theorem submitted_start (controls : List Control) :
    submitted (controls ++ [.start]) = submitted controls := by
  simp [submitted, Control.frame?]

@[simp] theorem submitted_stop (controls : List Control) :
    submitted (controls ++ [.stop]) = submitted controls := by
  simp [submitted, Control.frame?]

@[simp] theorem started_submit (controls : List Control) (frame : Frame) :
    Started (controls ++ [.submit frame]) ↔ Started controls := by
  simp [Started, Control.switch?]

/-- What is so after some controls if these frames were handed on so far. -/
structure Keeps (sink : Sink σ) (controls : List Control) (p : Progress σ ρ) (given : List Frame)
    (pump : Pump) (q : Progress σ ρ) : Prop where
  /-- Nothing else was done than to hand frames on. -/
  course : q = given.foldl (handOn sink) p
  whole : given ++ pump.queue = submitted controls
  started : pump.running = true ↔ Started controls
  idle : pump.running = true → pump.queue = []

theorem start_eq (sink : Sink σ) (pump : Pump) (q : Progress σ ρ) :
    pump.start sink q = ({ running := true }, pump.queue.foldl (handOn sink) q) := by
  simp [Pump.start, drain]

namespace Keeps

theorem begin (sink : Sink σ) (p : Progress σ ρ) : Keeps sink [] p [] {} p where
  course := rfl
  whole := rfl
  started := by simp [Started]
  idle := by simp

/-- Before a pump is stopped it has nothing left to do. -/
theorem stop_eq (keeps : Keeps sink controls p given pump q) :
    pump.stop sink q = ({ pump with running := false }, q) := by
  cases running : pump.running with
  | true =>
      have empty := keeps.idle running
      simp [Pump.stop, drain, running, empty]
  | false => simp [Pump.stop, drain, running]

theorem start (keeps : Keeps sink controls p given pump q) :
    Keeps sink (controls ++ [.start]) p (given ++ pump.queue)
      (pump.start sink q).1 (pump.start sink q).2 where
  course := by simp [start_eq, keeps.course]
  whole := by simp [start_eq, keeps.whole]
  started := by simp [start_eq, Started, Control.switch?]
  idle := by simp [start_eq]

/-- What waits in a pump that is stopped goes on waiting. -/
theorem stop (keeps : Keeps sink controls p given pump q) :
    Keeps sink (controls ++ [.stop]) p given (pump.stop sink q).1 (pump.stop sink q).2 := by
  rw [keeps.stop_eq]
  constructor
  · exact keeps.course
  · simp [keeps.whole]
  · simp [Started, Control.switch?]
  · simp

/-- A frame that comes to a running pump is handed on, after which nothing waits. -/
theorem submit_running (keeps : Keeps sink controls p given pump q)
    (running : pump.running = true) (frame : Frame) :
    Keeps sink (controls ++ [.submit frame]) p (given ++ [frame])
      (pump.submit sink frame q).1 (pump.submit sink frame q).2 := by
  have empty := keeps.idle running
  have whole := keeps.whole
  have now : pump.submit sink frame q = (pump, handOn sink q frame) := by
    cases pump
    simp_all [submit, drain]
  rw [empty, List.append_nil] at whole
  rw [now]
  constructor
  · simp [keeps.course]
  · simp [empty, whole]
  · simp [keeps.started]
  · simp [empty]

/-- A frame that comes to a pump that does not run waits behind the others. -/
theorem submit_resting (keeps : Keeps sink controls p given pump q)
    (rests : pump.running = false) (frame : Frame) :
    Keeps sink (controls ++ [.submit frame]) p given
      (pump.submit sink frame q).1 (pump.submit sink frame q).2 := by
  have now : pump.submit sink frame q = ({ pump with queue := pump.queue ++ [frame] }, q) := by
    simp [submit, drain, rests]
  rw [now]
  constructor
  · exact keeps.course
  · simp [← keeps.whole]
  · simp [keeps.started]
  · simp [rests]

theorem perform (keeps : Keeps sink controls p given pump q) (control : Control) :
    ∃ given, Keeps sink (controls ++ [control]) p given
      (control.perform sink pump q).1 (control.perform sink pump q).2 := by
  cases control with
  | start => exact ⟨_, keeps.start⟩
  | stop => exact ⟨_, keeps.stop⟩
  | submit frame =>
      cases running : pump.running with
      | true => exact ⟨_, keeps.submit_running running frame⟩
      | false => exact ⟨_, keeps.submit_resting running frame⟩

theorem follow (keeps : Keeps sink controls p given pump q) (more : List Control) :
    ∃ given, Keeps sink (controls ++ more) p given
      (follow sink more (pump, q)).1 (follow sink more (pump, q)).2 := by
  induction more generalizing controls given pump q with
  | nil => exact ⟨given, by simpa [Pump.follow] using keeps⟩
  | cons control rest ih =>
      obtain ⟨given, keeps⟩ := keeps.perform control
      simpa [Pump.follow] using ih keeps

end Keeps

end Pump

end BezelStream
