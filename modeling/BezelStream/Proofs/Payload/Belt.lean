import BezelStream.Proofs.Payload.Control

/-! # The belt of a pump

A pump does not know when it is to end but from its queue: a stop puts a mark behind the frames, and
the worker that empties the queue ends where it comes to a mark. A mark that was left behind would
end a later worker too early. None ever is: whatever is done with a pump, what lies on its belt
between two controls are the frames that wait, and nothing else.
-/

namespace BezelStream

variable {σ ρ : Type}

/-- What is put on the belt of a pump. -/
inductive Item where
  | frame (frame : Frame)
  /-- Where a worker ends. -/
  | mark
  deriving Repr, DecidableEq

/-- Who empties a belt. -/
inductive Worker where
  | absent
  | busy
  /-- A worker that has come to a mark, and was not yet dismissed. -/
  | ended
  deriving Repr, DecidableEq

/-- A pump with all that is in its queue. -/
structure Belt where
  worker : Worker := .absent
  items : List Item := []
  deriving Repr, DecidableEq

namespace Belt

/-- What a worker makes of some items: it hands on one frame after the other up to a mark. -/
def work (sink : Sink σ) : List Item → Progress σ ρ → Belt × Progress σ ρ
  | [], p => ({ worker := .busy }, p)
  | .frame frame :: rest, p => work sink rest (Pump.handOn sink p frame)
  | .mark :: rest, p => ({ worker := .ended, items := rest }, p)

/-- A worker that is busy goes on as far as it can. -/
def settle (sink : Sink σ) (belt : Belt) (p : Progress σ ρ) : Belt × Progress σ ρ :=
  match belt.worker with
  | .busy => work sink belt.items p
  | .absent | .ended => (belt, p)

def put (item : Item) (belt : Belt) : Belt :=
  { belt with items := belt.items ++ [item] }

def submit (sink : Sink σ) (frame : Frame) (belt : Belt) (p : Progress σ ρ) :
    Belt × Progress σ ρ :=
  (belt.put (.frame frame)).settle sink p

/-- A new worker takes over, unless one is busy. -/
def start (sink : Sink σ) (belt : Belt) (p : Progress σ ρ) : Belt × Progress σ ρ :=
  match belt.worker with
  | .busy => (belt, p)
  | .absent | .ended => ({ belt with worker := .busy } : Belt).settle sink p

/-- The worker, if there is one, is dismissed after it had the time to come to the mark. -/
def stop (sink : Sink σ) (belt : Belt) (p : Progress σ ρ) : Belt × Progress σ ρ :=
  match belt.worker with
  | .absent => (belt, p)
  | .busy | .ended =>
    let (belt, p) := (belt.put .mark).settle sink p
    ({ belt with worker := .absent }, p)

def perform (sink : Sink σ) (control : Pump.Control) (belt : Belt) (p : Progress σ ρ) :
    Belt × Progress σ ρ :=
  match control with
  | .start => belt.start sink p
  | .stop => belt.stop sink p
  | .submit frame => belt.submit sink frame p

def follow (sink : Sink σ) (controls : List Pump.Control) (now : Belt × Progress σ ρ) :
    Belt × Progress σ ρ :=
  controls.foldl (fun now control => now.1.perform sink control now.2) now

theorem work_frames (sink : Sink σ) (frames : List Frame) (rest : List Item) (p : Progress σ ρ) :
    work sink (frames.map Item.frame ++ rest) p =
      work sink rest (frames.foldl (Pump.handOn sink) p) := by
  induction frames generalizing p with
  | nil => rfl
  | cons frame frames ih => simp [work, ih]

end Belt

namespace Pump

/-- The belt of a pump between two controls. -/
def belt (pump : Pump) : Belt where
  worker := if pump.running then .busy else .absent
  items := pump.queue.map .frame

variable {sink : Sink σ} {controls : List Control} {pump : Pump} {p q : Progress σ ρ}
  {given : List Frame}

theorem belt_submit (frame : Frame) (pump : Pump) (q : Progress σ ρ) :
    pump.belt.submit sink frame q =
      ((pump.submit sink frame q).1.belt, (pump.submit sink frame q).2) := by
  have ends (p : Progress σ ρ) : Belt.work sink [] p = ({ worker := .busy }, p) := rfl
  have frames := Belt.work_frames sink (pump.queue ++ [frame]) [] q
  cases running : pump.running with
  | true => simpa [Belt.submit, Belt.put, Belt.settle, belt, submit, drain, running, ends]
      using frames
  | false => simp [Belt.submit, Belt.put, Belt.settle, belt, submit, drain, running]

theorem belt_start (idle : pump.running = true → pump.queue = []) (q : Progress σ ρ) :
    pump.belt.start sink q = ((pump.start sink q).1.belt, (pump.start sink q).2) := by
  have ends (p : Progress σ ρ) : Belt.work sink [] p = ({ worker := .busy }, p) := rfl
  have frames := Belt.work_frames sink pump.queue [] q
  cases running : pump.running with
  | true => simp [Belt.start, belt, start, drain, running, idle running]
  | false => simpa [Belt.start, Belt.settle, belt, start, drain, running, ends] using frames

/-- The mark that a stop puts on the belt is taken off again by the worker that it ends. -/
theorem belt_stop (pump : Pump) (q : Progress σ ρ) :
    pump.belt.stop sink q = ((pump.stop sink q).1.belt, (pump.stop sink q).2) := by
  -- Only a busy worker is sent a mark, and it comes to the mark behind all frames.
  have ends (p : Progress σ ρ) : Belt.work sink [.mark] p = ({ worker := .ended }, p) := rfl
  have frames := Belt.work_frames sink pump.queue [.mark] q
  cases running : pump.running with
  | true => simp [Belt.stop, Belt.put, Belt.settle, belt, stop, drain, running, frames, ends]
  | false => simp [Belt.stop, belt, stop, drain, running]

theorem belt_perform (idle : pump.running = true → pump.queue = []) (control : Control)
    (q : Progress σ ρ) :
    pump.belt.perform sink control q =
      ((control.perform sink pump q).1.belt, (control.perform sink pump q).2) := by
  cases control with
  | start => exact belt_start idle q
  | stop => exact belt_stop pump q
  | submit frame => exact belt_submit frame pump q

theorem Keeps.belt_follow (keeps : Keeps sink controls p given pump q) (more : List Control) :
    Belt.follow sink more (pump.belt, q) =
      ((Pump.follow sink more (pump, q)).1.belt, (Pump.follow sink more (pump, q)).2) := by
  induction more generalizing controls given pump q with
  | nil => rfl
  | cons control rest ih =>
      obtain ⟨given, next⟩ := keeps.perform control
      have step : pump.belt.perform sink control q = _ := belt_perform keeps.idle control q
      simpa [Belt.follow, Pump.follow, step] using ih next

/-- No control of a pump loses, doubles or overtakes a frame: what was submitted is what was handed
    on, followed by what waits. A stop takes nothing away, and a start hands on first what waits.
    The journal says of each frame that it was handed on, and complains once of each frame that was
    refused. Of the marks on the belt none is left behind. -/
theorem follow_lossless (sink : Sink σ) (controls : List Control) (p : Progress σ ρ) :
    ∃ given pump q,
      follow sink controls ({}, p) = (pump, q) ∧
      Belt.follow sink controls ({}, p) = (pump.belt, q) ∧
      given ++ pump.queue = submitted controls ∧
      handed q.journal = handed p.journal ++ given ∧
      q.journal = p.journal ++ (sink.verdicts given p.env).flatMap sink.traces ∧
      q.journal.countP Event.isComplaint =
        p.journal.countP Event.isComplaint + (sink.verdicts given p.env).countP (!·.2) ∧
      (pump.running = true ↔ Started controls) ∧
      (pump.running = true → pump.queue = []) ∧
      pump.stop sink q = ({ pump with running := false }, q) ∧
      (pump.start sink q).1 = { running := true } ∧
      handed (pump.start sink q).2.journal = handed q.journal ++ pump.queue := by
  have begin := Keeps.begin sink p
  obtain ⟨given, keeps⟩ := begin.follow controls
  have belt := begin.belt_follow controls
  rcases followed : follow sink controls ({}, p) with ⟨pump, q⟩
  rw [followed] at keeps belt
  have journal := journal_foldl_handOn sink given p
  rw [← keeps.course] at journal
  refine ⟨given, pump, q, rfl, belt, keeps.whole, ?_, journal, ?_, keeps.started, keeps.idle,
    keeps.stop_eq, ?_, ?_⟩
  · rw [journal, handed_append, Sink.handed_verdicts]
  · rw [journal, List.countP_append, Sink.countP_verdicts]
  · rw [start_eq]
  · rw [start_eq, handed_foldl_handOn]

end Pump

end BezelStream
