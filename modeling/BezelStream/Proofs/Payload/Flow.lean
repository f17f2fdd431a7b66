import BezelStream.Payload.Pump

/-! # The way of the frames

A frame arrives, waits in the queue of a pump, and is handed to the sink. `Flows` says that
none is lost, doubled or overtaken on this way: what arrived is what was handed on,
followed by what still waits, and at no moment was anything handed on that had not
arrived. Whatever is done with a pump, the frames flow on, and a sink that fails does not
stand in their way.
-/

namespace BezelStream

def Event.arrived? : Event → Option Frame
  | .arrived f => some f
  | _ => none

def Event.handed? : Event → Option Frame
  | .frame f => some f
  | _ => none

/-- The frames that came in, in order. -/
def arrived (journal : List Event) : List Frame :=
  journal.filterMap Event.arrived?

/-- The frames that were handed to the sink, in order. -/
def handed (journal : List Event) : List Frame :=
  journal.filterMap Event.handed?

/-- Whether an event complains of a frame that a sink has refused. -/
def Event.isComplaint : Event → Bool
  | .log .error .sink _ => true
  | _ => false

/-- An event that moves no frame. -/
structure Event.Still (event : Event) : Prop where
  arrives : event.arrived? = none
  hands : event.handed? = none

theorem Remark.still (remark : Remark) : remark.event.Still := by
  cases remark with
  | log | radio | command | printed | ended => exact ⟨rfl, rfl⟩

@[simp] theorem arrived_append (left right : List Event) :
    arrived (left ++ right) = arrived left ++ arrived right :=
  List.filterMap_append

@[simp] theorem handed_append (left right : List Event) :
    handed (left ++ right) = handed left ++ handed right :=
  List.filterMap_append

theorem arrived_still {event : Event} (still : event.Still) : arrived [event] = [] := by
  simp [arrived, still.arrives]

theorem handed_still {event : Event} (still : event.Still) : handed [event] = [] := by
  simp [handed, still.hands]

@[simp] theorem arrived_arrived (frame : Frame) : arrived [.arrived frame] = [frame] :=
  rfl

@[simp] theorem handed_arrived (frame : Frame) : handed [.arrived frame] = [] :=
  rfl

@[simp] theorem arrived_frame (frame : Frame) : arrived [.frame frame] = [] :=
  rfl

@[simp] theorem handed_frame (frame : Frame) : handed [.frame frame] = [frame] :=
  rfl

/-- With these frames waiting, no frame was lost so far, and each was handed on in its turn. -/
structure Flows (waiting : List Frame) (journal : List Event) : Prop where
  whole : handed journal ++ waiting = arrived journal
  ordered : ∀ moment, moment <+: journal → handed moment <+: arrived moment

namespace Flows

variable {waiting next : List Frame} {journal : List Event} {event : Event} {frame : Frame}

theorem start : Flows [] [] where
  whole := rfl
  ordered := by
    intro moment begun
    rw [List.prefix_nil.mp begun]
    exact List.prefix_refl _

/-- An event that leaves nothing lost leaves everything in order. -/
theorem grow (flows : Flows waiting journal)
    (whole : handed (journal ++ [event]) ++ next = arrived (journal ++ [event])) :
    Flows next (journal ++ [event]) where
  whole := whole
  ordered := by
    intro moment begun
    rcases List.prefix_concat_iff.mp begun with now | before
    · rw [now]
      exact ⟨next, whole⟩
    · exact flows.ordered moment before

theorem note (flows : Flows waiting journal) (still : event.Still) :
    Flows waiting (journal ++ [event]) := by
  apply flows.grow
  simp [handed_still still, arrived_still still, flows.whole]

theorem arrive (flows : Flows waiting journal) :
    Flows (waiting ++ [frame]) (journal ++ [.arrived frame]) := by
  apply flows.grow
  simp [← flows.whole]

theorem hand (flows : Flows (frame :: waiting) journal) :
    Flows waiting (journal ++ [.frame frame]) := by
  apply flows.grow
  simp [← flows.whole]

/-- Where none waits, all that arrived was handed on. -/
theorem settled (flows : Flows [] journal) : handed journal = arrived journal := by
  rw [← flows.whole, List.append_nil]

end Flows

namespace Pump

variable {σ ρ : Type} {waiting : List Frame} {pump : Pump} {p : Progress σ ρ}

/-- The frame is handed on whether or not the sink accepts it. -/
theorem flows_handOn (sink : Sink σ) {frame : Frame} (flows : Flows (frame :: waiting) p.journal) :
    Flows waiting (handOn sink p frame).journal := by
  have given : Flows waiting (sink.give frame p).2.journal := by
    cases sink with
    | print => exact flows.hand.note ⟨rfl, rfl⟩
    | custom accept => exact flows.hand
  simp only [handOn]
  split
  · exact given
  · exact given.note ⟨rfl, rfl⟩

theorem flows_foldl_handOn (sink : Sink σ) {frames : List Frame} (flows : Flows frames p.journal) :
    Flows [] (frames.foldl (handOn sink) p).journal := by
  induction frames generalizing p with
  | nil => exact flows
  | cons frame rest ih => exact ih (flows_handOn sink flows)

theorem flows_drain (sink : Sink σ) (flows : Flows pump.queue p.journal) :
    Flows (pump.drain sink p).1.queue (pump.drain sink p).2.journal := by
  simp only [drain]
  split
  · exact flows_foldl_handOn sink flows
  · exact flows

theorem drain_empties (sink : Sink σ) (p : Progress σ ρ) (running : pump.running = true) :
    (pump.drain sink p).1.queue = [] := by
  simp only [drain, if_pos running]

/-- A pump that does not run hands nothing on. -/
theorem drain_rests (sink : Sink σ) (p : Progress σ ρ) (rests : pump.running = false) :
    pump.drain sink p = (pump, p) := by
  simp [drain, rests]

end Pump

end BezelStream
