import BezelStream.Interaction.Collaborator

/-! # The payload pump

Frames are queued where they come in and handed to the sink by a pump. A running
pump hands on everything queued before anything else happens, so its queue is empty
between steps; a pump that does not run keeps the frames for its next start. A frame
on which the sink fails is logged and dropped.
-/

namespace BezelStream

/-- A queue of frames and whether it is being emptied. -/
structure Pump where
  running : Bool := false
  queue : List Frame := []
  deriving Repr, DecidableEq

namespace Pump

variable {σ ρ : Type}

/-- Hands one frame to the sink and logs a failure. -/
def handOn (sink : Sink σ) (p : Progress σ ρ) (frame : Frame) : Progress σ ρ :=
  let (accepted, p) := sink.give frame p
  if accepted then p else p.note (.log .error .sink "Payload sink failed; dropping frame")

def drain (sink : Sink σ) (pump : Pump) (p : Progress σ ρ) : Pump × Progress σ ρ :=
  if pump.running then ({ pump with queue := [] }, pump.queue.foldl (handOn sink) p)
  else (pump, p)

def submit (sink : Sink σ) (frame : Frame) (pump : Pump) (p : Progress σ ρ) :
    Pump × Progress σ ρ :=
  drain sink { pump with queue := pump.queue ++ [frame] } p

/-- Starts the pump, which first hands on what has been waiting. -/
def start (sink : Sink σ) (pump : Pump) (p : Progress σ ρ) : Pump × Progress σ ρ :=
  drain sink { pump with running := true } p

/-- Stops the pump after everything queued has been handed on. -/
def stop (sink : Sink σ) (pump : Pump) (p : Progress σ ρ) : Pump × Progress σ ρ :=
  let (pump, p) := drain sink pump p
  ({ pump with running := false }, p)

end Pump

end BezelStream
