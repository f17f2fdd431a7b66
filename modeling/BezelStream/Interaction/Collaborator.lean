import BezelStream.Interaction.Op

/-! # Those a run deals with

How a run tells the user something, asks for an index, waits for its end and hands
frames on. Each has a form of its own that needs nobody outside.
-/

namespace BezelStream

variable {σ ρ : Type}

/-- Who is told what a run does. -/
inductive Notifier (σ : Type) where
  | silent
  | log
  | custom (call : String → Call σ Unit)

/-- Tells a text; frames that come in meanwhile go to `deliver`. -/
def Notifier.tellWith (notifier : Notifier σ) (deliver : Frame → Progress σ ρ → Progress σ ρ)
    (text : String) : Op σ ρ Unit :=
  match notifier with
  | .silent => pure ()
  | .log => Op.log .info .service text
  | .custom call => Op.called (.notice text) (Op.performWith deliver (call text))

def Notifier.tellAllWith (notifier : Notifier σ)
    (deliver : Frame → Progress σ ρ → Progress σ ρ) : List String → Op σ ρ Unit
  | [] => pure ()
  | text :: rest => do
    notifier.tellWith deliver text
    notifier.tellAllWith deliver rest

/-- Tells a text where no frames are awaited. -/
def Notifier.tell (notifier : Notifier σ) (text : String) : Op σ ρ Unit :=
  notifier.tellWith (fun _ p => p) text

def Notifier.tellAll (notifier : Notifier σ) (texts : List String) : Op σ ρ Unit :=
  notifier.tellAllWith (fun _ p => p) texts

/-- Who chooses among several devices. -/
inductive Prompt (σ : Type) where
  /-- Nobody; the proposed index is taken. -/
  | acceptProposal
  /-- Someone outside, who may give no integer. -/
  | custom (call : String → Nat → Call σ (Option Int))

def Prompt.ask (prompt : Prompt σ) (text : String) (proposed : Nat) : Op σ ρ (Option Int) :=
  match prompt with
  | .acceptProposal => pure (some proposed)
  | .custom call => Op.called (.prompt text proposed) (Op.perform (call text proposed))

/-- What a stream waits for. -/
inductive StopWait (σ : Type) where
  /-- A stop request. `idle` is what happens while none is pending; where it ends
      without a fault, a request has come in. -/
  | request (idle : Call σ Unit)
  | custom (call : Call σ Unit)

/-- Lets go by the pending stop request, which is used up. -/
def release : Op σ ρ Unit := do
  Op.note .released
  Op.update fun p => { p with stopRequested := false }

/-- Waits; frames that come in meanwhile go to `deliver`. -/
def StopWait.run (wait : StopWait σ) (deliver : Frame → Progress σ ρ → Progress σ ρ) :
    Op σ ρ Unit :=
  match wait with
  | .custom call => Op.performWith deliver call
  | .request idle => do
    if ← Op.read (·.stopRequested) then release
    else
      Op.performWith deliver idle
      Op.update Progress.requestStop
      release

/-- Where frames go. -/
inductive Sink (σ : Type) where
  | print
  /-- Someone outside, who accepts a frame or fails on it. -/
  | custom (accept : Frame → σ → Bool × σ)

/-- Hands a frame to a sink: whether it was accepted, and the progress after it. -/
def Sink.give (sink : Sink σ) (frame : Frame) (p : Progress σ ρ) : Bool × Progress σ ρ :=
  match sink with
  | .print => (true, (p.note (.frame frame)).note (.printed .standard (frame.line ++ "\n")))
  | .custom accept =>
    let p := p.note (.frame frame)
    let (accepted, env) := accept frame p.env
    (accepted, { p with env })

end BezelStream
