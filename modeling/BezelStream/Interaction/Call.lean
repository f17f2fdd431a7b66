import BezelStream.Interaction.Event

/-! # Calls of collaborators

Peripherals, adapters, prompts and the like are known only by how they answer. The
state of everything outside is a value of some type `σ`, and a call takes it to a
reply and the next state. What happens while the call runs is part of the reply.
-/

namespace BezelStream

/-- What happens while a call runs. -/
inductive Occurrence where
  | frame (frame : Frame)
  | stopRequest
  | noted (remark : Remark)
  deriving Repr

/-- The reply to a call. -/
structure Reply (α : Type) where
  /-- What happened before the call ended, in order. -/
  occurrences : List Occurrence := []
  result : Except Fault α

abbrev Call (σ α : Type) := σ → Reply α × σ

namespace Call

/-- A call that does nothing but give a value. -/
def pure {σ α : Type} (a : α) : Call σ α :=
  fun env => (⟨[], .ok a⟩, env)

/-- A call that fails at once. -/
def fail {σ α : Type} (fault : Fault) : Call σ α :=
  fun env => (⟨[], .error fault⟩, env)

/-- A call that is remarked on before its outcome is known and when it has ended. -/
def remarked {σ α : Type} (remark : Remark) (call : Call σ α) : Call σ α := fun env =>
  let (reply, env) := call env
  let ended : Remark := .ended remark (faultOf? reply.result)
  ({ reply with occurrences := .noted remark :: reply.occurrences ++ [.noted ended] }, env)

end Call

end BezelStream
