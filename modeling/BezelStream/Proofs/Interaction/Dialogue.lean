import BezelStream.Proofs.Interaction.Failing
import BezelStream.Proofs.Interaction.Writing

/-! # Dialogues

What is said to the user and asked of him, or told to a listener, stands in the journal in the
order in which it was said. Whoever answers a call adds nothing to it, so it holds just what the
program told and asked, each with how that ended.
-/

namespace BezelStream

variable {σ ρ α : Type}

/-- Whether something is told or asked by an event, or has been. -/
def Event.isDialogue : Event → Bool
  | .told _ | .notice _ | .prompt .. | .log .info .service _ => true
  | .ended (.told _) _ | .ended (.notice _) _ | .ended (.prompt ..) _ => true
  | _ => false

/-- What was told and asked, in order. -/
def dialogue (journal : List Event) : List Event :=
  journal.filter Event.isDialogue

theorem dialogue_append (left right : List Event) :
    dialogue (left ++ right) = dialogue left ++ dialogue right :=
  List.filter_append _ _

theorem dialogue_note {event : Event} (aside : event.isDialogue = false) (p : Progress σ ρ) :
    dialogue (p.note event).journal = dialogue p.journal := by
  simp [dialogue, Progress.note, aside]

/-- Nobody who answers a call can pass off anything as said by the program. -/
theorem Event.Aside.isDialogue {event : Event} (aside : event.Aside) : event.isDialogue = false := by
  cases aside with
  | stopRequested => rfl
  | remarked remark =>
      cases remark with
      | log level => cases level <;> rfl
      | ended call => cases call <;> rfl
      | radio | command | printed => rfl
  | @log level source text other =>
      cases source with
      | service => exact absurd rfl other
      | config | selection | scan | session | sink | radio => cases level <;> rfl

theorem dialogue_called {event : Event} (call : Call σ α) (p : Progress σ ρ)
    (begins : event.isDialogue = true) (ends : ∀ fault, (Event.ended event fault).isDialogue = true) :
    dialogue ((Op.called event (Op.perform call)).runFrom p).2.journal =
      dialogue p.journal ++ [event, .ended event (faultOf? (call p.env).1.result)] := by
  obtain ⟨asides, aside, written⟩ := Op.called_asides event call p
  have nothing : dialogue asides = [] :=
    List.filter_eq_nil_iff.mpr fun event member => by simp [(aside event member).isDialogue]
  rw [written, dialogue_append, List.append_cons, dialogue_append, dialogue_append, nothing]
  simp [dialogue, begins, ends]

/-! ## What is told -/

/-- The events by which a text is told, if that ended so. -/
def Notifier.account : Notifier σ → String → Option Fault → List Event
  | .silent, _, _ => []
  | .log, text, _ => [.log .info .service text]
  | .custom _, text, fault => [.notice text, .ended (.notice text) fault]

theorem Notifier.dialogue_tell (notifier : Notifier σ) (text : String) (p : Progress σ ρ) :
    dialogue ((notifier.tell text).runFrom p).2.journal =
      dialogue p.journal ++ notifier.account text (faultOf? ((notifier.tell text).runFrom p).1) := by
  cases notifier with
  | silent => exact (List.append_nil _).symm
  | log => exact dialogue_append _ _
  | custom call => exact dialogue_called _ p rfl fun _ => rfl

/-- What never fails is told to its end. -/
theorem Notifier.dialogue_tellAll {notifier : Notifier σ} (tells : notifier.Each Call.NeverFails)
    (texts : List String) (p : Progress σ ρ) :
    dialogue ((notifier.tellAll texts).runFrom p).2.journal =
      dialogue p.journal ++ texts.flatMap (notifier.account · none) := by
  induction texts generalizing p with
  | nil => exact (List.append_nil _).symm
  | cons text rest ih =>
      have fine : ((notifier.tell text).runFrom p).1 = .ok () :=
        (Op.FailsOnly.tellWith tells text).ends p
      have told := notifier.dialogue_tell text p
      rw [fine] at told
      have run : (notifier.tellAll (text :: rest)).runFrom p =
          (notifier.tellAll rest).runFrom ((notifier.tell text).runFrom p).2 :=
        Op.bind_gave fine _
      rw [run, ih, told, List.append_assoc]
      rfl

/-! ## What is asked -/

/-- The events by which an index is asked for, if that ended so. -/
def Prompt.account : Prompt σ → String → Nat → Option Fault → List Event
  | .acceptProposal, _, _, _ => []
  | .custom _, text, proposed, fault =>
    [.prompt text proposed, .ended (.prompt text proposed) fault]

theorem Prompt.dialogue_ask (prompt : Prompt σ) (text : String) (proposed : Nat) (p : Progress σ ρ) :
    dialogue ((prompt.ask text proposed).runFrom p).2.journal = dialogue p.journal ++
      prompt.account text proposed (faultOf? ((prompt.ask text proposed).runFrom p).1) := by
  cases prompt with
  | acceptProposal => exact (List.append_nil _).symm
  | custom call => exact dialogue_called _ p rfl fun _ => rfl

end BezelStream
