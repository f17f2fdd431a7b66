import BezelStream.Interaction.Collaborator

/-! # How operations fail

An operation fails only by faults of some kind if, wherever it begins, it ends with a value or
with such a fault. Each way to compose operations has a rule; a handler of faults may assume
that what it handles is of the kind by which the operation before it fails.
-/

namespace BezelStream

variable {σ ρ α β : Type} {kind wider : Fault → Prop}

/-- A call that gives a value or a fault of the kind, whatever the state outside is. -/
def Call.FailsOnly (kind : Fault → Prop) (call : Call σ α) : Prop :=
  ∀ env f, (call env).1.result = .error f → kind f

abbrev Call.NeverFails (call : Call σ α) : Prop :=
  call.FailsOnly fun _ => False

/-! ## Whoever is called -/

/-- All calls of a notifier are so. -/
def Notifier.Each (holds : ∀ {α : Type}, Call σ α → Prop) : Notifier σ → Prop
  | .silent | .log => True
  | .custom call => ∀ text, holds (call text)

def Prompt.Each (holds : ∀ {α : Type}, Call σ α → Prop) : Prompt σ → Prop
  | .acceptProposal => True
  | .custom call => ∀ text proposed, holds (call text proposed)

def StopWait.Each (holds : ∀ {α : Type}, Call σ α → Prop) : StopWait σ → Prop
  | .request idle => holds idle
  | .custom call => holds call

namespace Op

def FailsOnly (kind : Fault → Prop) (x : Op σ ρ α) : Prop :=
  ∀ p f, (x.runFrom p).1 = .error f → kind f

abbrev NeverFails (x : Op σ ρ α) : Prop :=
  x.FailsOnly fun _ => False

namespace FailsOnly

variable {x : Op σ ρ α}

theorem imp (fails : FailsOnly kind x) (implies : ∀ f, kind f → wider f) : FailsOnly wider x :=
  fun p f failed => implies f (fails p f failed)

theorem of_never (never : NeverFails x) : FailsOnly kind x :=
  never.imp fun _ => False.elim

/-- What never fails and gives nothing ends in one way only. -/
theorem ends {x : Op σ ρ Unit} (never : NeverFails x) (p : Progress σ ρ) :
    (x.runFrom p).1 = .ok () := by
  cases ended : (x.runFrom p).1 with
  | error f => exact (never p f ended).elim
  | ok => rfl

theorem pure (a : α) : FailsOnly (σ := σ) (ρ := ρ) kind (Pure.pure a) :=
  nofun

theorem throw {f : Fault} (fits : kind f) :
    FailsOnly (σ := σ) (ρ := ρ) (α := α) kind (MonadExcept.throw f) := by
  rintro p g ⟨⟩
  exact fits

/-- Nothing follows a fault, so what would have followed may fail in any way. -/
theorem throw_bind {f : Fault} (fits : kind f) (next : α → Op σ ρ β) :
    FailsOnly kind (MonadExcept.throw f >>= next) :=
  throw fits

theorem update (f : Progress σ ρ → Progress σ ρ) : FailsOnly kind (Op.update f) :=
  nofun

theorem read (f : Progress σ ρ → α) : FailsOnly kind (Op.read f) :=
  nofun

theorem performWith {call : Call σ α} (fails : call.FailsOnly kind)
    (deliver : Frame → Progress σ ρ → Progress σ ρ) : FailsOnly kind (Op.performWith deliver call) :=
  fun p => fails p.env

/-- What follows an operation may assume how the value is made that the operation gives. -/
theorem bind_of_gives {shape : α → Prop} {next : α → Op σ ρ β} (first : FailsOnly kind x)
    (gives : ∀ p a, (x.runFrom p).1 = .ok a → shape a)
    (rest : ∀ a, shape a → FailsOnly kind (next a)) : FailsOnly kind (x >>= next) := by
  intro p f failed
  rw [runFrom_bind] at failed
  rcases ended : x.runFrom p with ⟨g | a, q⟩ <;> rw [ended] at failed
  · cases failed
    exact first p f (congrArg Prod.fst ended)
  · exact rest a (gives p a (congrArg Prod.fst ended)) q f failed

theorem bind {next : α → Op σ ρ β} (first : FailsOnly kind x)
    (rest : ∀ a, FailsOnly kind (next a)) : FailsOnly kind (x >>= next) :=
  first.bind_of_gives (fun _ _ _ => trivial) fun a _ => rest a

/-- A handler goes on with a value, or with a fault by which the operation before it fails. -/
theorem handled {next : Except Fault α → Op σ ρ β} (first : FailsOnly kind x)
    (fails : ∀ f, kind f → FailsOnly wider (next (.error f)))
    (gives : ∀ a, FailsOnly wider (next (.ok a))) : FailsOnly wider (x.attempt >>= next) := by
  intro p f failed
  rw [runFrom_bind, runFrom_attempt] at failed
  cases ended : (x.runFrom p).1 with
  | error g =>
      rw [ended] at failed
      exact fails g (first p g ended) _ f failed
  | ok a =>
      rw [ended] at failed
      exact gives a _ f failed

theorem ite {c : Prop} [Decidable c] {y : Op σ ρ α} (yes : c → FailsOnly kind x)
    (no : ¬ c → FailsOnly kind y) : FailsOnly kind (if c then x else y) := by
  split
  case isTrue holds => exact yes holds
  case isFalse holds => exact no holds

theorem called (event : Event) (fails : FailsOnly kind x) : FailsOnly kind (Op.called event x) :=
  fun p => fails (p.note event)

theorem ensuring {last : Op σ ρ Unit} (first : FailsOnly kind x) (rest : FailsOnly kind last) :
    FailsOnly kind (x.ensuring last) :=
  first.handled (fun _ fits => rest.bind fun _ => throw fits) fun a => rest.bind fun _ => pure a

theorem within {ρ' : Type} {x : Op σ ρ' α} (start : ρ') (fails : FailsOnly kind x) :
    FailsOnly kind (Op.within (ρ := ρ) start x) :=
  fun p => fails ⟨p.env, p.journal, p.stopRequested, start⟩

section

variable {deliver : Frame → Progress σ ρ → Progress σ ρ}

theorem tellWith {notifier : Notifier σ} (tells : notifier.Each (Call.FailsOnly kind))
    (text : String) : FailsOnly kind (notifier.tellWith deliver text) := by
  cases notifier with
  | silent => exact pure ()
  | log => exact update _
  | custom call => exact called _ (performWith (tells text) deliver)

theorem tellAllWith {notifier : Notifier σ} (tells : notifier.Each (Call.FailsOnly kind))
    (texts : List String) : FailsOnly kind (notifier.tellAllWith deliver texts) := by
  induction texts with
  | nil => exact pure ()
  | cons text rest ih => exact bind (tellWith tells text) fun _ => ih

theorem ask {prompt : Prompt σ} (asks : prompt.Each (Call.FailsOnly kind)) (text : String)
    (proposed : Nat) : FailsOnly kind (prompt.ask (ρ := ρ) text proposed) := by
  cases prompt with
  | acceptProposal => exact pure _
  | custom call => exact called _ (performWith (asks text proposed) _)

theorem waitWith {wait : StopWait σ} (waits : wait.Each (Call.FailsOnly kind)) :
    FailsOnly kind (wait.run deliver) := by
  cases wait with
  | custom call => exact performWith waits deliver
  | request idle =>
      have lets : FailsOnly (σ := σ) (ρ := ρ) kind release := bind (update _) fun _ => update _
      refine bind (read _) fun _ => ite (fun _ => lets) fun _ => ?_
      exact bind (performWith waits deliver) fun _ => bind (update _) fun _ => lets

end

end FailsOnly

section

variable {x : Op σ ρ α} {p : Progress σ ρ}

/-- What fails at once is not followed by anything. -/
theorem bind_error {f : Fault} (failed : (x.runFrom p).1 = .error f) (next : α → Op σ ρ β) :
    ((x >>= next).runFrom p).1 = .error f := by
  rw [runFrom_bind]
  rcases ended : x.runFrom p with ⟨g | a, q⟩ <;> rw [ended] at failed <;> cases failed
  rfl

/-- What gives a value is followed by what comes next. -/
theorem bind_gave {a : α} (gave : (x.runFrom p).1 = .ok a) (next : α → Op σ ρ β) :
    (x >>= next).runFrom p = (next a).runFrom (x.runFrom p).2 := by
  rw [runFrom_bind]
  rcases ended : x.runFrom p with ⟨g | b, q⟩ <;> rw [ended] at gave <;> cases gave
  rfl

/-- What runs in any case is the last that happens. -/
theorem ensuring_last (x : Op σ ρ α) (last : Op σ ρ Unit) (p : Progress σ ρ) :
    ((x.ensuring last).runFrom p).2 = (last.runFrom (x.runFrom p).2).2 := by
  rw [runFrom_ensuring]
  rcases last.runFrom (x.runFrom p).2 with ⟨_ | _, _⟩ <;> rfl

/-- An operation ends in its own way if what runs in any case after it does not fail. -/
theorem ensuring_never {last : Op σ ρ Unit} (never : NeverFails last) (x : Op σ ρ α)
    (p : Progress σ ρ) : ((x.ensuring last).runFrom p).1 = (x.runFrom p).1 := by
  have ends := never.ends (x.runFrom p).2
  rw [runFrom_ensuring]
  rcases ended : last.runFrom (x.runFrom p).2 with ⟨f | _, q⟩
  · rw [ended] at ends
    cases ends
  · rfl

end

end Op

end BezelStream
