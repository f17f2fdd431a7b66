import BezelStream.Interaction.Collaborator

/-! # Operations side by side

Two operations go `Abreast` under a relation of their progresses if from related ones they
end alike and in related ones. Each way to compose operations has a rule, so that two
operations of one form go abreast as soon as their leaves do. An invariant is the case in
which both operations are the same and both progresses are one (`Progress.One`).
-/

namespace BezelStream

/-- An event that anyone may cause while he answers a call, or a record of what was done. The
    service is left out, which records only what it tells. -/
inductive Event.Aside : Event → Prop where
  | stopRequested : Aside .stopRequested
  | remarked (remark : Remark) : Aside remark.event
  | log (level : Level) {source : LogSource} (text : String) (other : source ≠ .service) :
      Aside (.log level source text)

variable {σ ρ α β : Type} {R : Progress σ ρ → Progress σ ρ → Prop}

namespace Op

/-- From related progresses, both operations end alike and in related ones. -/
def Abreast (R : Progress σ ρ → Progress σ ρ → Prop) (x y : Op σ ρ α) : Prop :=
  ∀ ⦃p q⦄, R p q → (x.runFrom p).1 = (y.runFrom q).1 ∧ R (x.runFrom p).2 (y.runFrom q).2

/-- Progresses stay related where the event is noted. -/
def Notes (R : Progress σ ρ → Progress σ ρ → Prop) (event : Event) : Prop :=
  ∀ ⦃p q⦄, R p q → R (p.note event) (q.note event)

/-- Progresses stay related where a call is journalled, and where it ends. -/
structure Journals (R : Progress σ ρ → Progress σ ρ → Prop) (event : Event) : Prop where
  begins : Notes R event
  ends : ∀ fault, Notes R (.ended event fault)

/-- Progresses stay related where a text is told, to someone outside or to the log. -/
structure Conveys (R : Progress σ ρ → Progress σ ρ → Prop) (text : String) : Prop where
  outside : Journals R (.notice text)
  logged : Notes R (.log .info .service text)

/-- Progresses stay related where a pending stop request is used up. -/
def Releases (R : Progress σ ρ → Progress σ ρ → Prop) : Prop :=
  ∀ ⦃p q⦄, R p q → R { p.note .released with stopRequested := false }
    { q.note .released with stopRequested := false }

/-- Related progresses agree in all that an operation reads, and stay related whatever a
    collaborator does to them while he answers. -/
structure Alike (R : Progress σ ρ → Progress σ ρ → Prop) : Prop where
  env : ∀ {p q}, R p q → p.env = q.env
  requested : ∀ {p q}, R p q → p.stopRequested = q.stopRequested
  own : ∀ {p q}, R p q → p.own = q.own
  answers : ∀ {p q}, R p q → ∀ env, R { p with env } { q with env }
  requests : ∀ {p q}, R p q → R p.requestStop q.requestStop
  remarks : ∀ remark : Remark, Notes R remark.event
  logs : ∀ (level : Level) {source : LogSource} (text : String), source ≠ .service →
    Notes R (.log level source text)

namespace Abreast

theorem pure (a : α) : Abreast R (Pure.pure a) (Pure.pure a) :=
  fun _ _ related => ⟨rfl, related⟩

theorem throw (f : Fault) : Abreast (α := α) R (MonadExcept.throw f) (MonadExcept.throw f) :=
  fun _ _ related => ⟨rfl, related⟩

/-- Nothing follows a fault, so what would have followed need not go abreast. -/
theorem throw_bind (f : Fault) (next next' : α → Op σ ρ β) :
    Abreast R (MonadExcept.throw f >>= next) (MonadExcept.throw f >>= next') :=
  fun _ _ related => ⟨rfl, related⟩

theorem ofResult (result : Except Fault α) : Abreast R (Op.ofResult result) (Op.ofResult result) :=
  fun _ _ related => ⟨rfl, related⟩

theorem bind {x y : Op σ ρ α} {next next' : α → Op σ ρ β} (first : Abreast R x y)
    (rest : ∀ a, Abreast R (next a) (next' a)) : Abreast R (x >>= next) (y >>= next') := by
  intro p q related
  obtain ⟨same, after⟩ := first related
  rw [runFrom_bind, runFrom_bind]
  generalize x.runFrom p = left at same after ⊢
  generalize y.runFrom q = right at same after ⊢
  rcases left with ⟨f | a, p⟩ <;> rcases right with ⟨g | b, q⟩ <;> cases same
  · exact ⟨rfl, after⟩
  · exact rest a after

theorem ite {c : Prop} [Decidable c] {x x' y y' : Op σ ρ α} (yes : Abreast R x x')
    (no : Abreast R y y') : Abreast R (if c then x else y) (if c then x' else y') := by
  split
  · exact yes
  · exact no

theorem attempt {x y : Op σ ρ α} (both : Abreast R x y) : Abreast R x.attempt y.attempt := by
  intro p q related
  obtain ⟨same, after⟩ := both related
  exact ⟨congrArg Except.ok same, after⟩

theorem ensuring {x y : Op σ ρ α} {last last' : Op σ ρ Unit} (first : Abreast R x y)
    (rest : Abreast R last last') : Abreast R (x.ensuring last) (y.ensuring last') :=
  bind first.attempt fun result => bind rest fun _ => ofResult result

theorem update {f g : Progress σ ρ → Progress σ ρ} (moves : ∀ {p q}, R p q → R (f p) (g q)) :
    Abreast R (Op.update f) (Op.update g) :=
  fun _ _ related => ⟨rfl, moves related⟩

theorem read {f g : Progress σ ρ → α} (agree : ∀ {p q}, R p q → f p = g q) :
    Abreast R (Op.read f) (Op.read g) :=
  fun _ _ related => ⟨congrArg Except.ok (agree related), related⟩

theorem note {event : Event} (notes : Notes R event) :
    Abreast R (Op.note event) (Op.note event) :=
  update fun related => notes related

theorem called {event : Event} {x y : Op σ ρ α} (journals : Journals R event)
    (both : Abreast R x y) : Abreast R (Op.called event x) (Op.called event y) :=
  bind (note journals.begins) fun _ => bind both.attempt fun result =>
    bind (note (journals.ends (faultOf? result))) fun _ => ofResult result

end Abreast

namespace Alike

variable (alike : Alike R)

include alike

theorem readOwn : Abreast R Op.own Op.own :=
  .read alike.own

theorem log (level : Level) {source : LogSource} (text : String) (other : source ≠ .service) :
    Abreast R (Op.log level source text) (Op.log level source text) :=
  .note (alike.logs level text other)

section Taking

variable {deliver deliver' : Frame → Progress σ ρ → Progress σ ρ}
  (delivers : ∀ frame {p q}, R p q → R (deliver frame p) (deliver' frame q))

include delivers

theorem take {p q : Progress σ ρ} (related : R p q) (occurrence : Occurrence) :
    R (p.take deliver occurrence) (q.take deliver' occurrence) := by
  cases occurrence with
  | frame frame => exact delivers frame related
  | stopRequest => exact alike.requests related
  | noted remark => exact alike.remarks remark related

theorem takeAll {p q : Progress σ ρ} (related : R p q) (occurrences : List Occurrence) :
    R (p.takeAll deliver occurrences) (q.takeAll deliver' occurrences) := by
  induction occurrences generalizing p q with
  | nil => exact related
  | cons occurrence rest ih => exact ih (alike.take delivers related occurrence)

theorem performWith (call : Call σ α) :
    Abreast R (Op.performWith deliver call) (Op.performWith deliver' call) := by
  intro p q related
  rw [runFrom_performWith, runFrom_performWith, alike.env related]
  exact ⟨rfl, alike.takeAll delivers (alike.answers related _) _⟩

theorem tellWith (notifier : Notifier σ) {text : String} (conveys : Conveys R text) :
    Abreast R (notifier.tellWith deliver text) (notifier.tellWith deliver' text) := by
  cases notifier with
  | silent => exact .pure ()
  | log => exact .note conveys.logged
  | custom call => exact .called conveys.outside (alike.performWith delivers (call text))

theorem tellAllWith (notifier : Notifier σ) {texts : List String}
    (conveys : ∀ text ∈ texts, Conveys R text) :
    Abreast R (notifier.tellAllWith deliver texts) (notifier.tellAllWith deliver' texts) := by
  induction texts with
  | nil => exact .pure ()
  | cons text rest ih =>
      have told := alike.tellWith delivers notifier (conveys text List.mem_cons_self)
      refine .bind told fun _ => ih fun other member => ?_
      exact conveys other (List.mem_cons_of_mem text member)

theorem waitWith (wait : StopWait σ) (releases : Releases R) :
    Abreast R (wait.run deliver) (wait.run deliver') := by
  cases wait with
  | custom call => exact alike.performWith delivers call
  | request idle =>
      have lets : Abreast R release release := fun _ _ related => ⟨rfl, releases related⟩
      refine .bind (.read alike.requested) fun requested => ?_
      cases requested with
      | true => exact lets
      | false =>
          refine .bind (alike.performWith delivers idle) fun _ => ?_
          exact .bind (.update alike.requests) fun _ => lets

end Taking

/-! ## Where no frames are awaited -/

theorem perform (call : Call σ α) : Abreast R (Op.perform call) (Op.perform call) :=
  alike.performWith (fun _ _ _ related => related) call

theorem tell (notifier : Notifier σ) {text : String} (conveys : Conveys R text) :
    Abreast R (notifier.tell text) (notifier.tell text) :=
  alike.tellWith (fun _ _ _ related => related) notifier conveys

theorem tellAll (notifier : Notifier σ) {texts : List String}
    (conveys : ∀ text ∈ texts, Conveys R text) :
    Abreast R (notifier.tellAll texts) (notifier.tellAll texts) :=
  alike.tellAllWith (fun _ _ _ related => related) notifier conveys

theorem ask (prompt : Prompt σ) {text : String} {proposed : Nat}
    (journals : Journals R (.prompt text proposed)) :
    Abreast R (prompt.ask text proposed) (prompt.ask text proposed) := by
  cases prompt with
  | acceptProposal => exact .pure _
  | custom call => exact .called journals (alike.perform (call text proposed))

end Alike

end Op

namespace Progress

/-- Both progresses are one, and an invariant holds of it. -/
def One (I : Progress σ ρ → Prop) (p q : Progress σ ρ) : Prop :=
  p = q ∧ I p

/-- Goes abreast with itself: the invariant holds after the operation as before it. -/
theorem One.kept {I : Progress σ ρ → Prop} {x : Op σ ρ α} (both : Op.Abreast (One I) x x)
    {p : Progress σ ρ} (holds : I p) : I (x.runFrom p).2 :=
  (both ⟨rfl, holds⟩).2.2

theorem One.abreast {I : Progress σ ρ → Prop} {x : Op σ ρ α}
    (keeps : ∀ p, I p → I (x.runFrom p).2) : Op.Abreast (One I) x x := by
  rintro p q ⟨rfl, holds⟩
  exact ⟨rfl, rfl, keeps p holds⟩

end Progress

end BezelStream
