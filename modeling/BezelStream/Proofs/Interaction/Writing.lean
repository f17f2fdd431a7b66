import BezelStream.Proofs.Interaction.Abreast

/-! # What operations write

A journal only grows. An operation `Writes` events of some kind if it adds no others to it,
however it ends. What is composed of operations that write such events writes such events.
-/

namespace BezelStream

variable {σ ρ ρ' α β : Type} {allowed : Event → Prop}

namespace Progress

/-- The progress with these events at the end of its journal. -/
def noteAll (events : List Event) (p : Progress σ ρ) : Progress σ ρ :=
  { p with journal := p.journal ++ events }

@[simp] theorem noteAll_nil (p : Progress σ ρ) : p.noteAll [] = p := by
  rw [noteAll, List.append_nil]

theorem noteAll_note (event : Event) (events : List Event) (p : Progress σ ρ) :
    (p.note event).noteAll events = p.noteAll (event :: events) := by
  simp [noteAll, note]

theorem noteAll_noteAll (first second : List Event) (p : Progress σ ρ) :
    (p.noteAll first).noteAll second = p.noteAll (first ++ second) := by
  simp [noteAll]

/-- Since the journal was this one, only such events were added. -/
def Since (allowed : Event → Prop) (journal : List Event) (p : Progress σ ρ) : Prop :=
  ∃ more, p.journal = journal ++ more ∧ ∀ event ∈ more, allowed event

namespace Since

variable {p : Progress σ ρ} {q : Progress σ ρ'} {journal : List Event}

theorem of_journal (same : q.journal = p.journal) : q.Since allowed p.journal :=
  ⟨[], same.trans (List.append_nil _).symm, List.forall_mem_nil _⟩

theorem refl (p : Progress σ ρ) : p.Since allowed p.journal :=
  of_journal rfl

theorem trans (first : p.Since allowed journal) (second : q.Since allowed p.journal) :
    q.Since allowed journal := by
  obtain ⟨left, leftGrown, leftAllowed⟩ := first
  obtain ⟨right, rightGrown, rightAllowed⟩ := second
  refine ⟨left ++ right, ?_, ?_⟩
  · rw [rightGrown, leftGrown, List.append_assoc]
  · intro event member
    exact (List.mem_append.mp member).elim (leftAllowed event) (rightAllowed event)

theorem note {event : Event} (fits : allowed event) (p : Progress σ ρ) :
    (p.note event).Since allowed p.journal :=
  ⟨[event], rfl, by simpa using fits⟩

theorem imp {weaker : Event → Prop} (since : p.Since allowed journal)
    (implies : ∀ event, allowed event → weaker event) : p.Since weaker journal := by
  obtain ⟨more, grown, fits⟩ := since
  exact ⟨more, grown, fun event member => implies event (fits event member)⟩

theorem grows (since : p.Since allowed journal) : journal <+: p.journal := by
  obtain ⟨more, grown, -⟩ := since
  exact ⟨more, grown.symm⟩

/-- What a view cannot see of the new events leaves the view as it was. -/
theorem filterMap {γ : Type} {view : Event → Option γ}
    (since : p.Since (fun event => view event = none) journal) :
    p.journal.filterMap view = journal.filterMap view := by
  obtain ⟨more, grown, blind⟩ := since
  rw [grown, List.filterMap_append, List.filterMap_eq_nil_iff.mpr blind, List.append_nil]

end Since

end Progress

namespace Op

open Progress (One Since)

/-- Whoever answers calls may write such events. -/
def Admits (allowed : Event → Prop) : Prop :=
  ∀ ⦃event : Event⦄, event.Aside → allowed event

def Writes (allowed : Event → Prop) (x : Op σ ρ α) : Prop :=
  ∀ p, (x.runFrom p).2.Since allowed p.journal

theorem notes_since {event : Event} (fits : allowed event) (journal : List Event) :
    Notes (One (Since (σ := σ) (ρ := ρ) allowed journal)) event := by
  rintro p q ⟨rfl, since⟩
  exact ⟨rfl, since.trans (.note fits p)⟩

theorem Admits.alike (admits : Admits allowed) (journal : List Event) :
    Alike (One (Since (σ := σ) (ρ := ρ) allowed journal)) where
  env related := congrArg Progress.env related.1
  requested related := congrArg Progress.stopRequested related.1
  own related := congrArg Progress.own related.1
  answers := by
    rintro p q ⟨rfl, since⟩ env
    exact ⟨rfl, since⟩
  requests := by
    rintro p q ⟨rfl, since⟩
    exact ⟨rfl, since.trans (.note (admits .stopRequested) p)⟩
  remarks remark := notes_since (admits (.remarked remark)) journal
  logs level _ text other := notes_since (admits (.log level text other)) journal

namespace Writes

variable {x : Op σ ρ α} {last : Op σ ρ Unit}

/-- An operation writes such events if, whatever was in the journal before, nothing else has
    been added when it ends. -/
theorem of_abreast (abreast : ∀ journal, Abreast (One (Since allowed journal)) x x) :
    Writes allowed x := by
  intro p
  exact One.kept (abreast p.journal) (.refl p)

theorem abreast (writes : Writes allowed x) (journal : List Event) :
    Abreast (One (Since allowed journal)) x x := by
  rintro p q ⟨rfl, since⟩
  exact ⟨rfl, rfl, since.trans (writes p)⟩

theorem imp {weaker : Event → Prop} (writes : Writes allowed x)
    (implies : ∀ event, allowed event → weaker event) : Writes weaker x :=
  fun p => (writes p).imp implies

theorem pure (a : α) : Writes (σ := σ) (ρ := ρ) allowed (Pure.pure a) :=
  fun p => .refl p

theorem throw (f : Fault) : Writes (σ := σ) (ρ := ρ) (α := α) allowed (MonadExcept.throw f) :=
  fun p => .refl p

theorem ofResult (result : Except Fault α) : Writes (σ := σ) (ρ := ρ) allowed (.ofResult result) :=
  fun p => .refl p

theorem read (f : Progress σ ρ → α) : Writes allowed (Op.read f) :=
  fun p => .refl p

theorem note {event : Event} (fits : allowed event) : Writes (σ := σ) (ρ := ρ) allowed (.note event) :=
  fun p => .note fits p

theorem bind {next : α → Op σ ρ β} (first : Writes allowed x) (rest : ∀ a, Writes allowed (next a)) :
    Writes allowed (x >>= next) :=
  of_abreast fun journal => .bind (first.abreast journal) fun a => (rest a).abreast journal

theorem attempt (writes : Writes allowed x) : Writes allowed x.attempt :=
  writes

theorem called {event : Event} (begins : allowed event)
    (ends : ∀ fault, allowed (.ended event fault)) (writes : Writes allowed x) :
    Writes allowed (Op.called event x) :=
  .bind (.note begins) fun _ => .bind writes.attempt fun _ => .bind (.note (ends _)) fun _ =>
    .ofResult _

theorem ensuring (writes : Writes allowed x) (ends : Writes allowed last) :
    Writes allowed (x.ensuring last) :=
  .bind writes.attempt fun _ => .bind ends fun _ => .ofResult _

theorem within {start : ρ'} {x : Op σ ρ' α} (writes : Writes allowed x) :
    Writes (ρ := ρ) allowed (Op.within start x) :=
  fun p => writes ⟨p.env, p.journal, p.stopRequested, start⟩

/-- An operation that journals an event first of all. -/
theorem begun {event : Event} (fits : allowed event)
    (rest : ∀ p, (x.runFrom p).2.Since allowed (p.journal ++ [event])) : Writes allowed x :=
  fun p => (Since.note fits p).trans (rest p)

/-- Who answers a call where no frames are awaited writes asides only. -/
theorem perform (call : Call σ α) (admits : Admits allowed) :
    Writes (ρ := ρ) allowed (Op.perform call) :=
  of_abreast fun journal => (admits.alike journal).perform call

theorem tell (notifier : Notifier σ) {text : String} (admits : Admits allowed)
    (records : allowed (.log .info .service text)) (begins : allowed (.notice text))
    (ends : ∀ fault, allowed (.ended (.notice text) fault)) :
    Writes (ρ := ρ) allowed (notifier.tell text) :=
  of_abreast fun journal => (admits.alike journal).tell notifier
    ⟨⟨notes_since begins journal, fun fault => notes_since (ends fault) journal⟩,
      notes_since records journal⟩

end Writes

section Begun

variable {p : Progress σ ρ} {journal : List Event}

theorem bind_since {x : Op σ ρ α} {next : α → Op σ ρ β}
    (first : (x.runFrom p).2.Since allowed journal) (rest : ∀ a, Writes allowed (next a)) :
    ((x >>= next).runFrom p).2.Since allowed journal := by
  rw [runFrom_bind]
  generalize x.runFrom p = ended at first ⊢
  rcases ended with ⟨f | a, q⟩
  · exact first
  · exact first.trans (rest a q)

/-- A call is journalled first of all. -/
theorem called_since {event : Event} {x : Op σ ρ α} (writes : Writes allowed x)
    (ends : ∀ fault, allowed (.ended event fault)) :
    ((Op.called event x).runFrom p).2.Since allowed (p.journal ++ [event]) := by
  have begun : ((x.runFrom (p.note event)).2).Since allowed (p.journal ++ [event]) :=
    writes (p.note event)
  exact begun.trans (.note (ends _) _)

/-- Between the two notes of a call stand the asides of who answers it. -/
theorem called_asides (event : Event) (call : Call σ α) (p : Progress σ ρ) :
    ∃ asides, (∀ aside ∈ asides, Event.Aside aside) ∧
      ((Op.called event (Op.perform call)).runFrom p).2.journal =
        p.journal ++ event :: asides ++ [.ended event (faultOf? (call p.env).1.result)] := by
  obtain ⟨asides, grown, aside⟩ := Writes.perform (ρ := ρ) call (fun _ aside => aside) (p.note event)
  refine ⟨asides, aside, ?_⟩
  have longer := congrArg (· ++ [Event.ended event (faultOf? (call p.env).1.result)]) grown
  rw [Progress.note, List.append_assoc p.journal] at longer
  exact longer

/-- How a call ended is journalled last of all. -/
theorem called_last (event : Event) (x : Op σ ρ α) (p : Progress σ ρ) :
    ((Op.called event x).runFrom p).2.journal.getLast? =
      some (.ended event (faultOf? ((Op.called event x).runFrom p).1)) := by
  rw [runFrom_called]
  exact List.getLast?_concat

end Begun

end Op

end BezelStream
