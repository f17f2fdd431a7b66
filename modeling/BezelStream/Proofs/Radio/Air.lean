import BezelStream.Proofs.Interaction.Failing
import BezelStream.Proofs.Session.Dealings
import BezelStream.Radio.Machine

/-! # What is on the air

A call of the radio is on the air twice, as it is made and as it ends. `Progress.Hears` says
what of this lies between two points of a run, together with the calls of the peripheral. Those
who keep `Apart` from the radio may change the host, but neither which client is held nor how
many were made, and nothing of theirs is on the air.
-/

namespace BezelStream

/-- What is on the air of an event: a call of the radio, or its end. -/
def Event.aired? : Event → Option Event
  | .radio call => some (.radio call)
  | .ended (.radio call) fault => some (.ended (.radio call) fault)
  | _ => none

/-- All that was on the air, in order. -/
def aired (journal : List Event) : List Event :=
  journal.filterMap Event.aired?

def Occurrence.aired? : Occurrence → Option Event
  | .noted remark => remark.event.aired?
  | _ => none

/-- What is on the air while a call runs. -/
def airedBy (occurrences : List Occurrence) : List Event :=
  occurrences.filterMap Occurrence.aired?

@[simp] theorem airedBy_append (left right : List Occurrence) :
    airedBy (left ++ right) = airedBy left ++ airedBy right :=
  List.filterMap_append

@[simp] theorem airedBy_nil : airedBy [] = [] :=
  rfl

/-- A call of the radio on the air, from its beginning to its end. -/
def dialled (call : RadioCall) (fault : Option Fault) : List Event :=
  [.radio call, .ended (.radio call) fault]

/-- An event that is neither on the air nor the end of a call of a peripheral. -/
structure Event.OffAir (event : Event) : Prop where
  aired : event.aired? = none
  exchange : event.exchange? = none

/-- Nothing is on the air while the call runs. -/
def Call.OffAir {σ α : Type} (call : Call σ α) : Prop :=
  ∀ env, airedBy (call env).1.occurrences = []

/-- A call that is remarked on is on the air as the remarks on it are. -/
theorem airedBy_remarked {σ α : Type} {call : Call σ α} (off : call.OffAir) (remark : Remark)
    (env : σ) :
    airedBy (call.remarked remark env).1.occurrences = remark.event.aired?.toList ++
      (Event.ended remark.event (faultOf? (call env).1.result)).aired?.toList := by
  have inside : airedBy (call env).1.occurrences = [] := off env
  have single (occurrence : Occurrence) : airedBy [occurrence] = occurrence.aired?.toList := by
    simp only [airedBy, List.filterMap_cons, List.filterMap_nil]
    cases occurrence.aired? <;> rfl
  change airedBy (.noted remark :: (call env).1.occurrences ++ [.noted (.ended remark _)]) = _
  rw [← List.singleton_append, airedBy_append, airedBy_append, inside, single, single,
    List.append_nil]
  rfl

namespace Radio

/-- What is known of clients: which one is held, and how many were made. -/
structure Line where
  held : Option Client
  made : Nat
  deriving Repr, DecidableEq

def Machine.line {τ : Type} (m : Machine τ) : Line :=
  ⟨m.held, m.made⟩

/-- A call of the host alone is one call of the radio, if nothing else is on the air. -/
theorem onHost_dials {τ α : Type} {call : Call τ α} (off : call.OffAir) (event : RadioCall)
    (m : Machine τ) :
    ∃ occurrences host, onHost event call m =
        (⟨occurrences, (call m.host).1.result⟩, { m with host }) ∧
      airedBy occurrences = dialled event (faultOf? (call m.host).1.result) := by
  exact ⟨_, _, rfl, airedBy_remarked off (.radio event) m.host⟩

end Radio

open Radio (Machine)

variable {τ ρ ρ' α β : Type}

/-- A call by someone who has nothing to do with the radio. -/
structure Call.Apart (call : Call (Machine τ) α) : Prop where
  line : ∀ m, (call m).2.line = m.line
  offAir : call.OffAir

/-- A sink that has nothing to do with the radio. -/
def Sink.Apart : Sink (Machine τ) → Prop
  | .print => True
  | .custom accept => ∀ frame m, (accept frame m).2.line = m.line

namespace Progress

/-- The calls of the peripheral that ended between two points of a run, and what was on the
    air. -/
structure Hears (p : Progress (Machine τ) ρ) (exchanged : List Exchange) (air : List Event)
    (q : Progress (Machine τ) ρ') : Prop where
  exchanges : exchanges (dealings q.journal) = BezelStream.exchanges (dealings p.journal) ++ exchanged
  aired : aired q.journal = BezelStream.aired p.journal ++ air

/-- Between two points of a run, nobody had anything to do with the radio. -/
structure Apart (p : Progress (Machine τ) ρ) (q : Progress (Machine τ) ρ') : Prop where
  line : q.env.line = p.env.line
  silent : p.Hears [] [] q

variable {ρ'' : Type} {p : Progress (Machine τ) ρ} {q : Progress (Machine τ) ρ'}
  {r : Progress (Machine τ) ρ''} {left right : List Exchange} {air more : List Event}

namespace Hears

theorem of_journal (same : q.journal = p.journal) : p.Hears [] [] q :=
  ⟨by rw [same, List.append_nil], by rw [same, List.append_nil]⟩

theorem trans (first : p.Hears left air q) (second : q.Hears right more r) :
    p.Hears (left ++ right) (air ++ more) r where
  exchanges := by rw [second.exchanges, first.exchanges, List.append_assoc]
  aired := by rw [second.aired, first.aired, List.append_assoc]

theorem note (event : Event) (p : Progress (Machine τ) ρ) :
    p.Hears event.exchange?.toList event.aired?.toList (p.note event) where
  exchanges := by
    simp only [exchanges_dealings, Progress.note, List.filterMap_append]
    cases found : event.exchange? <;> simp [found]
  aired := by
    simp only [BezelStream.aired, Progress.note, List.filterMap_append]
    cases found : event.aired? <;> simp [found]

end Hears

namespace Apart

theorem refl (p : Progress (Machine τ) ρ) : p.Apart p :=
  ⟨rfl, .of_journal rfl⟩

theorem trans (first : p.Apart q) (second : q.Apart r) : p.Apart r :=
  ⟨second.line.trans first.line, first.silent.trans second.silent⟩

theorem hears (apart : p.Apart q) (hears : q.Hears left air r) : p.Hears left air r :=
  apart.silent.trans hears

theorem own {own : ρ'} : p.Apart (⟨p.env, p.journal, p.stopRequested, own⟩ : Progress _ ρ') :=
  ⟨rfl, .of_journal rfl⟩

theorem note {event : Event} (off : event.OffAir) (p : Progress (Machine τ) ρ) :
    p.Apart (p.note event) := by
  have hears := Hears.note event p
  rw [off.aired, off.exchange] at hears
  exact ⟨rfl, hears⟩

end Apart

theorem Hears.apart (hears : p.Hears left air q) (apart : q.Apart r) : p.Hears left air r := by
  have both := hears.trans apart.silent
  rwa [List.append_nil, List.append_nil] at both

section Taking

variable {deliver : Frame → Progress (Machine τ) ρ → Progress (Machine τ) ρ}
  (delivers : ∀ (frame : Frame) (p : Progress (Machine τ) ρ), p.Apart (deliver frame p))

include delivers

theorem take_hears (p : Progress (Machine τ) ρ) (occurrence : Occurrence) :
    (p.take deliver occurrence).env.line = p.env.line ∧
      p.Hears [] occurrence.aired?.toList (p.take deliver occurrence) := by
  cases occurrence with
  | frame frame => exact ⟨(delivers frame p).line, (delivers frame p).silent⟩
  | stopRequest =>
      have noted : p.Apart (p.note .stopRequested) := .note ⟨rfl, rfl⟩ p
      exact ⟨rfl, noted.silent.exchanges, noted.silent.aired⟩
  | noted remark =>
      have hears := Hears.note remark.event p
      rw [Event.exchange?, remark.quiet.dealing] at hears
      exact ⟨rfl, hears⟩

theorem takeAll_hears (p : Progress (Machine τ) ρ) (occurrences : List Occurrence) :
    (p.takeAll deliver occurrences).env.line = p.env.line ∧
      p.Hears [] (airedBy occurrences) (p.takeAll deliver occurrences) := by
  induction occurrences generalizing p with
  | nil => exact ⟨rfl, .of_journal rfl⟩
  | cons occurrence rest ih =>
      obtain ⟨line, taken⟩ := take_hears delivers p occurrence
      obtain ⟨lines, hears⟩ := ih (p.take deliver occurrence)
      have both := taken.trans hears
      have whole : occurrence.aired?.toList ++ airedBy rest = airedBy (occurrence :: rest) := by
        simp only [airedBy, List.filterMap_cons]
        cases occurrence.aired? <;> rfl
      rw [whole] at both
      exact ⟨lines.trans line, both⟩

end Taking

end Progress

open Progress (Apart)

/-! ## Operations apart from the radio -/

namespace Op

/-- Wherever it begins, the operation has nothing to do with the radio. -/
def Apart (x : Op (Machine τ) ρ α) : Prop :=
  ∀ p : Progress (Machine τ) ρ, p.Apart (x.runFrom p).2

namespace Apart

variable {x : Op (Machine τ) ρ α}

theorem pure (a : α) : Apart (τ := τ) (ρ := ρ) (Pure.pure a) :=
  fun p => .refl p

theorem throw (f : Fault) : Apart (τ := τ) (ρ := ρ) (α := α) (MonadExcept.throw f) :=
  fun p => .refl p

/-- Nothing follows a fault, so what would have followed need not be apart. -/
theorem throw_bind (f : Fault) (next : α → Op (Machine τ) ρ β) :
    Apart (MonadExcept.throw f >>= next) :=
  fun p => .refl p

theorem update {f : Progress (Machine τ) ρ → Progress (Machine τ) ρ}
    (apart : ∀ p : Progress (Machine τ) ρ, p.Apart (f p)) : Apart (Op.update f) :=
  apart

theorem note {event : Event} (off : event.OffAir) : Apart (τ := τ) (ρ := ρ) (Op.note event) :=
  fun p => .note off p

theorem bind {next : α → Op (Machine τ) ρ β} (first : Apart x) (rest : ∀ a, Apart (next a)) :
    Apart (x >>= next) := by
  intro p
  have begins := first p
  rw [runFrom_bind]
  generalize x.runFrom p = ended at begins ⊢
  rcases ended with ⟨f | a, q⟩
  · exact begins
  · exact begins.trans (rest a q)

theorem called {event : Event} (off : event.OffAir) (ends : ∀ fault, (Event.ended event fault).OffAir)
    (apart : Apart x) : Apart (Op.called event x) := by
  intro p
  have inside := (Progress.Apart.note off p).trans (apart (p.note event))
  exact inside.trans (.note (ends _) _)

section

variable {deliver : Frame → Progress (Machine τ) ρ → Progress (Machine τ) ρ}
  (delivers : ∀ (frame : Frame) (p : Progress (Machine τ) ρ), p.Apart (deliver frame p))

include delivers

theorem performWith {call : Call (Machine τ) α} (apart : call.Apart) :
    Apart (Op.performWith deliver call) := by
  intro p
  obtain ⟨line, hears⟩ := Progress.takeAll_hears delivers { p with env := (call p.env).2 }
    (call p.env).1.occurrences
  rw [apart.offAir p.env] at hears
  exact ⟨line.trans (apart.line p.env), hears.exchanges, hears.aired⟩

theorem tellWith {notifier : Notifier (Machine τ)} (tells : notifier.Each Call.Apart)
    (text : String) : Apart (notifier.tellWith deliver text) := by
  cases notifier with
  | silent => exact pure ()
  | log => exact note ⟨rfl, rfl⟩
  | custom call => exact called ⟨rfl, rfl⟩ (fun _ => ⟨rfl, rfl⟩) (performWith delivers (tells text))

theorem waitWith {wait : StopWait (Machine τ)} (waits : wait.Each Call.Apart) :
    Apart (wait.run deliver) := by
  cases wait with
  | custom call => exact performWith delivers waits
  | request idle =>
      have lets : Apart (τ := τ) (ρ := ρ) release :=
        bind (note ⟨rfl, rfl⟩) fun _ => update fun p => ⟨rfl, .of_journal rfl⟩
      have requests (p : Progress (Machine τ) ρ) : p.Apart p.requestStop := by
        have noted : p.Apart (p.note .stopRequested) := .note ⟨rfl, rfl⟩ p
        exact noted.trans ⟨rfl, .of_journal rfl⟩
      refine bind (fun p => .refl p) fun requested => ?_
      cases requested with
      | true => exact lets
      | false =>
          exact bind (performWith delivers waits) fun _ => bind (update requests) fun _ => lets

end

theorem perform {call : Call (Machine τ) α} (apart : call.Apart) :
    Apart (ρ := ρ) (Op.perform call) :=
  performWith (fun _ p => .refl p) apart

theorem tell {notifier : Notifier (Machine τ)} (tells : notifier.Each Call.Apart)
    (text : String) : Apart (ρ := ρ) (notifier.tell text) :=
  tellWith (fun _ p => .refl p) tells text

theorem tellAll {notifier : Notifier (Machine τ)} (tells : notifier.Each Call.Apart)
    (texts : List String) : Apart (ρ := ρ) (notifier.tellAll texts) := by
  induction texts with
  | nil => exact pure ()
  | cons text rest ih => exact bind (tell tells text) fun _ => ih

theorem ask {prompt : Prompt (Machine τ)} (asks : prompt.Each Call.Apart) (text : String)
    (proposed : Nat) : Apart (ρ := ρ) (prompt.ask text proposed) := by
  cases prompt with
  | acceptProposal => exact pure _
  | custom call =>
      exact called ⟨rfl, rfl⟩ (fun _ => ⟨rfl, rfl⟩) (perform (asks text proposed))

end Apart

end Op

end BezelStream
