import BezelStream.Session

/-! # What a session deals in

The journal of a run holds everything that can be observed. The `dealings` of a session
are what it does to others: the calls of the peripheral and the texts told, each with how
that ended, and the entries of the wait. `Progress.Adds` says which dealings lie between
two points of a run; logging and taking in frames add none.
-/

namespace BezelStream

/-- A call of a peripheral, with the fault if it failed. -/
abbrev Exchange := PeripheralCall × Option Fault

/-- What a session does to others. -/
inductive Dealing where
  | exchange (exchange : Exchange)
  /-- Someone outside was told a text, with the fault if that failed. -/
  | told (text : String) (fault : Option Fault)
  | wait (state : SessionState)
  deriving Repr

/-- The exchange that a dealing is, if it is one. -/
def Dealing.exchange? : Dealing → Option Exchange
  | .exchange x => some x
  | .told .. | .wait _ => none

def Event.dealing? : Event → Option Dealing
  | .ended (.peripheral call) fault => some (.exchange (call, fault))
  | .ended (.notice text) fault => some (.told text fault)
  | .wait state => some (.wait state)
  | _ => none

/-- The call of a peripheral that an event stands for. -/
def Event.call? : Event → Option PeripheralCall
  | .peripheral call => some call
  | _ => none

def dealings (journal : List Event) : List Dealing :=
  journal.filterMap Event.dealing?

/-- The calls of peripherals in a journal, whether or not they have ended. -/
def calls (journal : List Event) : List PeripheralCall :=
  journal.filterMap Event.call?

def exchanges (log : List Dealing) : List Exchange :=
  log.filterMap Dealing.exchange?

@[simp] theorem exchanges_append (left right : List Dealing) :
    exchanges (left ++ right) = exchanges left ++ exchanges right :=
  List.filterMap_append

@[simp] theorem exchanges_nil : exchanges [] = [] :=
  rfl

@[simp] theorem exchanges_exchange (exchange : Exchange) (log : List Dealing) :
    exchanges (.exchange exchange :: log) = exchange :: exchanges log :=
  rfl

theorem exchanges_words {log : List Dealing}
    (words : ∀ d ∈ log, ∃ text fault, d = .told text fault) : exchanges log = [] := by
  refine List.filterMap_eq_nil_iff.mpr fun d member => ?_
  obtain ⟨text, fault, rfl⟩ := words d member
  rfl

/-- The call of a peripheral that has ended with an event. -/
def Event.exchange? (event : Event) : Option Exchange :=
  event.dealing?.bind Dealing.exchange?

theorem exchanges_dealings (journal : List Event) :
    exchanges (dealings journal) = journal.filterMap Event.exchange? :=
  List.filterMap_filterMap

theorem exchanges_dealings_append (left right : List Event) :
    exchanges (dealings (left ++ right)) =
      exchanges (dealings left) ++ exchanges (dealings right) := by
  rw [dealings, List.filterMap_append, exchanges_append]
  rfl

/-- An event that is no dealing and no call of a peripheral. -/
structure Event.Quiet (event : Event) : Prop where
  dealing : event.dealing? = none
  call : event.call? = none

/-- A collaborator cannot pass off its remarks as dealings of the session. -/
theorem Remark.quiet (remark : Remark) : remark.event.Quiet := by
  cases remark with
  | log | radio | command | printed => exact ⟨rfl, rfl⟩
  | ended call fault => cases call <;> exact ⟨rfl, rfl⟩

namespace Progress

variable {σ ρ : Type} {p q r : Progress σ ρ} {left right : List Dealing}

@[simp] theorem dealings_note (event : Event) (p : Progress σ ρ) :
    dealings (p.note event).journal = dealings p.journal ++ event.dealing?.toList := by
  simp only [dealings, note, List.filterMap_append]
  cases found : event.dealing? <;> simp [found]

@[simp] theorem calls_note (event : Event) (p : Progress σ ρ) :
    calls (p.note event).journal = calls p.journal ++ event.call?.toList := by
  simp only [calls, note, List.filterMap_append]
  cases found : event.call? <;> simp [found]

/-- The dealings between two points of a run. The calls between them are those of the
    exchanges, so none is open. -/
structure Adds (p : Progress σ ρ) (log : List Dealing) (q : Progress σ ρ) : Prop where
  dealings : dealings q.journal = BezelStream.dealings p.journal ++ log
  calls : calls q.journal = BezelStream.calls p.journal ++ (exchanges log).map Prod.fst

namespace Adds

theorem of_journal (same : q.journal = p.journal) : p.Adds [] q :=
  ⟨by simp [same], by simp [same, exchanges]⟩

theorem refl (p : Progress σ ρ) : p.Adds [] p :=
  of_journal rfl

theorem trans (first : p.Adds left q) (second : q.Adds right r) : p.Adds (left ++ right) r where
  dealings := by rw [second.dealings, first.dealings, List.append_assoc]
  calls := by
    rw [second.calls, first.calls, List.append_assoc, exchanges_append, List.map_append]

theorem unique (one : p.Adds left q) (other : p.Adds right q) : left = right :=
  List.append_cancel_left (one.dealings.symm.trans other.dealings)

theorem note {event : Event} (quiet : event.Quiet) (p : Progress σ ρ) :
    p.Adds [] (p.note event) where
  dealings := by simp [quiet.dealing]
  calls := by simp [quiet.call, exchanges]

theorem noted {log : List Dealing} {event : Event} (adds : p.Adds log q) (quiet : event.Quiet) :
    p.Adds log (q.note event) :=
  log.append_nil ▸ adds.trans (.note quiet q)

theorem moved {log : List Dealing} {own : ρ} (adds : p.Adds log q) :
    p.Adds log { q with own := own } :=
  log.append_nil ▸ adds.trans (.of_journal rfl)

/-- What keeps quiet between the two notes of a call of the peripheral is an exchange. -/
theorem exchange (call : PeripheralCall) (fault : Option Fault)
    (inside : (p.note (.peripheral call)).Adds [] q) :
    p.Adds [.exchange (call, fault)] (q.note (.ended (.peripheral call) fault)) where
  dealings := by simp [inside.dealings, Event.dealing?]
  calls := by simp [inside.calls, Event.call?, exchanges, Dealing.exchange?]

/-- What keeps quiet between the two notes of a notice is a text told. -/
theorem told (text : String) (fault : Option Fault)
    (inside : (p.note (.notice text)).Adds [] q) :
    p.Adds [.told text fault] (q.note (.ended (.notice text) fault)) where
  dealings := by simp [inside.dealings, Event.dealing?]
  calls := by simp [inside.calls, Event.call?, exchanges, Dealing.exchange?]

/-- What keeps quiet between the two notes of the wait is a wait. -/
theorem wait (state : SessionState) (fault : Option Fault)
    (inside : (p.note (.wait state)).Adds [] q) :
    p.Adds [.wait state] (q.note (.ended (.wait state) fault)) where
  dealings := by simp [inside.dealings, Event.dealing?]
  calls := by simp [inside.calls, Event.call?, exchanges, Dealing.exchange?]

end Adds

end Progress

end BezelStream
