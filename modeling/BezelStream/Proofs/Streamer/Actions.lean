import BezelStream.Proofs.Scan.Collecting
import BezelStream.Proofs.Selection
import BezelStream.Proofs.Session.Written
import BezelStream.Proofs.Session.Yield
import BezelStream.Streamer
import Mathlib.Data.List.Basic

/-! # What a stream does to others

The actions of a stream are what it asks of adapters and peripherals. Scanning, selecting and
all that is told on the way is `Idle`: it is no action, it ends no call of a peripheral, and it
does not bid farewell.
-/

namespace BezelStream

open Streamer (farewell)

variable {σ ρ : Type}

/-- The action that an event is, if it is one. -/
def Event.action? : Event → Option Event
  | .adapter call => some (.adapter call)
  | .peripheral call => some (.peripheral call)
  | _ => none

/-- What adapters and peripherals were asked, in order. -/
def actions (journal : List Event) : List Event :=
  journal.filterMap Event.action?

@[simp] theorem actions_append (left right : List Event) :
    actions (left ++ right) = actions left ++ actions right :=
  List.filterMap_append

/-- The farewell is bidden to someone outside, or recorded in the log. -/
inductive Event.Farewell : Event → Prop where
  | told : Farewell (.notice farewell)
  | recorded : Farewell (.log .info .service farewell)

structure Event.Idle (event : Event) : Prop where
  action : event.action? = none
  exchange : event.exchange? = none
  unbidden : ¬ event.Farewell

/-- Nobody was bidden farewell. -/
def Unbidden (journal : List Event) : Prop :=
  ∀ event ∈ journal, ¬ event.Farewell

theorem Unbidden.append {left right : List Event} (before : Unbidden left)
    (after : Unbidden right) : Unbidden (left ++ right) := by
  intro event member
  exact (List.mem_append.mp member).elim (before event) (after event)

theorem Unbidden.not_told {journal before : List Event} {event : Event}
    (unbidden : Unbidden journal) (bids : event.Farewell) : ¬ before ++ [event] <+: journal := by
  intro told
  have member := told.subset (List.mem_append_right before (List.mem_singleton_self event))
  exact unbidden event member bids

theorem unbidden_adapter (call : AdapterCall) : Unbidden [.adapter call] := by
  rintro event (_ | ⟨_, ⟨⟩⟩)
  nofun

namespace Progress.Since

variable {p : Progress σ ρ} {journal : List Event}

theorem actions (since : p.Since Event.Idle journal) :
    BezelStream.actions p.journal = BezelStream.actions journal :=
  (since.imp fun _ idle => idle.action).filterMap

theorem exchanges (since : p.Since Event.Idle journal) :
    BezelStream.exchanges (dealings p.journal) = BezelStream.exchanges (dealings journal) := by
  rw [exchanges_dealings, exchanges_dealings]
  exact (since.imp fun _ idle => idle.exchange).filterMap

theorem unbidden (since : p.Since Event.Idle journal) (unbidden : Unbidden journal) :
    Unbidden p.journal := by
  obtain ⟨more, grown, idle⟩ := since
  rw [grown]
  exact unbidden.append fun event member => (idle event member).unbidden

end Progress.Since

/-! ## Texts other than the farewell -/

def Starts (first : Char) (text : String) : Prop :=
  text.toList.head? = some first

theorem Starts.append {first : Char} {text : String} (starts : Starts first text)
    (rest : String) : Starts first (text ++ rest) := by
  unfold Starts at starts ⊢
  rw [String.toList_append, List.head?_append, starts]
  rfl

theorem Starts.ne_farewell {first : Char} {text : String} (starts : Starts first text)
    (other : first ≠ 'D') : text ≠ farewell := by
  rintro rfl
  have farewell : Starts 'D' farewell := rfl
  rw [Starts, farewell] at starts
  cases starts
  exact other rfl

theorem starts_line (c : Characteristic) : Starts ' ' c.line := by
  have starts : Starts ' ' "  Characteristic " := rfl
  unfold Characteristic.line
  exact ((((starts.append _).append _).append _).append _).append _

theorem Session.Says.ne_farewell {text : String} (worded : Session.Says text) :
    text ≠ farewell := by
  cases worded with
  | heading => decide
  | line listed =>
      obtain ⟨service, -, member⟩ := List.mem_flatMap.mp listed
      cases member with
      | head =>
          have starts : Starts 'S' "Service " := rfl
          exact (starts.append _).ne_farewell (by decide)
      | tail _ member =>
          obtain ⟨c, -, rfl⟩ := List.mem_map.mp member
          exact (starts_line c).ne_farewell (by decide)
  | unsubscribeFailed f =>
      have starts : Starts 'U' "Unsubscribe failed (continuing): " := rfl
      exact (starts.append _).ne_farewell (by decide)
  | active subscription =>
      obtain ⟨first, starts, other⟩ : ∃ first, Starts first subscription.mode.label ∧
          first ≠ 'D' := by
        cases subscription.mode with
        | notify => exact ⟨'N', rfl, by decide⟩
        | indicate => exact ⟨'I', rfl, by decide⟩
      exact (((starts.append _).append _).append _).ne_farewell other

theorem Selecting.ne_farewell {target : CodePoints} {text : String}
    (worded : Selecting target text) : text ≠ farewell := by
  cases worded with
  | only =>
      have starts : Starts 'O' "One " := rfl
      exact ((starts.append _).append _).ne_farewell (by decide)
  | heading => decide
  | entry i device =>
      have starts : Starts '[' "[" := rfl
      exact ((((((starts.append _).append _).append _).append _).append _).append _).ne_farewell
        (by decide)

theorem words_ne_farewell (signal : ScanSignal) : Listener.words signal ≠ farewell := by
  cases signal with
  | started | stopped => decide
  | found device =>
      have starts : Starts 'F' "Found device: " := rfl
      exact ((((starts.append _).append _).append _).append _).ne_farewell (by decide)

/-! ## Idle events -/

theorem Event.idle_notice {text : String} (other : text ≠ farewell) :
    (Event.notice text).Idle where
  action := rfl
  exchange := rfl
  unbidden := by
    rintro ⟨⟩
    exact other rfl

theorem Event.idle_record {text : String} (other : text ≠ farewell) :
    (Event.log .info .service text).Idle where
  action := rfl
  exchange := rfl
  unbidden := by
    rintro ⟨⟩
    exact other rfl

theorem Event.Aside.idle {event : Event} (aside : event.Aside) : event.Idle := by
  cases aside with
  | stopRequested => exact ⟨rfl, rfl, nofun⟩
  | remarked remark =>
      cases remark with
      | log | radio | command | printed => exact ⟨rfl, rfl, nofun⟩
      | ended call fault => cases call <;> exact ⟨rfl, rfl, nofun⟩
  | log level text other =>
      refine ⟨rfl, rfl, ?_⟩
      rintro ⟨⟩
      exact other rfl

theorem Event.OfSelection.idle {target : CodePoints} {event : Event}
    (selects : event.OfSelection target) : event.Idle := by
  cases selects with
  | aside aside => exact aside.idle
  | tells worded => exact Event.idle_notice worded.ne_farewell
  | records worded => exact Event.idle_record worded.ne_farewell
  | asks | told | asked => exact ⟨rfl, rfl, nofun⟩

theorem Event.EndsScan.idle {timeout : Binary64} {event : Event}
    (ends : event.EndsScan timeout) : event.Idle := by
  cases ends <;> exact ⟨rfl, rfl, nofun⟩

/-! ## Sessions -/

/-- A session asks nothing of adapters. -/
theorem Event.OfSession.action {event : Event} (written : event.OfSession) :
    event.action? = event.call?.map .peripheral := by
  cases written with
  | aside aside => cases aside with
    | stopRequested => rfl
    | remarked remark => cases remark <;> rfl
    | log => rfl
  | deals deals => cases deals <;> rfl
  | records | ended | released | arrived | frame => rfl

theorem Event.OfSession.unbidden {event : Event} (written : event.OfSession) :
    ¬ event.Farewell := by
  cases written with
  | aside aside => exact aside.idle.unbidden
  | deals deals => cases deals with
    | asks | waits => nofun
    | tells worded => exact (Event.idle_notice worded.ne_farewell).unbidden
  | records worded => exact (Event.idle_record worded.ne_farewell).unbidden
  | ended | released | arrived | frame => nofun

theorem actions_ofSession {more : List Event} (written : ∀ event ∈ more, event.OfSession) :
    actions more = (calls more).map .peripheral := by
  unfold actions calls
  rw [List.map_filterMap]
  exact List.filterMap_congr fun event member => (written event member).action

end BezelStream
