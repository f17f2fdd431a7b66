import BezelStream.Proofs.Session.Invariant

/-! # When the pump runs

The pump is started before a session asks the peripheral to subscribe. It is stopped when
that fails and when the session closes, with one gap: an interrupt of the peripheral while
it subscribes leaves the pump running. It then runs on until another subscribing fails, or
succeeds and is ended.
-/

namespace BezelStream

def Dealing.subscribing? : Dealing → Option (Option Fault)
  | .exchange (.subscribe .., fault) => some fault
  | _ => none

/-- How the exchanges that subscribed ended, in order. -/
def subscribings (log : List Dealing) : List (Option Fault) :=
  log.filterMap Dealing.subscribing?

theorem subscribings_words {log : List Dealing}
    (words : ∀ d ∈ log, ∃ text fault, d = .told text fault) : subscribings log = [] := by
  refine List.filterMap_eq_nil_iff.mpr fun d member => ?_
  obtain ⟨text, fault, rfl⟩ := words d member
  rfl

/-- The last call that subscribed ended with an interrupt. -/
def Interrupted (log : List Dealing) : Prop :=
  ∃ f : Fault, (subscribings log).getLast? = some (some f) ∧ f.isOrdinary = false

@[simp] theorem not_interrupted_nil : ¬ Interrupted [] := by
  rintro ⟨f, last, -⟩
  cases last

theorem interrupted_append {log more : List Dealing} (none : subscribings more = []) :
    Interrupted (log ++ more) ↔ Interrupted log := by
  simp only [Interrupted, subscribings] at none ⊢
  rw [List.filterMap_append, none, List.append_nil]

theorem interrupted_subscribing (log : List Dealing) (services : Option Fault)
    (service characteristic : String) (mode : SubscriptionMode) (fault : Option Fault) :
    Interrupted (log ++ [.exchange (.services, services),
        .exchange (.subscribe service characteristic mode, fault)]) ↔
      ∃ f : Fault, fault = some f ∧ f.isOrdinary = false := by
  have one : subscribings (log ++ [.exchange (.services, services),
      .exchange (.subscribe service characteristic mode, fault)]) =
      subscribings log ++ [fault] := List.filterMap_append
  simp [Interrupted, one]

namespace Session

variable {σ : Type}

/-- Where a session stands is borne out by how its last subscribing ended. -/
structure Pumped (a : Standing) (log : List Dealing) : Prop where
  running : a.running = true ↔ a.state = .subscribed ∨ Interrupted log
  held : a.subscription = none ↔ a.state ≠ .subscribed
  apart : a.state = .subscribed → ¬ Interrupted log

namespace Pumped

variable {a b : Standing} {log more : List Dealing}

theorem fresh : Pumped .fresh [] where
  running := by simp [Standing.fresh]
  held := by simp [Standing.fresh]
  apart := by simp

theorem subscribed (pumped : Pumped a log) {subscription : Subscription}
    (held : a.subscription = some subscription) : a.state = .subscribed := by
  by_cases subscribed : a.state = .subscribed
  · exact subscribed
  · rw [pumped.held.mpr subscribed] at held
    cases held

/-- Dealings that do not subscribe change nothing unless the session stands elsewhere. -/
theorem still (pumped : Pumped a log) (none : subscribings more = []) :
    Pumped a (log ++ more) where
  running := by rw [interrupted_append none]; exact pumped.running
  held := pumped.held
  apart := by rw [interrupted_append none]; exact pumped.apart

/-- The session may move between states in which it is not subscribed. -/
theorem moved (pumped : Pumped a log) (before : a.state ≠ .subscribed)
    (running : b.running = a.running) (held : b.subscription = a.subscription)
    (after : b.state ≠ .subscribed) : Pumped b log where
  running := by
    rw [running, pumped.running]
    simp [before, after]
  held := by
    rw [held, pumped.held]
    simp [before, after]
  apart subscribed := absurd subscribed after

end Pumped

theorem Closes.subscribes_not {a b : Standing} {log : List Dealing} {result : Except Fault Unit}
    (closes : Closes a log result b) : subscribings log = [] := by
  cases closes with
  | inert => rfl
  | disconnected => rfl
  | unsubscribed _ _ report =>
      cases report with
      | ended => rfl
      | interrupted => rfl
      | unheard => rfl
      | told => rfl

theorem pumped_kept : Invariant Pumped where
  connects := by
    intro a log more result b pumped connects
    cases connects with
    | refused => exact pumped.still rfl
    | failed => exact pumped.still rfl
    | connected idle => exact (pumped.still rfl).moved (by simp [idle]) rfl rfl (by simp)
  discovers := by
    intro a log more result b pumped discovers
    cases discovers with
    | refused => exact pumped.still rfl
    | failed => exact pumped.still rfl
    | discovered ready => exact (pumped.still rfl).moved (by simp [ready]) rfl rfl (by simp)
  locates := by
    intro wanted services a log more result b pumped locates
    cases locates with
    | refused => exact pumped.still rfl
    | missed _ _ _ words => exact pumped.still (subscribings_words words)
    | located ready => exact (pumped.still rfl).moved (by simp [ready]) rfl rfl (by simp)
  subscribes := by
    intro a log more result b pumped subscribes
    cases subscribes with
    | refused => exact pumped.still rfl
    | unlocated => exact pumped.still rfl
    | unlisted => exact pumped.still rfl
    | unfit => exact pumped.still rfl
    | failed ready target mode f =>
        -- The one step after which the pump may run without a subscription.
        have bare := pumped.held.mpr (by simp [ready])
        constructor
        · rw [interrupted_subscribing]
          simp [ready]
        · simp [ready, bare]
        · simp [ready]
    | subscribed =>
        constructor
        · simp
        · simp
        · rw [interrupted_subscribing]
          simp
  tells := by
    intro a log more result b pumped tells
    cases tells with
    | unheard => exact pumped.still rfl
    | told => exact pumped.still rfl
  waits := by
    intro a log more result b pumped waits
    cases waits with
    | waited => exact pumped.still rfl
  closes := by
    intro a log more result b pumped closes
    have silent := closes.subscribes_not
    cases closes with
    | inert => exact pumped.still rfl
    | disconnected _ bare =>
        exact (pumped.still rfl).moved (pumped.held.mp bare) rfl rfl (by simp)
    | unsubscribed _ held =>
        have subscribed := pumped.subscribed held
        constructor
        · rw [interrupted_append silent]
          simp [pumped.apart subscribed]
        · simp
        · simp

/-- After whatever is done with a session, its pump runs if and only if it is subscribed,
    except that an interrupt that ended its last subscribing leaves the pump running. -/
theorem pump_runs_iff (s : Session σ) (acts : List (Act σ)) (env : σ) (requested : Bool) :
    let p := s.follow acts (.fresh env requested)
    (p.own.pump.running = true ↔
        p.own.state = .subscribed ∨ Interrupted (dealings p.journal)) ∧
      ((p.own.pump.running = true ↔ p.own.state = .subscribed) ↔
        ¬ Interrupted (dealings p.journal)) := by
  intro p
  obtain ⟨pumped, -⟩ := pumped_kept.holds_after s .fresh acts env requested
  refine ⟨pumped.running, fun same interrupted => ?_, fun calm => ?_⟩
  · have subscribed := same.mp (pumped.running.mpr (.inr interrupted))
    exact pumped.apart subscribed interrupted
  · exact pumped.running.trans (or_iff_left calm)

/-- A peripheral with one characteristic that is interrupted while it subscribes. -/
def interruptedPeripheral : Peripheral Unit where
  address := "AA:AA"
  connect := .pure ()
  disconnect := .pure ()
  services := .pure [⟨"180d", [⟨"2a37", true, false⟩]⟩]
  subscribe _ _ _ := .fail (.interrupt "KeyboardInterrupt" "")
  unsubscribe _ _ := .pure ()

def interruptedSession : Session Unit where
  peripheral := interruptedPeripheral
  characteristic := "2a37"
  sink := .print
  diagnostics := false
  notifier := .silent

/-- A pump that was left running runs on in a session that is disconnected. -/
theorem pump_outlives_session :
    let p := interruptedSession.follow
      [.connect, .discover, .locate [⟨"180d", [⟨"2a37", true, false⟩]⟩], .subscribe, .close]
      (.fresh () false)
    p.own.state = .disconnected ∧
      ¬ (p.own.pump.running = true ↔ p.own.state = .subscribed) := by
  decide

end Session

end BezelStream
