import BezelStream.Proofs.Session.Invariant
import Mathlib.Computability.Language

/-! # The discipline of calls

Whoever uses a session, and in whatever order, the peripheral is called in an order that
it can rely on. `Discipline.words` says which, as a regular language over exchanges. The
state of a session says how far in a word its calls have come.
-/

namespace BezelStream

open scoped Computability

namespace Discipline

def fails (call : PeripheralCall) : Language Exchange :=
  {word | ∃ f, word = [(call, some f)]}

def succeeds (call : PeripheralCall) : Language Exchange :=
  {[(call, none)]}

/-- A call, however it ended. -/
def answered (call : PeripheralCall) : Language Exchange :=
  {word | ∃ fault, word = [(call, fault)]}

def subscribeFails : Language Exchange :=
  {word | ∃ service characteristic mode f,
    word = [(.subscribe service characteristic mode, some f)]}

/-- A try to subscribe that came to nothing: it ended after the services were asked for, or
    the peripheral did not subscribe. -/
def attempt : Language Exchange :=
  answered .services + succeeds .services * subscribeFails

/-- The calls of a session that is not connected yet. -/
def unconnected : Language Exchange :=
  (fails .connect)∗

/-- The calls of a session that is connected and has not discovered the services. -/
def connected : Language Exchange :=
  unconnected * succeeds .connect * (fails .services)∗

/-- The calls of a session that has discovered the services and has no subscription. -/
def discovered : Language Exchange :=
  connected * succeeds .services * attempt∗

/-- The calls of a session with a subscription in force. -/
def subscribed (subscription : Subscription) : Language Exchange :=
  discovered * (succeeds .services *
    succeeds (.subscribe subscription.service subscription.characteristic subscription.mode))

/-- The calls of a session whose subscription was in force and has been ended. -/
def unsubscribed : Language Exchange :=
  {word | ∃ subscription, word ∈ subscribed subscription *
    answered (.unsubscribe subscription.service subscription.characteristic)}

/-- All calls of a session, to the last: a session that was connected disconnects, and if it
    has a subscription, unsubscribes just before. -/
def words : Language Exchange :=
  (connected + discovered + unsubscribed) * answered .disconnect

section Words

variable {l m : Language Exchange} {left right : List Exchange}

theorem mem_mul_kstar (member : left ∈ l) : left ∈ l * m∗ := by
  have longer := Language.append_mem_mul member (Language.nil_mem_kstar m)
  rw [List.append_nil] at longer
  exact longer

theorem append_mem_kstar (member : left ∈ m∗) (last : right ∈ m) : left ++ right ∈ m∗ :=
  Set.mem_of_mem_of_subset (Language.append_mem_mul member last) (kstar_mul_le_kstar (a := m))

theorem append_mem_mul_kstar (member : left ∈ l * m∗) (last : right ∈ m) :
    left ++ right ∈ l * m∗ := by
  obtain ⟨first, inFirst, rest, inRest, rfl⟩ := Language.mem_mul.mp member
  rw [List.append_assoc]
  exact Language.append_mem_mul inFirst (append_mem_kstar inRest last)

theorem subscribe_fails (service characteristic : String) (mode : SubscriptionMode) (f : Fault) :
    [(.services, none), (.subscribe service characteristic mode, some f)] ∈ attempt :=
  .inr (Language.mem_mul.mpr ⟨[_], rfl, [_], ⟨service, characteristic, mode, f, rfl⟩, rfl⟩)

theorem subscribe_succeeds (call : PeripheralCall) :
    [(.services, none), (call, none)] ∈ succeeds .services * succeeds call :=
  Language.mem_mul.mpr ⟨[_], rfl, [_], rfl, rfl⟩

theorem disconnected_mem (member : left ∈ connected + discovered) (fault : Option Fault) :
    left ++ [(.disconnect, fault)] ∈ words :=
  Language.append_mem_mul (.inl member) ⟨fault, rfl⟩

theorem unsubscribed_mem {subscription : Subscription} (member : left ∈ subscribed subscription)
    (ending fault : Option Fault) :
    left ++ [(.unsubscribe subscription.service subscription.characteristic, ending),
      (.disconnect, fault)] ∈ words := by
  have ended : left ++ [(.unsubscribe subscription.service subscription.characteristic, ending)] ∈
      subscribed subscription *
        answered (.unsubscribe subscription.service subscription.characteristic) :=
    Language.append_mem_mul member ⟨ending, rfl⟩
  have whole : _ ++ [(.disconnect, fault)] ∈ words :=
    Language.append_mem_mul (.inr ⟨subscription, ended⟩) ⟨fault, rfl⟩
  rw [List.append_assoc] at whole
  exact whole

end Words

end Discipline

namespace Session

variable {σ : Type} {a b : Standing} {log more : List Dealing}

/-- The calls so far are those of the state, and only a session that is subscribed has a
    subscription. -/
def Disciplined (a : Standing) (log : List Dealing) : Prop :=
  match a.state with
  | .idle => a.subscription = none ∧ exchanges log ∈ Discipline.unconnected
  | .connected => a.subscription = none ∧ exchanges log ∈ Discipline.connected
  | .servicesDiscovered | .characteristicFound =>
      a.subscription = none ∧ exchanges log ∈ Discipline.discovered
  | .subscribed => ∃ subscription, a.subscription = some subscription ∧
      exchanges log ∈ Discipline.subscribed subscription
  | .unsubscribing => False
  | .disconnected => a.subscription = none ∧ exchanges log ∈ Discipline.words

open Discipline in
theorem Disciplined.completed (disciplined : Disciplined a log) :
    ∃ word ∈ Discipline.words, exchanges log <+: word := by
  unfold Disciplined at disciplined
  cases state : a.state with
  | idle =>
      rw [state] at disciplined
      have connects : exchanges log ++ [(.connect, none)] ∈ connected :=
        mem_mul_kstar (Language.append_mem_mul disciplined.2 rfl)
      have word := disconnected_mem (.inl connects) none
      rw [List.append_assoc] at word
      exact ⟨_, word, List.prefix_append _ _⟩
  | connected =>
      rw [state] at disciplined
      exact ⟨_, disconnected_mem (.inl disciplined.2) none, List.prefix_append _ _⟩
  | servicesDiscovered | characteristicFound =>
      rw [state] at disciplined
      exact ⟨_, disconnected_mem (.inr disciplined.2) none, List.prefix_append _ _⟩
  | subscribed =>
      rw [state] at disciplined
      obtain ⟨subscription, -, calls⟩ := disciplined
      exact ⟨_, unsubscribed_mem calls none none, List.prefix_append _ _⟩
  | unsubscribing =>
      rw [state] at disciplined
      exact disciplined.elim
  | disconnected =>
      rw [state] at disciplined
      exact ⟨_, disciplined.2, List.prefix_refl _⟩

/-- What is no call of the peripheral does not count. -/
theorem Disciplined.still (disciplined : Disciplined a log) (none : exchanges more = []) :
    Disciplined a (log ++ more) := by
  simpa only [Disciplined, exchanges_append, none, List.append_nil] using disciplined

theorem Disciplined.bare (disciplined : Disciplined a log)
    (live : ¬ a.Inert) (bare : a.subscription = none) :
    exchanges log ∈ Discipline.connected + Discipline.discovered := by
  cases state : a.state with
  | idle => exact absurd (.inl state) live
  | disconnected => exact absurd (.inr state) live
  | connected =>
      simp only [Disciplined, state] at disciplined
      exact .inl disciplined.2
  | servicesDiscovered | characteristicFound =>
      simp only [Disciplined, state] at disciplined
      exact .inr disciplined.2
  | subscribed =>
      simp only [Disciplined, state] at disciplined
      obtain ⟨subscription, held, -⟩ := disciplined
      rw [bare] at held
      cases held
  | unsubscribing => simp only [Disciplined, state] at disciplined

theorem Disciplined.held (disciplined : Disciplined a log) {subscription : Subscription}
    (held : a.subscription = some subscription) :
    exchanges log ∈ Discipline.subscribed subscription := by
  unfold Disciplined at disciplined
  rw [held] at disciplined
  cases state : a.state <;> rw [state] at disciplined <;> simp at disciplined
  exact disciplined

theorem Disciplined.fresh : Disciplined .fresh [] :=
  ⟨rfl, Language.nil_mem_kstar _⟩

open Discipline in
theorem disciplined_kept : Invariant Disciplined where
  connects := by
    intro a log more result b disciplined connects
    cases connects with
    | refused => exact disciplined.still rfl
    | failed idle f =>
        simp only [Disciplined, idle] at disciplined ⊢
        obtain ⟨bare, calls⟩ := disciplined
        rw [exchanges_append]
        exact ⟨bare, append_mem_kstar calls ⟨f, rfl⟩⟩
    | connected idle =>
        simp only [Disciplined, idle] at disciplined ⊢
        obtain ⟨bare, calls⟩ := disciplined
        rw [exchanges_append]
        exact ⟨bare, mem_mul_kstar (Language.append_mem_mul calls rfl)⟩
  discovers := by
    intro a log more result b disciplined discovers
    cases discovers with
    | refused => exact disciplined.still rfl
    | failed ready f =>
        simp only [Disciplined, ready] at disciplined ⊢
        obtain ⟨bare, calls⟩ := disciplined
        rw [exchanges_append]
        exact ⟨bare, append_mem_mul_kstar calls ⟨f, rfl⟩⟩
    | discovered ready =>
        simp only [Disciplined, ready] at disciplined ⊢
        obtain ⟨bare, calls⟩ := disciplined
        rw [exchanges_append]
        exact ⟨bare, mem_mul_kstar (Language.append_mem_mul calls rfl)⟩
  locates := by
    intro wanted services a log more result b disciplined locates
    cases locates with
    | refused => exact disciplined.still rfl
    | missed _ _ _ words => exact disciplined.still (exchanges_words words)
    | located ready =>
        simp only [Disciplined, ready] at disciplined ⊢
        rw [List.append_nil]
        exact disciplined
  subscribes := by
    intro a log more result b disciplined subscribes
    cases subscribes with
    | refused => exact disciplined.still rfl
    | unlocated => exact disciplined.still rfl
    | unlisted ready f =>
        simp only [Disciplined, ready] at disciplined ⊢
        obtain ⟨bare, calls⟩ := disciplined
        rw [exchanges_append]
        exact ⟨bare, append_mem_mul_kstar calls (.inl ⟨some f, rfl⟩)⟩
    | unfit ready =>
        simp only [Disciplined, ready] at disciplined ⊢
        obtain ⟨bare, calls⟩ := disciplined
        rw [exchanges_append]
        exact ⟨bare, append_mem_mul_kstar calls (.inl ⟨none, rfl⟩)⟩
    | failed ready target mode f =>
        simp only [Disciplined, ready] at disciplined ⊢
        obtain ⟨bare, calls⟩ := disciplined
        rw [exchanges_append]
        exact ⟨bare, append_mem_mul_kstar calls (subscribe_fails _ _ mode f)⟩
    | subscribed ready target mode =>
        simp only [Disciplined, ready] at disciplined ⊢
        obtain ⟨bare, calls⟩ := disciplined
        rw [exchanges_append]
        exact ⟨_, rfl, Language.append_mem_mul calls (subscribe_succeeds _)⟩
  tells := by
    intro a log more result b disciplined tells
    cases tells with
    | unheard => exact disciplined.still rfl
    | told => exact disciplined.still rfl
  waits := by
    intro a log more result b disciplined waits
    cases waits with
    | waited => exact disciplined.still rfl
  closes := by
    intro a log more result b disciplined closes
    cases closes with
    | inert => exact disciplined.still rfl
    | disconnected live bare fault =>
        simp only [Disciplined]
        rw [exchanges_append]
        exact ⟨bare, disconnected_mem (disciplined.bare live bare) fault⟩
    | unsubscribed live held report fault =>
        simp only [Disciplined]
        rw [List.cons_append, exchanges_append, exchanges_exchange, exchanges_append,
          exchanges_words report.words]
        exact ⟨trivial, unsubscribed_mem (disciplined.held held) _ fault⟩

/-- Whether an exchange tells how far a session has come. -/
def milestone : Exchange → Bool
  | (.connect, none) | (.subscribe .., none) | (.disconnect, _) => true
  | _ => false

/-- The states between connecting and subscribing, which no milestone tells apart. -/
def between : List SessionState :=
  [.connected, .servicesDiscovered, .characteristicFound]

/-- The state of a session is borne out by its calls, and so is its subscription. -/
structure Recorded (a : Standing) (log : List Dealing) : Prop where
  idle : a.state = .idle ↔ (.connect, none) ∉ exchanges log
  disconnected : a.state = .disconnected ↔ ∃ fault, (.disconnect, fault) ∈ exchanges log
  subscribed : a.state = .subscribed ↔ ∃ subscription, a.subscription = some subscription
  subscription : ∀ subscription : Subscription, a.subscription = some subscription ↔
    (.subscribe subscription.service subscription.characteristic subscription.mode, none) ∈
        exchanges log ∧
      ¬ ∃ fault, (.disconnect, fault) ∈ exchanges log
  rests : a.state ≠ .unsubscribing

namespace Recorded

theorem fresh : Recorded .fresh [] := by
  constructor <;> simp [Standing.fresh]

/-- Without a milestone, all stays as it was. -/
theorem still (recorded : Recorded a log) (none : (exchanges more).any milestone = false) :
    Recorded a (log ++ more) := by
  have same (x : Exchange) (marks : milestone x = true) :
      x ∈ exchanges (log ++ more) ↔ x ∈ exchanges log := by
    rw [exchanges_append, List.mem_append]
    exact or_iff_left fun late => List.any_eq_false.mp none x late marks
  constructor
  · rw [same _ rfl]
    exact recorded.idle
  · simp only [same (.disconnect, _) rfl]
    exact recorded.disconnected
  · exact recorded.subscribed
  · simp only [same (.disconnect, _) rfl, same (.subscribe _ _ _, .none) rfl]
    exact recorded.subscription
  · exact recorded.rests

/-- The session may move on between connecting and subscribing. -/
theorem moved (recorded : Recorded a log) (before : a.state ∈ between)
    (held : b.subscription = a.subscription) (after : b.state ∈ between) : Recorded b log := by
  obtain ⟨idle, disconnected, subscribed, subscription, -⟩ := recorded
  have neither (state : SessionState) (other : state ∉ between) :
      b.state = state ↔ a.state = state :=
    iff_of_false (fun same => other (same ▸ after)) (fun same => other (same ▸ before))
  constructor
  · rw [neither .idle (by decide)]
    exact idle
  · rw [neither .disconnected (by decide)]
    exact disconnected
  · rw [neither .subscribed (by decide), held]
    exact subscribed
  · rw [held]
    exact subscription
  · intro same
    rw [same] at after
    exact absurd after (by decide)

end Recorded

theorem recorded_kept : Invariant Recorded where
  connects := by
    intro a log more result b recorded connects
    cases connects with
    | refused => exact recorded.still rfl
    | failed => exact recorded.still rfl
    | connected idle =>
        -- No milestone lies behind an idle session, so this is the first.
        obtain ⟨begun, closed, held, called, -⟩ := recorded
        constructor <;> simp_all
  discovers := by
    intro a log more result b recorded discovers
    cases discovers with
    | refused => exact recorded.still rfl
    | failed => exact recorded.still rfl
    | discovered ready => exact (recorded.still rfl).moved (by simp [ready, between]) rfl (by simp [between])
  locates := by
    intro wanted services a log more result b recorded locates
    cases locates with
    | refused => exact recorded.still rfl
    | missed _ _ _ words => exact recorded.still (by rw [exchanges_words words]; rfl)
    | located ready => exact (recorded.still rfl).moved (by simp [ready, between]) rfl (by simp [between])
  subscribes := by
    intro a log more result b recorded subscribes
    cases subscribes with
    | refused => exact recorded.still rfl
    | unlocated => exact recorded.still rfl
    | unlisted => exact recorded.still rfl
    | unfit => exact recorded.still rfl
    | failed ready => exact (recorded.still rfl).moved (by simp [ready, between]) rfl (by simp [ready, between])
    | subscribed ready =>
        obtain ⟨begun, closed, held, called, -⟩ := recorded
        constructor <;> simp_all
        rintro ⟨_, _, _⟩
        simp [eq_comm]
  tells := by
    intro a log more result b recorded tells
    cases tells with
    | unheard => exact recorded.still rfl
    | told => exact recorded.still rfl
  waits := by
    intro a log more result b recorded waits
    cases waits with
    | waited => exact recorded.still rfl
  closes := by
    intro a log more result b recorded closes
    cases closes with
    | inert => exact recorded.still rfl
    | disconnected live bare =>
        obtain ⟨begun, closed, held, called, -⟩ := recorded
        constructor <;> simp_all [Standing.Inert]
    | unsubscribed live held =>
        obtain ⟨begun, closed, held, called, -⟩ := recorded
        constructor <;> simp_all [Standing.Inert]

/-- After whatever is done with a session, the calls of the peripheral are the beginning of a
    word of `Discipline.words`, none of them is open, and they tell the state and the
    subscription of the session. -/
theorem calls_keep_discipline (s : Session σ) (acts : List (Act σ)) (env : σ)
    (requested : Bool) :
    let p := s.follow acts (.fresh env requested)
    let log := exchanges (dealings p.journal)
    calls p.journal = log.map Prod.fst ∧
      (∃ word ∈ Discipline.words, log <+: word) ∧
      (p.own.state = .idle ↔ (.connect, none) ∉ log) ∧
      (p.own.state = .disconnected ↔ ∃ fault, (.disconnect, fault) ∈ log) ∧
      (p.own.state = .subscribed ↔ ∃ subscription, p.own.subscription = some subscription) ∧
      (∀ subscription : Subscription, p.own.subscription = some subscription ↔
        (.subscribe subscription.service subscription.characteristic subscription.mode, none) ∈
            log ∧
          ¬ ∃ fault, (.disconnect, fault) ∈ log) ∧
      p.own.state ≠ .unsubscribing := by
  intro p log
  obtain ⟨disciplined, ended⟩ := disciplined_kept.holds_after s .fresh acts env requested
  obtain ⟨recorded, -⟩ := recorded_kept.holds_after s .fresh acts env requested
  exact ⟨ended, disciplined.completed, recorded.idle, recorded.disconnected,
    recorded.subscribed, recorded.subscription, recorded.rests⟩

end Session

end BezelStream
