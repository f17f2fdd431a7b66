import BezelStream.Proofs.Interaction.Abreast
import Mathlib.Data.List.Basic

/-! # Stop requests

What becomes of stop requests is read off the journal: that one came in, that a stream came to
its wait, that it was let go, and that its wait was over. `Stops` is the account of that, together
with whether a request is pending. An operation `Holds` if requests at most come in while it runs,
so that a pending one is not used up.
-/

namespace BezelStream

/-- What becomes of stop requests. -/
inductive StopMove where
  | requested
  /-- A stream has come to its wait. -/
  | waits (state : SessionState)
  /-- It is let go by the pending request, which is used up. -/
  | released
  /-- Its wait is over. -/
  | waited (passed : Bool)
  deriving Repr, DecidableEq

def Event.stopMove? : Event → Option StopMove
  | .stopRequested => some .requested
  | .wait state => some (.waits state)
  | .released => some .released
  | .ended (.wait _) fault => some (.waited fault.isNone)
  | _ => none

/-- What became of stop requests, in order. -/
def stopMoves (journal : List Event) : List StopMove :=
  journal.filterMap Event.stopMove?

/-- So many requests that come in. -/
abbrev requests (n : Nat) : List StopMove :=
  List.replicate n .requested

theorem requests_succ (n : Nat) : requests (n + 1) = requests n ++ [.requested] :=
  List.replicate_succ'

/-- A request has come in since a stream was last let go, or at all if none was. -/
def Unspent (moves : List StopMove) : Prop :=
  ∃ before after, moves = before ++ .requested :: after ∧ .released ∉ after

theorem unspent_concat (moves : List StopMove) (move : StopMove) :
    Unspent (moves ++ [move]) ↔ move = .requested ∨ move ≠ .released ∧ Unspent moves := by
  constructor
  · rintro ⟨before, after, shape, none⟩
    rcases List.eq_nil_or_concat' after with rfl | ⟨rest, last, rfl⟩
    · obtain ⟨-, same⟩ := List.append_inj' shape rfl
      exact .inl (List.singleton_inj.mp same)
    · rw [← List.cons_append, ← List.append_assoc] at shape
      obtain ⟨rfl, same⟩ := List.append_inj' shape rfl
      obtain rfl := List.singleton_inj.mp same
      refine .inr ⟨fun released => none ?_, before, rest, rfl, fun member => none ?_⟩
      · exact List.mem_append_right rest (List.mem_singleton.mpr released.symm)
      · exact List.mem_append_left [move] member
  · rintro (rfl | ⟨other, before, after, rfl, none⟩)
    · exact ⟨moves, [], rfl, List.not_mem_nil⟩
    · exact ⟨before, after ++ [move], by simp, by simp [none, other.symm]⟩

/-- How it stands with stop requests. -/
structure Stops where
  /-- What became of them so far. -/
  moves : List StopMove := []
  pending : Bool := false
  deriving Repr, DecidableEq

namespace Stops

def step (a : Stops) (move : StopMove) : Stops where
  moves := a.moves ++ [move]
  pending := match move with
    | .requested => true
    | .released => false
    | .waits _ | .waited _ => a.pending

def after (a : Stops) (moves : List StopMove) : Stops :=
  moves.foldl step a

variable {a : Stops}

theorem after_append (a : Stops) (left right : List StopMove) :
    a.after (left ++ right) = (a.after left).after right :=
  List.foldl_append

theorem after_concat (a : Stops) (moves : List StopMove) (move : StopMove) :
    a.after (moves ++ [move]) = (a.after moves).step move :=
  List.foldl_concat step a move moves

@[simp] theorem moves_after (a : Stops) (moves : List StopMove) :
    (a.after moves).moves = a.moves ++ moves := by
  induction moves generalizing a with
  | nil => exact (List.append_nil _).symm
  | cons move rest ih => exact (ih (a.step move)).trans (List.append_assoc _ _ _)

/-- As long as no stream is let go, what is pending stays pending. -/
theorem pending_after (a : Stops) {moves : List StopMove} (held : .released ∉ moves) :
    (a.after moves).pending = (a.pending || decide (.requested ∈ moves)) := by
  induction moves generalizing a with
  | nil => exact (Bool.or_false _).symm
  | cons move rest ih =>
      obtain ⟨other, held⟩ := List.ne_and_not_mem_of_not_mem_cons held
      refine (ih (a.step move) held).trans ?_
      cases move with
      | released => exact absurd rfl other
      | requested => simp [step]
      | waits | waited => simp [step]

/-- The account is in order: a request is pending if and only if it came in after the last stream
    was let go; each stream was let go by a request that came in after the one before; and so no
    more were let go than requests came in. -/
structure Accounted (a : Stops) : Prop where
  pending : a.pending = true ↔ Unspent a.moves
  spent : ∀ before after, a.moves = before ++ .released :: after → Unspent before
  count : a.moves.count .released + a.pending.toNat ≤ a.moves.count .requested

namespace Accounted

theorem fresh : Accounted {} where
  pending := by simp [Unspent]
  spent := by simp
  count := Nat.le_refl 0

/-- The account stays in order, if a stream is let go only by a pending request. -/
theorem step (accounted : a.Accounted) {move : StopMove}
    (due : move = .released → a.pending = true) : (a.step move).Accounted where
  pending := by
    refine Iff.trans ?_ (unspent_concat a.moves move).symm
    cases move <;> simp [Stops.step, accounted.pending]
  spent := by
    intro before after shape
    rcases List.eq_nil_or_concat' after with rfl | ⟨rest, last, rfl⟩
    · obtain ⟨rfl, same⟩ := List.append_inj' shape rfl
      exact accounted.pending.mp (due (List.singleton_inj.mp same))
    · rw [← List.cons_append, ← List.append_assoc] at shape
      exact accounted.spent before rest (List.append_inj' shape rfl).1
  count := by
    have count := accounted.count
    cases move with
    | requested =>
        have least := Bool.toNat_le a.pending
        simp only [Stops.step, List.count_append, Bool.toNat_true]
        simp
        omega
    | released =>
        rw [due rfl] at count
        simpa [Stops.step] using count
    | waits | waited => simpa [Stops.step] using count

theorem after (accounted : a.Accounted) {moves : List StopMove} (held : .released ∉ moves) :
    (a.after moves).Accounted := by
  induction moves generalizing a with
  | nil => exact accounted
  | cons move rest ih =>
      obtain ⟨other, held⟩ := List.ne_and_not_mem_of_not_mem_cons held
      exact ih (accounted.step fun released => absurd released.symm other) held

/-- A stream may be let go where a request was pending or has come in. -/
theorem released (accounted : a.Accounted) {before after : List StopMove}
    (none : .released ∉ before) (held : .released ∉ after)
    (due : a.pending = true ∨ .requested ∈ before) :
    (a.after (before ++ .released :: after)).Accounted := by
  have pending : (a.after before).pending = true := by
    rw [a.pending_after none]
    simpa using due
  rw [Stops.after_append]
  exact ((accounted.after none).step fun _ => pending).after held

end Accounted

end Stops

/-- What becomes of stop requests while one stream runs, and whether it is let go. Requests may
    come in at any time of it. -/
inductive StreamStopMoves (pending : Bool) : Bool → List StopMove → Prop where
  /-- The stream ends before its wait. -/
  | early (n : Nat) : StreamStopMoves pending false (requests n)
  /-- Nothing is pending when the stream comes to its wait, and the wait fails. -/
  | broken (idle : pending = false) (meanwhile late : Nat) :
      StreamStopMoves pending false
        (.waits .subscribed :: requests meanwhile ++ .waited false :: requests late)
  /-- A request is pending when the stream comes to its wait, which lets it go at once. -/
  | atOnce (early late : Nat) (due : pending = true ∨ 0 < early) :
      StreamStopMoves pending true
        (requests early ++ [.waits .subscribed, .released, .waited true] ++ requests late)
  /-- Nothing is pending when the stream comes to its wait. The first request lets it go. -/
  | waited (idle : pending = false) (meanwhile late : Nat) (due : 0 < meanwhile) :
      StreamStopMoves pending true
        (.waits .subscribed :: requests meanwhile ++ [.released, .waited true] ++ requests late)

namespace StreamStopMoves

variable {pending released : Bool} {moves : List StopMove}

/-- Requests that came in before belong to the moves of the stream. -/
theorem begun (n : Nat) (moved : StreamStopMoves (pending || decide (0 < n)) released moves) :
    StreamStopMoves pending released (requests n ++ moves) := by
  cases moved with
  | early m =>
      rw [List.replicate_append_replicate]
      exact .early (n + m)
  | broken idle =>
      obtain ⟨rfl, none⟩ := Bool.or_eq_false_iff.mp idle
      obtain rfl : n = 0 := by simpa using none
      exact .broken rfl _ _
  | atOnce early late due =>
      rw [← List.append_assoc, ← List.append_assoc, List.replicate_append_replicate]
      refine .atOnce (n + early) late ?_
      rcases due with due | due
      · rcases Bool.or_eq_true_iff.mp due with due | due
        · exact .inl due
        · exact .inr (Nat.add_pos_left (of_decide_eq_true due) early)
      · exact .inr (Nat.add_pos_right n due)
  | waited idle _ _ due =>
      obtain ⟨rfl, none⟩ := Bool.or_eq_false_iff.mp idle
      obtain rfl : n = 0 := by simpa using none
      exact .waited rfl _ _ due

/-- Requests that come in later belong to the moves of the stream. -/
theorem ended (moved : StreamStopMoves pending released moves) (n : Nat) :
    StreamStopMoves pending released (moves ++ requests n) := by
  cases moved with
  | early m =>
      rw [List.replicate_append_replicate]
      exact .early (m + n)
  | broken idle meanwhile late =>
      rw [List.append_assoc, List.cons_append, List.cons_append, List.replicate_append_replicate]
      exact .broken idle meanwhile (late + n)
  | atOnce early late due =>
      rw [List.append_assoc, List.replicate_append_replicate]
      exact .atOnce early (late + n) due
  | waited idle meanwhile late due =>
      rw [List.append_assoc, List.replicate_append_replicate]
      exact .waited idle meanwhile (late + n) due

/-- The moves of a stream leave the account in order. -/
theorem accounted {a : Stops} (accounted : a.Accounted)
    (moved : StreamStopMoves a.pending released moves) :
    (a.after moves).Accounted := by
  cases moved with
  | early n => exact accounted.after (by simp)
  | broken => exact accounted.after (by simp)
  | atOnce early late due =>
      have shape :
          requests early ++ [.waits .subscribed, .released, .waited true] ++ requests late =
            (requests early ++ [.waits .subscribed]) ++
              .released :: .waited true :: requests late := by
        simp
      rw [shape]
      exact accounted.released (by simp) (by simp) (by simpa [Nat.pos_iff_ne_zero] using due)
  | waited idle meanwhile late due =>
      rw [List.append_assoc]
      exact accounted.released (by simp) (by simp) (.inr (by simpa [Nat.pos_iff_ne_zero] using due))

end StreamStopMoves

variable {σ ρ ρ' α β : Type}

/-! ## Operations -/

def Progress.stops (p : Progress σ ρ) : Stops :=
  ⟨stopMoves p.journal, p.stopRequested⟩

theorem stopMoves_concat (journal : List Event) (event : Event) :
    stopMoves (journal ++ [event]) = stopMoves journal ++ event.stopMove?.toList := by
  rw [stopMoves, List.filterMap_append]
  cases found : event.stopMove? <;> simp [found, stopMoves]

namespace Progress

theorem stops_note {event : Event} (still : event.stopMove? = none) (p : Progress σ ρ) :
    (p.note event).stops = p.stops := by
  simp [stops, note, stopMoves_concat, still]

theorem stops_requestStop (p : Progress σ ρ) : p.requestStop.stops = p.stops.step .requested := by
  simp [stops, requestStop, note, stopMoves_concat, Event.stopMove?, Stops.step]

theorem stops_release (p : Progress σ ρ) :
    ((release : Op σ ρ Unit).runFrom p).2.stops = p.stops.step .released := by
  change (⟨stopMoves (p.journal ++ [.released]), false⟩ : Stops) = _
  simp [stopMoves_concat, Event.stopMove?, Stops.step, stops]

theorem stops_wait (state : SessionState) (p : Progress σ ρ) :
    (p.note (.wait state)).stops = p.stops.step (.waits state) := by
  simp [stops, note, stopMoves_concat, Event.stopMove?, Stops.step]

theorem stops_waited (state : SessionState) (fault : Option Fault) (p : Progress σ ρ) :
    (p.note (.ended (.wait state) fault)).stops = p.stops.step (.waited fault.isNone) := by
  simp [stops, note, stopMoves_concat, Event.stopMove?, Stops.step]

/-- Since it stood so, only requests have come in. -/
def Held (a : Stops) (p : Progress σ ρ) : Prop :=
  ∃ n, p.stops = a.after (requests n)

theorem Held.refl (p : Progress σ ρ) : p.Held p.stops :=
  ⟨0, rfl⟩

theorem Held.of_stops {a : Stops} {p : Progress σ ρ} {q : Progress σ ρ'} (held : p.Held a)
    (same : q.stops = p.stops) : q.Held a := by
  obtain ⟨n, stands⟩ := held
  exact ⟨n, same.trans stands⟩

theorem Held.trans {a : Stops} {p : Progress σ ρ} {q : Progress σ ρ'} (first : p.Held a)
    (second : q.Held p.stops) : q.Held a := by
  obtain ⟨n, first⟩ := first
  obtain ⟨m, second⟩ := second
  refine ⟨n + m, ?_⟩
  rw [second, first, ← Stops.after_append, List.replicate_append_replicate]

/-- From one moment to another, what became of stop requests is the stop moves of one stream. What
    has ended without a fault was let go. -/
def StreamedBetween (p : Progress σ ρ) (result : Except Fault α) (q : Progress σ ρ') : Prop :=
  ∃ released moves, q.stops = p.stops.after moves ∧ StreamStopMoves p.stopRequested released moves ∧
    (faultOf? result = none → released = true)

/-- Where only requests come in, what is pending stays pending. -/
theorem stopRequested_after {p : Progress σ ρ} {q : Progress σ ρ'} {n : Nat}
    (stands : q.stops = p.stops.after (requests n)) :
    q.stopRequested = (p.stopRequested || decide (0 < n)) := by
  change q.stops.pending = (p.stops.pending || _)
  rw [stands, p.stops.pending_after (by simp)]
  simp [Nat.pos_iff_ne_zero]

theorem Held.failed {p : Progress σ ρ} {q : Progress σ ρ'} (held : q.Held p.stops) (f : Fault) :
    p.StreamedBetween (.error f : Except Fault α) q := by
  obtain ⟨n, stands⟩ := held
  exact ⟨false, _, stands, .early n, nofun⟩

theorem Held.streamedBetween {p q : Progress σ ρ} {r : Progress σ ρ'} {result : Except Fault α}
    (held : q.Held p.stops) (streamed : q.StreamedBetween result r) : p.StreamedBetween result r := by
  obtain ⟨n, before⟩ := held
  obtain ⟨released, moves, stands, moved, passed⟩ := streamed
  rw [stopRequested_after before] at moved
  refine ⟨released, requests n ++ moves, ?_, moved.begun n, passed⟩
  rw [stands, before, Stops.after_append]

theorem StreamedBetween.held {p : Progress σ ρ} {q r : Progress σ ρ'} {result : Except Fault α}
    {last : Except Fault β} (streamed : p.StreamedBetween result q) (held : r.Held q.stops)
    (faults : faultOf? last = none → faultOf? result = none) : p.StreamedBetween last r := by
  obtain ⟨released, moves, before, moved, passed⟩ := streamed
  obtain ⟨n, stands⟩ := held
  refine ⟨released, moves ++ requests n, ?_, moved.ended n, fun none => passed (faults none)⟩
  rw [stands, before, Stops.after_append]

end Progress

/-- No collaborator can pass off its remarks as a stop request or a wait. -/
theorem Remark.stopMove (remark : Remark) : remark.event.stopMove? = none := by
  cases remark with
  | log | radio | command | printed => rfl
  | ended call fault => cases call <;> rfl

namespace Op

open Progress (Held One)

theorem notes_held {event : Event} (still : event.stopMove? = none) (a : Stops) :
    Notes (One (Held (σ := σ) (ρ := ρ) a)) event := by
  rintro p q ⟨rfl, held⟩
  exact ⟨rfl, held.of_stops (Progress.stops_note still p)⟩

theorem journals_held {event : Event} (begins : event.stopMove? = none)
    (ends : ∀ fault, (Event.ended event fault).stopMove? = none) (a : Stops) :
    Journals (One (Held (σ := σ) (ρ := ρ) a)) event :=
  ⟨notes_held begins a, fun fault => notes_held (ends fault) a⟩

theorem alike_held (a : Stops) : Alike (One (Held (σ := σ) (ρ := ρ) a)) where
  env related := congrArg Progress.env related.1
  requested related := congrArg Progress.stopRequested related.1
  own related := congrArg Progress.own related.1
  answers := by
    rintro p q ⟨rfl, held⟩ env
    exact ⟨rfl, held⟩
  requests := by
    rintro p q ⟨rfl, held⟩
    exact ⟨rfl, held.trans ⟨1, p.stops_requestStop⟩⟩
  remarks remark := notes_held remark.stopMove a
  logs _ _ _ _ := notes_held rfl a

/-- Whatever the text, telling it is no matter of stop requests. -/
theorem conveys_held (a : Stops) (text : String) :
    Conveys (One (Held (σ := σ) (ρ := ρ) a)) text :=
  ⟨journals_held rfl (fun _ => rfl) a, notes_held rfl a⟩

/-- Wherever the operation begins, only requests come in while it runs. -/
def Holds (x : Op σ ρ α) : Prop :=
  ∀ p : Progress σ ρ, (x.runFrom p).2.Held p.stops

namespace Holds

variable {x : Op σ ρ α}

theorem of_abreast (abreast : ∀ a, Abreast (One (Held a)) x x) : Holds x :=
  fun p => One.kept (abreast p.stops) (.refl p)

theorem abreast (holds : Holds x) (a : Stops) : Abreast (One (Held a)) x x :=
  One.abreast fun p held => held.trans (holds p)

theorem pure (a : α) : Holds (σ := σ) (ρ := ρ) (Pure.pure a) :=
  fun p => .refl p

theorem throw (f : Fault) : Holds (σ := σ) (ρ := ρ) (α := α) (MonadExcept.throw f) :=
  fun p => .refl p

theorem bind {next : α → Op σ ρ β} (first : Holds x) (rest : ∀ a, Holds (next a)) :
    Holds (x >>= next) :=
  of_abreast fun a => .bind (first.abreast a) fun value => (rest value).abreast a

theorem within {start : ρ'} {x : Op σ ρ' α} (holds : Holds x) :
    Holds (ρ := ρ) (Op.within start x) :=
  fun p => holds ⟨p.env, p.journal, p.stopRequested, start⟩

theorem log (level : Level) {source : LogSource} (text : String) :
    Holds (σ := σ) (ρ := ρ) (Op.log level source text) :=
  of_abreast fun a => .note (notes_held rfl a)

theorem tell (notifier : Notifier σ) (text : String) : Holds (ρ := ρ) (notifier.tell text) :=
  of_abreast fun a => (alike_held a).tell notifier (conveys_held a text)

/-- A call that is no wait. -/
theorem called {event : Event} (begins : event.stopMove? = none)
    (ends : ∀ fault, (Event.ended event fault).stopMove? = none) (call : Call σ α) :
    Holds (ρ := ρ) (Op.called event (Op.perform call)) :=
  of_abreast fun a => .called (journals_held begins ends a) ((alike_held a).perform call)

end Holds

section Wait

variable {deliver : Frame → Progress σ ρ → Progress σ ρ} {idle : Call σ Unit} {p : Progress σ ρ}

theorem request_pending (pending : p.stopRequested = true) :
    ((StopWait.request idle).run deliver).runFrom p = (release : Op σ ρ Unit).runFrom p := by
  rw [StopWait.run, runFrom_bind, runFrom_read, pending]
  rfl

theorem request_idle (none : p.stopRequested = false) :
    ((StopWait.request idle).run deliver).runFrom p =
      match (Op.performWith deliver idle).runFrom p with
      | (.ok _, q) => (release : Op σ ρ Unit).runFrom q.requestStop
      | (.error f, q) => (.error f, q) := by
  rw [StopWait.run, runFrom_bind, runFrom_read, none]
  dsimp only
  rw [if_neg Bool.false_ne_true, runFrom_bind]
  rcases (Op.performWith deliver idle).runFrom p with ⟨f | _, q⟩ <;> rfl

/-- What becomes of stop requests while one is waited for. -/
inductive Awaits (pending : Bool) : Except Fault Unit → List StopMove → Prop where
  | atOnce (due : pending = true) : Awaits pending (.ok ()) [.released]
  | broken (idle : pending = false) (f : Fault) (n : Nat) : Awaits pending (.error f) (requests n)
  | waited (idle : pending = false) (n : Nat) (due : 0 < n) :
      Awaits pending (.ok ()) (requests n ++ [.released])

variable (delivers : ∀ frame a {p : Progress σ ρ}, p.Held a → (deliver frame p).Held a)

include delivers

theorem request_awaits (idle : Call σ Unit) (p : Progress σ ρ) :
    let ended := ((StopWait.request idle).run deliver).runFrom p
    ∃ moves, ended.2.stops = p.stops.after moves ∧ Awaits p.stopRequested ended.1 moves := by
  intro ended
  cases pending : p.stopRequested with
  | true =>
      have whole : ended = (release : Op σ ρ Unit).runFrom p := request_pending pending
      rw [whole]
      exact ⟨[.released], p.stops_release, .atOnce rfl⟩
  | false =>
      have idles : Abreast (One (Held p.stops)) (Op.performWith deliver idle)
          (Op.performWith deliver idle) := by
        refine (alike_held p.stops).performWith ?_ idle
        rintro frame q r ⟨rfl, held⟩
        exact ⟨rfl, delivers frame p.stops held⟩
      obtain ⟨n, stands⟩ := One.kept idles (.refl p)
      have whole : ended = _ := request_idle pending
      rcases idled : (Op.performWith deliver idle).runFrom p with ⟨f | _, q⟩ <;>
        rw [idled] at stands whole <;> rw [whole]
      · exact ⟨_, stands, .broken rfl f n⟩
      · refine ⟨_, ?_, .waited rfl (n + 1) n.succ_pos⟩
        dsimp only at stands ⊢
        rw [Progress.stops_release, Progress.stops_requestStop, stands, requests_succ,
          Stops.after_concat, Stops.after_concat]

/-- The wait of a subscribed session for a stop request is the stop moves of one stream. -/
theorem wait_stopMoves (idle : Call σ Unit) (p : Progress σ ρ) :
    let ended := (Op.called (.wait .subscribed) ((StopWait.request idle).run deliver)).runFrom p
    p.StreamedBetween ended.1 ended.2 := by
  intro ended
  obtain ⟨moves, stands, awaits⟩ := request_awaits delivers idle (p.note (.wait .subscribed))
  have whole : ended.2.stops =
      p.stops.after (.waits .subscribed :: moves ++ [.waited (faultOf? ended.1).isNone]) := by
    simp only [ended, runFrom_called]
    rw [Progress.stops_waited, stands, Progress.stops_wait, Stops.after_append]
    rfl
  refine ⟨(faultOf? ended.1).isNone, _, whole, ?_, Option.isNone_iff_eq_none.mpr⟩
  simp only [ended, runFrom_called]
  generalize ((StopWait.request idle).run deliver).runFrom (p.note (.wait .subscribed)) = run
    at awaits
  obtain ⟨result, q⟩ := run
  cases awaits with
  | atOnce due => exact .atOnce 0 0 (.inl due)
  | broken none f n => exact .broken none n 0
  | waited none n due =>
      have moved : StreamStopMoves p.stopRequested true
          (.waits .subscribed :: requests n ++ [.released, .waited true] ++ []) :=
        .waited none n 0 due
      rw [List.append_nil] at moved
      rw [← List.cons_append, List.append_assoc]
      exact moved

end Wait

end Op

end BezelStream
