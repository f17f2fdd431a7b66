import BezelStream.Proofs.Session.Requests
import BezelStream.Proofs.Streamer.Client

/-! # Stop requests of a streamer

A streamer that waits for stop requests can be used over and over, and stop requests may come in
between and at any time. Each lets go one stream at most: a stream that ends before its wait
leaves a pending request for the next one, and so do scanning and selecting alone.
-/

namespace BezelStream.Streamer

open Op Progress

variable {σ α : Type}

/-- What can be done with a streamer from outside. -/
inductive Act (σ : Type) where
  | requestStop
  | stream
  /-- Lists the devices that the given adapter meets, or else one that is found for it. -/
  | listDevices (adapter : Option (Adapter σ))
  | select (devices : List Device)

/-- Does something with a streamer; what it gives is not looked at. -/
def Act.perform (s : Streamer σ) : Act σ → Op σ Unit Unit
  | .requestStop => Streamer.requestStop
  | .stream => do let _ ← s.stream
  | .listDevices none => do let _ ← s.listDevices
  | .listDevices (some adapter) => do let _ ← s.scanWith adapter
  | .select devices => do let _ ← s.select devices

/-- Does several things in order. A fault of one does not keep the next from being done. -/
def follow (s : Streamer σ) (acts : List (Act σ)) (p : Progress σ Unit) : Progress σ Unit :=
  acts.foldl (fun p act => ((act.perform s).runFrom p).2) p

/-- What becomes of stop requests in an act that ends so. Only a stream may be let go, and one
    that ends without a fault was. -/
inductive BearsStopMoves (pending : Bool) : Act σ → Except Fault Unit → List StopMove → Prop where
  | requested : BearsStopMoves pending .requestStop (.ok ()) [.requested]
  | streamed {released : Bool} {moves : List StopMove} {result : Except Fault Unit}
      (moved : StreamStopMoves pending released moves)
      (passed : faultOf? result = none → released = true) :
      BearsStopMoves pending .stream result moves
  | listed (adapter : Option (Adapter σ)) (result : Except Fault Unit) (n : Nat) :
      BearsStopMoves pending (.listDevices adapter) result (requests n)
  | selected (devices : List Device) (result : Except Fault Unit) (n : Nat) :
      BearsStopMoves pending (.select devices) result (requests n)

/-! ## Scanning and selecting -/

theorem heed_holds (adapter : String) (notifier : Notifier σ) (signal : ScanSignal) :
    Holds (heed adapter (.inWords notifier) signal) := by
  intro p
  rw [heed_eq]
  dsimp only
  have taken : Held p.stops { p with own := p.own.after signal } := (Held.refl p).of_stops rfl
  split
  · have logged : (recordOf adapter signal).stopMove? = none := by cases signal <;> rfl
    exact (taken.of_stops (stops_note logged _)).trans (Holds.tell notifier _ _)
  · exact taken

theorem scan_holds {ρ : Type} (adapter : Adapter σ) (timeout : Binary64) (notifier : Notifier σ) :
    Holds (ρ := ρ) (scan adapter timeout (.inWords notifier)) := by
  refine .within (.of_abreast fun a => .bind (.read (alike_held a).env) fun env => ?_)
  have follows := Course.abreast_follow (alike_held a)
    (fun signal => (heed_holds adapter.name notifier signal).abreast a) (adapter.scan timeout env)
  refine .bind (.called (journals_held rfl (fun _ => rfl) a) follows) fun _ => ?_
  exact .bind (alike_held a).readOwn fun _ => .bind ((alike_held a).log _ _ nofun) fun _ => .pure _

theorem select_holds {ρ : Type} (target : CodePoints) (proposal : Proposal) (prompt : Prompt σ)
    (notifier : Notifier σ) (devices : List Device) :
    Holds (ρ := ρ) (BezelStream.select target proposal prompt notifier devices) :=
  .of_abreast fun a => (alike_held a).select (fun _ => conveys_held a _)
    fun _ _ => journals_held rfl (fun _ => rfl) a

variable (s : Streamer σ) (adapter : Adapter σ)

theorem approach_holds : Holds (s.approach adapter) := by
  refine .bind (scan_holds adapter _ s.notifier) fun devices => ?_
  have rest : Holds (ρ := Unit) (do
      let device ← s.select devices
      s.notifier.tell (announcement device)
      return device) :=
    .bind (select_holds _ _ _ _ devices) fun device =>
      .bind (.tell s.notifier _) fun _ => .pure device
  split
  · exact .bind (.throw _) fun _ => rest
  · exact rest

theorem findAdapter_holds : Holds s.findAdapter :=
  .called rfl (fun _ => rfl) _

theorem closeAdapter_holds : Holds (closeAdapter adapter) :=
  .called rfl (fun _ => rfl) _

theorem listDevices_holds : Holds s.listDevices :=
  .bind s.findAdapter_holds fun adapter =>
    .of_abreast fun a => .ensuring ((scan_holds adapter _ _).abreast a)
      ((closeAdapter_holds adapter).abreast a)

/-! ## Streaming -/

section Streaming

variable {s adapter} {idle : Call σ Unit} (own : s.wait = .request idle)

include own

theorem session_streamedBetween {peripheral : Peripheral σ} {p : Progress σ Unit}
    {q : Progress σ Lifecycle} {result : Except Fault Subscription}
    (ran : ((s.sessionWith peripheral).run s.wait).runFrom (p.withOwn {}) = (result, q)) :
    p.StreamedBetween result (q.withOwn ()) := by
  have streamed := (s.sessionWith peripheral).run_streamedBetween idle (p.withOwn {})
  unfold Session.RunEnds at streamed
  rw [← own, ran] at streamed
  exact streamed

theorem streamWith_streamedBetween (p : Progress σ Unit) :
    p.StreamedBetween ((s.streamWith adapter).runFrom p).1 ((s.streamWith adapter).runFrom p).2 := by
  have approaches := s.approach_holds adapter p
  have creates (device : Device) : Holds (createPeripheral adapter device) :=
    .called rfl (fun _ => rfl) _
  have goes := s.goes adapter p
  generalize (s.streamWith adapter).runFrom p = run at goes
  obtain ⟨result, u⟩ := run
  dsimp only at goes ⊢
  cases goes with
  | astray approached =>
      rw [approached] at approaches
      exact approaches.failed _
  | @refused device _ q _ approached refused =>
      have created := creates device q
      rw [refused] at created
      rw [approached] at approaches
      exact (approaches.trans created).failed _
  | @broken device _ _ q _ _ approached created broken =>
      have creates := creates device q
      rw [created] at creates
      rw [approached] at approaches
      have ran := session_streamedBetween own broken
      exact (approaches.trans creates).streamedBetween (ran.held (.refl _) nofun)
  | @through device _ _ ending q _ _ t approached created returned told =>
      have creates := creates device q
      rw [created] at creates
      rw [approached] at approaches
      have tells := Holds.tell s.notifier farewell (t.withOwn ())
      rw [told] at tells
      have ran := session_streamedBetween own returned
      exact (approaches.trans creates).streamedBetween (ran.held tells fun _ => rfl)

theorem stream_streamedBetween (p : Progress σ Unit) :
    p.StreamedBetween (s.stream.runFrom p).1 (s.stream.runFrom p).2 := by
  have finds := s.findAdapter_holds p
  rw [stream, withAdapter, runFrom_bind]
  rcases found : s.findAdapter.runFrom p with ⟨f | adapter, q⟩ <;> rw [found] at finds
  · exact finds.failed f
  · refine finds.streamedBetween ?_
    dsimp only
    have streams : q.StreamedBetween ((s.streamWith adapter).runFrom q).1
        ((s.streamWith adapter).runFrom q).2 := streamWith_streamedBetween own q
    have closes := closeAdapter_holds adapter ((s.streamWith adapter).runFrom q).2
    rw [runFrom_ensuring]
    generalize (closeAdapter adapter).runFrom _ = closed at closes ⊢
    rcases closed with ⟨f | _, r⟩
    · exact streams.held closes fun never => by cases never
    · exact streams.held closes id

end Streaming

/-! ## Whatever is done -/

/-- What becomes of stop requests in each act, whatever the collaborators do. -/
theorem act_bears {idle : Call σ Unit} (own : s.wait = .request idle) (act : Act σ)
    (p : Progress σ Unit) :
    let ended := (act.perform s).runFrom p
    ∃ moves, ended.2.stops = p.stops.after moves ∧ BearsStopMoves p.stopRequested act ended.1 moves := by
  cases act with
  | requestStop => exact ⟨[.requested], p.stops_requestStop, .requested⟩
  | stream =>
      obtain ⟨released, moves, stands, moved, passed⟩ := stream_streamedBetween own p
      refine ⟨moves, ?_, .streamed moved ?_⟩ <;> rw [Act.perform, runFrom_bind] <;>
        generalize s.stream.runFrom p = run at stands passed <;>
        rcases run with ⟨f | streamed, q⟩
      · exact stands
      · exact stands
      · exact passed
      · exact passed
  | listDevices adapter =>
      have holds : Holds ((Act.listDevices adapter).perform s) := by
        cases adapter with
        | none => exact .bind s.listDevices_holds fun _ => .pure ()
        | some adapter => exact .bind (scan_holds adapter _ _) fun _ => .pure ()
      obtain ⟨n, stands⟩ := holds p
      exact ⟨_, stands, .listed adapter _ n⟩
  | select devices =>
      have holds : Holds ((Act.select devices).perform s) :=
        .bind (select_holds _ _ _ _ devices) fun _ => .pure ()
      obtain ⟨n, stands⟩ := holds p
      exact ⟨_, stands, .selected devices _ n⟩

theorem BearsStopMoves.accounted {a : Stops} {act : Act σ} {result : Except Fault Unit}
    {moves : List StopMove} (bears : BearsStopMoves a.pending act result moves)
    (accounted : a.Accounted) :
    (a.after moves).Accounted := by
  cases bears with
  | requested => exact accounted.after (by simp)
  | streamed moved => exact moved.accounted accounted
  | listed | selected => exact accounted.after (by simp)

theorem BearsStopMoves.count_released {pending : Bool} {act : Act σ} {result : Except Fault Unit}
    {moves : List StopMove} (bears : BearsStopMoves pending act result moves) :
    moves.count .released ≤ 1 := by
  cases bears with
  | requested => decide
  | streamed moved => cases moved <;> simp [List.count_replicate]
  | listed | selected => simp [List.count_replicate]

variable {s}

theorem follow_accounted {idle : Call σ Unit} (own : s.wait = .request idle) (acts : List (Act σ))
    {p : Progress σ Unit} (accounted : p.stops.Accounted) :
    (s.follow acts p).stops.Accounted := by
  induction acts generalizing p with
  | nil => exact accounted
  | cons act rest ih =>
      obtain ⟨moves, stands, bears⟩ := s.act_bears own act p
      refine ih (p := ((act.perform s).runFrom p).2) ?_
      rw [stands]
      exact bears.accounted accounted

/-- The streamer, waiting for stop requests instead. -/
def untilStopped (s : Streamer σ) (idle : Call σ Unit) : Streamer σ :=
  { s with wait := .request idle }

/-- Whatever is done with a streamer, and whenever stop requests come in, its account of them is
    in order. In each act one stream is let go at most, where it waits and by a request that is
    pending there. Where none is, a pending request stays. -/
theorem stop_requests_accounted (s : Streamer σ) (idle : Call σ Unit) (acts : List (Act σ))
    (env : σ) :
    let p := (s.untilStopped idle).follow acts ⟨env, [], false, ()⟩
    p.stops.Accounted ∧
      ∀ act : Act σ,
        let ended := (act.perform (s.untilStopped idle)).runFrom p
        ∃ moves, ended.2.stops = p.stops.after moves ∧
          BearsStopMoves p.stopRequested act ended.1 moves ∧ moves.count .released ≤ 1 ∧
          (.released ∈ moves ∨
            ended.2.stopRequested = (p.stopRequested || decide (.requested ∈ moves))) := by
  intro p
  have own : (s.untilStopped idle).wait = .request idle := rfl
  refine ⟨follow_accounted own acts .fresh, fun act => ?_⟩
  obtain ⟨moves, stands, bears⟩ := (s.untilStopped idle).act_bears own act p
  refine ⟨moves, stands, bears, bears.count_released, ?_⟩
  by_cases held : .released ∈ moves
  · exact .inl held
  · exact .inr ((congrArg Stops.pending stands).trans (p.stops.pending_after held))

/-- One request lets go one of two streams: the first, which finds it pending. -/
example :
    let s := (unattended panelHost).untilStopped (.fail (.interrupt "KeyboardInterrupt" ""))
    (s.follow [.requestStop, .listDevices none, .stream, .stream]
        ⟨⟨(), none, 0⟩, [], false, ()⟩).stops =
      ⟨[.requested, .waits .subscribed, .released, .waited true, .waits .subscribed,
        .waited false], false⟩ := by
  decide +kernel

end BezelStream.Streamer
