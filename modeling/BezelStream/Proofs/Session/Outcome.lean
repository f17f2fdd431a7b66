import BezelStream.Proofs.Session.Run

/-! # What a run reports

A run may fail twice: in its body, and again while it cleans up. Which of the two faults
it ends with depends on the later one only: a failure of the session gives way to an
earlier fault, and anything else hides it.
-/

namespace BezelStream

/-- The record of a failure of the cleanup that gives way to an earlier fault. -/
def Fault.giveWay (f : Fault) : Event :=
  .log .warning .session ("Cleanup after failure also failed: " ++ f.message)

/-- What is reported, and recorded in addition, when a body ended so and the cleanup after
    it left a fault or none. -/
def reported {α : Type} (body : Except Fault α) : Option Fault → Except Fault α × List Event
  | none => (body, [])
  | some c =>
      if c.isSession then
        match body with
        | .ok _ => (.error c, [])
        | .error b => (.error b, [c.giveWay])
      else (.error c, [])

namespace Session

variable {σ : Type}

/-- The dealings of a cleanup, with the fault that it leaves: that of disconnecting, or
    else what was left over from unsubscribing. -/
inductive CleansUp : List Dealing → Option Fault → Prop where
  | disconnected (fault : Option Fault) : CleansUp [.exchange (.disconnect, fault)] fault
  | unsubscribed (service characteristic : String) {ending left : Option Fault}
      {told : List Dealing} (report : Reports ending told left) (fault : Option Fault) :
      CleansUp
        (.exchange (.unsubscribe service characteristic, ending) :: told ++
          [.exchange (.disconnect, fault)])
        (fault <|> left)

/-- A fault of connecting is reported as a failure to connect, unless it is an interrupt. -/
def ReportsConnecting (f : Fault) (result : Except Fault Subscription) : Prop :=
  if f.isOrdinary then
    if f.failure? = some .connectionFailed then result = .error f
    else ∃ g before, result = .error g ∧ g.failure? = some .connectionFailed ∧
      g.message = before ++ f.message
  else result = .error f

theorem reportsConnecting_asFailure (f : Fault) :
    ReportsConnecting f (.error (f.asFailure .connectionFailed .connection)) := by
  unfold ReportsConnecting Fault.asFailure
  cases f.isOrdinary with
  | false => simp
  | true =>
      by_cases same : f.failure? = some .connectionFailed
      · simp [same]
      · simp only [same, if_true, if_false, decide_false, Bool.not_true, Bool.or_self]
        exact ⟨.connection f, "Connection failed: ", by simp, rfl, rfl⟩

theorem Streams.live {log : List Dealing} {result : Except Fault Subscription} {b : Standing}
    (streams : Streams log result b) : ¬ b.Inert := by
  cases streams with
  | unsubscribed _ live => exact live
  | streamed _ _ _ state => simp [Standing.Inert, state]

theorem Closes.cleansUp {a b : Standing} {log : List Dealing} {result : Except Fault Unit}
    (live : ¬ a.Inert) (closes : Closes a log result b) :
    ∃ left, CleansUp log left ∧ result = endedWith left := by
  cases closes with
  | inert past => exact absurd past live
  | disconnected _ _ fault => exact ⟨fault, .disconnected fault, rfl⟩
  | unsubscribed _ _ report fault => exact ⟨_, .unsubscribed _ _ report fault, rfl⟩

/-- Leaving after a body reports what the body and the cleanup come to together. -/
theorem leave_reports (s : Session σ) (body : Except Fault Subscription) (p : Progress σ Lifecycle)
    {left : Option Fault} (closed : (s.close.runFrom p).1 = endedWith left) :
    RunEnds (s.leave (faultOf? body)) p fun result q =>
      result.bind (fun _ => body) = (reported body left).1 ∧
        q.journal = (s.close.runFrom p).2.journal ++ (reported body left).2 := by
  refine .leave ?_
  unfold RunEnds
  rw [closed]
  cases left with
  | none => exact ⟨rfl, (List.append_nil _).symm⟩
  | some c =>
      cases session : c.isSession with
      | false => simp [endedWith, session, reported, Except.bind]
      | true =>
          cases body with
          | ok value => simp [endedWith, session, reported, Except.bind, faultOf?]
          | error b =>
              simp [endedWith, session, reported, Except.bind, faultOf?, Progress.note,
                Fault.giveWay]

theorem run_reports_connect {s : Session σ} {p : Progress σ Lifecycle} {f : Fault}
    (failed : (s.connect.runFrom p).1 = .error f) (wait : StopWait σ) :
    ((s.run wait).runFrom p).1 = .error f := by
  have ends : RunEnds (s.run wait) p fun result _ => result = .error f := by
    refine .run ?_
    unfold RunEnds
    rw [failed]
  exact ends

theorem run_reports_rest {s : Session σ} {wait : StopWait σ} {p : Progress σ Lifecycle}
    (connected : (s.connect.runFrom p).1 = .ok ()) {left : Option Fault} :
    let body := (s.body wait).runFrom (s.connect.runFrom p).2
    let closed := s.close.runFrom body.2
    closed.1 = endedWith left →
      ((s.run wait).runFrom p).1 = (reported body.1 left).1 ∧
        ((s.run wait).runFrom p).2.journal = closed.2.journal ++ (reported body.1 left).2 := by
  intro body closed ended
  have ends : RunEnds (s.run wait) p fun result q =>
      result = (reported body.1 left).1 ∧
        q.journal = closed.2.journal ++ (reported body.1 left).2 := by
    refine .run ?_
    unfold RunEnds
    rw [connected]
    exact s.leave_reports body.1 body.2 ended
  exact ends

/-- What a run reports, and what it records beyond what its parts do: a fault of connecting
    as such, and otherwise what the body and the cleanup after it come to together. -/
theorem run_reports (s : Session σ) (wait : StopWait σ) (env : σ) (requested : Bool) :
    let run := (s.run wait).runFrom (.fresh env requested)
    match (s.peripheral.connect env).1.result with
    | .error f => ReportsConnecting f run.1
    | .ok () =>
        let connected := s.connect.runFrom (.fresh env requested)
        let body := (s.body wait).runFrom connected.2
        let closed := s.close.runFrom body.2
        ∃ cleanup left, CleansUp cleanup left ∧
          dealings closed.2.journal = dealings body.2.journal ++ cleanup ∧
          run.1 = (reported body.1 left).1 ∧
          run.2.journal = closed.2.journal ++ (reported body.1 left).2 := by
  intro run
  have connects := s.connect_ends (p := .fresh env requested) rfl
  unfold RunEnds at connects
  cases answered : (s.peripheral.connect env).1.result with
  | error f =>
      simp only [Progress.fresh, answered] at connects
      have failed := run_reports_connect connects.1 wait
      simp only [run, Progress.fresh, failed]
      exact reportsConnecting_asFailure f
  | ok =>
      simp only [Progress.fresh, answered] at connects
      obtain ⟨done, _, standing⟩ := connects
      obtain ⟨streamed, _, did⟩ := s.body_does wait (s.connect.runFrom (.fresh env requested)).2
      have streams := streams_of_body (congrArg Standing.state standing)
        (congrArg Standing.subscription standing) did
      obtain ⟨cleanup, closes, closing⟩ := s.close_does
        ((s.body wait).runFrom (s.connect.runFrom (.fresh env requested)).2).2
      obtain ⟨left, cleansUp, ended⟩ := closing.cleansUp streams.live
      exact ⟨cleanup, left, cleansUp, closes.dealings, run_reports_rest done ended⟩

end Session

end BezelStream
