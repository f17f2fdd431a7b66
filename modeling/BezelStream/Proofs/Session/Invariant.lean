import BezelStream.Proofs.Session.Conduct

/-! # Invariants of sessions

An `Invariant` relates the standing of a session to all its dealings so far and is kept
by each step, whatever the collaborators answer. It then holds after every sequence of
`Act`s: a caller may use a session in any order, and repeat what failed.
-/

namespace BezelStream.Session

variable {σ α β : Type}

/-- What can be done with a session from outside. -/
inductive Act (σ : Type) where
  | connect
  | discover
  | locate (services : List Service)
  | subscribe
  | close
  /-- Begins a block of work with the session, which connects it. -/
  | enter
  /-- Ends such a block, with the fault that ended the work in it, if one did. -/
  | leave (after : Option Fault)
  | run (wait : StopWait σ)
  /-- Lets a frame come in that nobody waits for. -/
  | receive (frame : Frame)

/-- Does something with a session; what it gives is not looked at. -/
def Act.perform (s : Session σ) : Act σ → Step σ Unit
  | .connect | .enter => s.connect
  | .discover => do let _ ← s.discover
  | .locate services => do let _ ← s.locate services
  | .subscribe => do let _ ← s.subscribe
  | .close => s.close
  | .leave after => s.leave after
  | .run wait => do let _ ← s.run wait
  | .receive frame => Op.update (s.receive frame)

/-- Does several things in order. A fault of one does not keep the next from being done. -/
def follow (s : Session σ) (acts : List (Act σ)) (p : Progress σ Lifecycle) :
    Progress σ Lifecycle :=
  acts.foldl (fun p act => ((act.perform s).runFrom p).2) p

/-- A relation between standing and dealings stays true, whichever of the outcomes comes about. -/
def Kept (I : Standing → List Dealing → Prop) (outcomes : Outcomes α) : Prop :=
  ∀ ⦃a log more result b⦄, I a log → outcomes a more result b → I b (log ++ more)

/-- A relation between standing and dealings that every step keeps. -/
structure Invariant (I : Standing → List Dealing → Prop) : Prop where
  connects : Kept I Connects
  discovers : Kept I Discovers
  locates : ∀ wanted services, Kept I (Locates wanted services)
  subscribes : Kept I Subscribes
  tells : Kept I Tells
  waits : Kept I Waits
  closes : Kept I Closes

def Survives (I : Standing → List Dealing → Prop) (p q : Progress σ Lifecycle) : Prop :=
  ∃ more, p.Adds more q ∧ ∀ log, I p.own.standing log → I q.own.standing (log ++ more)

/-- An operation that an invariant survives from wherever it begins. -/
def Keeps (I : Standing → List Dealing → Prop) (x : Step σ α) : Prop :=
  ∀ p, RunEnds x p fun _ q => Survives I p q

variable {I : Standing → List Dealing → Prop}

namespace Survives

theorem of_stays {p q : Progress σ Lifecycle} (stays : p.Stays [] q) : Survives I p q := by
  refine ⟨[], stays.adds, fun log holds => ?_⟩
  rw [stays.standing, List.append_nil]
  exact holds

theorem of_comes {outcomes : Outcomes α} {p q : Progress σ Lifecycle} {result : Except Fault α}
    (kept : Kept I outcomes) (came : ComesToOne outcomes p result q) : Survives I p q := by
  obtain ⟨more, adds, outcome⟩ := came
  exact ⟨more, adds, fun _ holds => kept holds outcome⟩

theorem trans {p q r : Progress σ Lifecycle} (first : Survives I p q) (second : Survives I q r) :
    Survives I p r := by
  obtain ⟨left, leftAdds, leftKeeps⟩ := first
  obtain ⟨right, rightAdds, rightKeeps⟩ := second
  refine ⟨left ++ right, leftAdds.trans rightAdds, fun log holds => ?_⟩
  rw [← List.append_assoc]
  exact rightKeeps _ (leftKeeps log holds)

theorem holds {p q : Progress σ Lifecycle} (survives : Survives I p q)
    (holds : I p.own.standing (dealings p.journal)) :
    I q.own.standing (dealings q.journal) := by
  obtain ⟨more, adds, keeps⟩ := survives
  rw [adds.dealings]
  exact keeps _ holds

end Survives

namespace Keeps

theorem of_does {x : Step σ α} {outcomes : Outcomes α} (does : DoesOneOf x outcomes)
    (kept : Kept I outcomes) : Keeps I x :=
  fun p => (does p).imp fun _ _ came => .of_comes kept came

theorem of_stays {x : Step σ α} (stays : ∀ p, RunEnds x p fun _ q => p.Stays [] q) : Keeps I x :=
  fun p => (stays p).imp fun _ _ still => .of_stays still

theorem bind {x : Step σ α} {next : α → Step σ β} (first : Keeps I x)
    (second : ∀ a, Keeps I (next a)) : Keeps I (x >>= next) := by
  intro p
  refine .bind ((first p).imp fun result q survived => ?_)
  cases result with
  | error f => exact survived
  | ok a => exact (second a q).imp fun _ _ more => survived.trans more

theorem attempt {x : Step σ α} (keeps : Keeps I x) : Keeps I x.attempt :=
  keeps

theorem pure (a : α) : Keeps (σ := σ) I (Pure.pure a) :=
  of_stays fun p => .pure (.refl p)

theorem throw (f : Fault) : Keeps (σ := σ) (α := α) I (MonadExcept.throw f) :=
  of_stays fun p => .throw (.refl p)

theorem log (level : Level) (source : LogSource) (text : String) :
    Keeps (σ := σ) I (Op.log level source text) :=
  of_stays fun p => .log (.note ⟨rfl, rfl⟩ p)

end Keeps

namespace Invariant

variable (inv : Invariant I) (s : Session σ)

include inv

theorem keeps_body (wait : StopWait σ) : Keeps I (s.body wait) := by
  refine .bind (.of_does s.discover_does inv.discovers) fun services => ?_
  refine .bind (.of_does (s.locate_does services) (inv.locates _ _)) fun _ => ?_
  refine .bind (.of_does s.subscribe_does inv.subscribes) fun subscription => ?_
  refine .bind (.of_does (tell_does _ _) inv.tells) fun _ => ?_
  -- The state is read where the wait is entered, so reading it cannot be taken apart from that.
  refine fun p => .own_bind (.bind ((s.wait_comes wait p).imp fun result q came => ?_))
  have survived := Survives.of_comes inv.waits came
  cases result with
  | error f => exact survived
  | ok => exact .pure survived

theorem keeps_leave (after : Option Fault) : Keeps I (s.leave after) := by
  refine .bind (.attempt (.of_does s.close_does inv.closes)) fun result => ?_
  cases result with
  | ok => exact .pure _
  | error f =>
      dsimp only
      split
      · exact .log _ _ _
      · exact .throw _

theorem keeps_run (wait : StopWait σ) : Keeps I (s.run wait) := by
  refine .bind (.of_does s.connect_does inv.connects) fun _ => ?_
  refine .bind (.attempt (inv.keeps_body s wait)) fun result => ?_
  cases result with
  | ok => exact .bind (inv.keeps_leave s _) fun _ => .pure _
  | error f => exact .bind (inv.keeps_leave s _) fun _ => .throw _

theorem keeps_act (act : Act σ) : Keeps I (act.perform s) := by
  cases act with
  | connect | enter => exact .of_does s.connect_does inv.connects
  | discover => exact .bind (.of_does s.discover_does inv.discovers) fun _ => .pure _
  | locate services =>
      exact .bind (.of_does (s.locate_does services) (inv.locates _ _)) fun _ => .pure _
  | subscribe => exact .bind (.of_does s.subscribe_does inv.subscribes) fun _ => .pure _
  | close => exact .of_does s.close_does inv.closes
  | leave after => exact inv.keeps_leave s after
  | run wait => exact .bind (inv.keeps_run s wait) fun _ => .pure _
  | receive frame => exact .of_stays fun p => s.receive_stays frame p

/-- An invariant survives whatever is done with a session. -/
theorem survives_follow (acts : List (Act σ)) (p : Progress σ Lifecycle) :
    Survives I p (s.follow acts p) := by
  induction acts generalizing p with
  | nil => exact .of_stays (.refl p)
  | cons act rest ih => exact Survives.trans (inv.keeps_act s act p) (ih _)

/-- An invariant that holds of a new session holds after whatever is done with it, and
    every call of the peripheral has ended then. -/
theorem holds_after (fresh : I .fresh []) (acts : List (Act σ)) (env : σ) (requested : Bool) :
    let p := s.follow acts (.fresh env requested)
    I p.own.standing (dealings p.journal) ∧
      calls p.journal = (exchanges (dealings p.journal)).map Prod.fst := by
  intro p
  obtain ⟨more, adds, keeps⟩ := inv.survives_follow s acts (.fresh env requested)
  obtain ⟨log, asked⟩ := Progress.whole_of_adds adds
  refine ⟨?_, asked⟩
  rw [log]
  exact keeps [] fresh

end Invariant

end BezelStream.Session
