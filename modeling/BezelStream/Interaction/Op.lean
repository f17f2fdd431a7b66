import BezelStream.Interaction.Call

/-! # Operations

An operation works on a `Progress`: the state outside, the journal, a pending stop
request, and a state of its own. It ends with a value or a fault, and keeps the
progress in both cases.
-/

namespace BezelStream

/-- How far a run has come, with the state `own` of the operation at work. -/
structure Progress (σ ρ : Type) where
  env : σ
  journal : List Event := []
  stopRequested : Bool := false
  own : ρ

namespace Progress

variable {σ ρ : Type}

def note (event : Event) (p : Progress σ ρ) : Progress σ ρ :=
  { p with journal := p.journal ++ [event] }

/-- Takes note of a stop request, which stays pending until a stream is let go by it. -/
def requestStop (p : Progress σ ρ) : Progress σ ρ :=
  { p.note .stopRequested with stopRequested := true }

/-- Takes in one occurrence; frames go to `deliver`. -/
def take (deliver : Frame → Progress σ ρ → Progress σ ρ) (p : Progress σ ρ) :
    Occurrence → Progress σ ρ
  | .frame f => deliver f p
  | .stopRequest => p.requestStop
  | .noted remark => p.note remark.event

def takeAll (deliver : Frame → Progress σ ρ → Progress σ ρ) (p : Progress σ ρ)
    (occurrences : List Occurrence) : Progress σ ρ :=
  occurrences.foldl (take deliver) p

end Progress

/-- An operation with a state of its own of type `ρ`. -/
abbrev Op (σ ρ : Type) := ExceptT Fault (StateM (Progress σ ρ))

namespace Op

variable {σ ρ α β : Type}

def ofFn (f : Progress σ ρ → Except Fault α × Progress σ ρ) : Op σ ρ α :=
  ExceptT.mk f

def runFrom (x : Op σ ρ α) (p : Progress σ ρ) : Except Fault α × Progress σ ρ :=
  x.run p

def update (f : Progress σ ρ → Progress σ ρ) : Op σ ρ Unit :=
  ofFn fun p => (.ok (), f p)

def read (f : Progress σ ρ → α) : Op σ ρ α :=
  ofFn fun p => (.ok (f p), p)

def note (event : Event) : Op σ ρ Unit :=
  update (·.note event)

def log (level : Level) (source : LogSource) (text : String) : Op σ ρ Unit :=
  note (.log level source text)

def own : Op σ ρ ρ :=
  read (·.own)

def updateOwn (f : ρ → ρ) : Op σ ρ Unit :=
  update fun p => { p with own := f p.own }

/-- Makes a call; frames that come in meanwhile go to `deliver`. -/
def performWith (deliver : Frame → Progress σ ρ → Progress σ ρ) (call : Call σ α) : Op σ ρ α :=
  ofFn fun p =>
    let (reply, env) := call p.env
    (reply.result, Progress.takeAll deliver { p with env } reply.occurrences)

def perform (call : Call σ α) : Op σ ρ α :=
  performWith (fun _ p => p) call

def attempt (x : Op σ ρ α) : Op σ ρ (Except Fault α) :=
  ofFn fun p =>
    let (result, p) := x.runFrom p
    (.ok result, p)

def ofResult (result : Except Fault α) : Op σ ρ α :=
  ofFn fun p => (result, p)

/-- Runs an operation as a call: it is journalled before its outcome is known and when
    it has ended. -/
def called (event : Event) (x : Op σ ρ α) : Op σ ρ α := do
  note event
  let result ← x.attempt
  note (.ended event (faultOf? result))
  ofResult result

/-- Runs an operation and then, however it ended, another one. A fault of the second
    takes the place of how the first ended. -/
def ensuring (x : Op σ ρ α) (last : Op σ ρ Unit) : Op σ ρ α := do
  let result ← x.attempt
  last
  ofResult result

/-- Runs an operation that has a state of its own, which begins as given and ends with it. -/
def within {ρ' : Type} (start : ρ') (x : Op σ ρ' α) : Op σ ρ α :=
  ofFn fun p =>
    let (result, q) := x.runFrom ⟨p.env, p.journal, p.stopRequested, start⟩
    (result, ⟨q.env, q.journal, q.stopRequested, p.own⟩)

/-! ## How operations run

One equation for each operation above, so that nothing has to be unfolded to follow a
run.
-/

variable (p : Progress σ ρ)

@[simp] theorem runFrom_ofFn (f : Progress σ ρ → Except Fault α × Progress σ ρ) :
    (ofFn f).runFrom p = f p :=
  rfl

@[simp] theorem runFrom_pure (a : α) : (pure a : Op σ ρ α).runFrom p = (.ok a, p) :=
  rfl

@[simp] theorem runFrom_throw (f : Fault) :
    (throw f : Op σ ρ α).runFrom p = (.error f, p) :=
  rfl

/-- Nothing follows a fault; a value is handed on with the progress made. -/
theorem runFrom_bind (x : Op σ ρ α) (next : α → Op σ ρ β) :
    (x >>= next).runFrom p =
      match x.runFrom p with
      | (.ok a, q) => (next a).runFrom q
      | (.error f, q) => (.error f, q) := by
  simp only [runFrom, bind, ExceptT.bind, ExceptT.run, ExceptT.mk, StateT.bind]
  rcases x p with ⟨_ | _, _⟩ <;> rfl

/-- What ended by a value came through both parts. -/
theorem ok_of_bind {x : Op σ ρ α} {next : α → Op σ ρ β} {p r : Progress σ ρ} {b : β}
    (run : (x >>= next).runFrom p = (.ok b, r)) :
    ∃ a q, x.runFrom p = (.ok a, q) ∧ (next a).runFrom q = (.ok b, r) := by
  rw [runFrom_bind] at run
  rcases ended : x.runFrom p with ⟨f | a, q⟩ <;> rw [ended] at run
  · cases run
  · exact ⟨a, q, rfl, run⟩

@[simp] theorem runFrom_update (f : Progress σ ρ → Progress σ ρ) :
    (update f).runFrom p = (.ok (), f p) :=
  rfl

@[simp] theorem runFrom_read (f : Progress σ ρ → α) : (read f).runFrom p = (.ok (f p), p) :=
  rfl

@[simp] theorem runFrom_note (event : Event) :
    (note event).runFrom p = (.ok (), p.note event) :=
  rfl

@[simp] theorem runFrom_own : (own : Op σ ρ ρ).runFrom p = (.ok p.own, p) :=
  rfl

@[simp] theorem runFrom_updateOwn (f : ρ → ρ) :
    (updateOwn f).runFrom p = (.ok (), { p with own := f p.own }) :=
  rfl

@[simp] theorem runFrom_performWith (deliver : Frame → Progress σ ρ → Progress σ ρ)
    (call : Call σ α) :
    (performWith deliver call).runFrom p =
      ((call p.env).1.result,
        Progress.takeAll deliver { p with env := (call p.env).2 } (call p.env).1.occurrences) :=
  rfl

@[simp] theorem runFrom_ofResult (result : Except Fault α) :
    (ofResult result).runFrom p = (result, p) :=
  rfl

@[simp] theorem runFrom_attempt (x : Op σ ρ α) :
    x.attempt.runFrom p = (.ok (x.runFrom p).1, (x.runFrom p).2) :=
  rfl

@[simp] theorem runFrom_called (event : Event) (x : Op σ ρ α) :
    (called event x).runFrom p =
      ((x.runFrom (p.note event)).1,
        (x.runFrom (p.note event)).2.note (.ended event (faultOf? (x.runFrom (p.note event)).1))) :=
  rfl

/-- The last operation always runs, and only its own fault hides how the first ended. -/
theorem runFrom_ensuring (x : Op σ ρ α) (last : Op σ ρ Unit) :
    (x.ensuring last).runFrom p =
      match last.runFrom (x.runFrom p).2 with
      | (.ok _, q) => ((x.runFrom p).1, q)
      | (.error f, q) => (.error f, q) := by
  simp only [ensuring, runFrom_bind, runFrom_attempt, runFrom_ofResult]
  rcases last.runFrom (x.runFrom p).2 with ⟨_ | _, _⟩ <;> rfl

/-- An operation with a state of its own leaves the state around it as it is. -/
theorem runFrom_within {ρ' : Type} (start : ρ') (x : Op σ ρ' α) :
    (within start x).runFrom p =
      let q := (x.runFrom ⟨p.env, p.journal, p.stopRequested, start⟩).2
      ((x.runFrom ⟨p.env, p.journal, p.stopRequested, start⟩).1,
        ⟨q.env, q.journal, q.stopRequested, p.own⟩) :=
  rfl

end Op

end BezelStream
