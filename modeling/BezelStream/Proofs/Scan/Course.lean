import BezelStream.Proofs.Interaction.Writing
import BezelStream.Scan

/-! # Following a course

`Course.Runs` describes what comes of a course without saying how it is followed: the
signals that it gives, each told before the next is known, how it ends, and the progress
made. Following a course is exactly that, so what every signal keeps, the whole course
keeps.
-/

namespace BezelStream

variable {σ ρ : Type}

/-- Takes in what happens while no frames are awaited. -/
abbrev Progress.takeIn (p : Progress σ ρ) (occurrences : List Occurrence) : Progress σ ρ :=
  p.takeAll (fun _ q => q) occurrences

theorem Progress.takeIn_own (p : Progress σ ρ) (occurrences : List Occurrence) :
    (p.takeIn occurrences).own = p.own := by
  induction occurrences generalizing p with
  | nil => rfl
  | cons occurrence rest ih => cases occurrence <;> exact ih _

/-- What is taken in does not depend on the state outside. -/
theorem Progress.takeIn_env (p : Progress σ ρ) (occurrences : List Occurrence) (env : σ) :
    Progress.takeIn { p with env } occurrences = { p.takeIn occurrences with env } := by
  induction occurrences generalizing p with
  | nil => rfl
  | cons occurrence rest ih =>
      cases occurrence with
      | frame frame => exact ih p
      | stopRequest => exact ih p.requestStop
      | noted remark => exact ih (p.note remark.event)

theorem Progress.takeIn_append (p : Progress σ ρ) (left right : List Occurrence) :
    p.takeIn (left ++ right) = (p.takeIn left).takeIn right :=
  List.foldl_append

/-- Only asides are taken in. -/
theorem Progress.takeIn_since (p : Progress σ ρ) (occurrences : List Occurrence) :
    (p.takeIn occurrences).Since Event.Aside p.journal :=
  Op.Writes.perform (fun env => (⟨occurrences, .ok ()⟩, env)) (fun _ aside => aside) p

/-- Who answers a call does not touch the state of the operation at work. -/
theorem Op.perform_own {α : Type} (call : Call σ α) (p : Progress σ ρ) :
    ((Op.perform call).runFrom p).2.own = p.own :=
  Progress.takeIn_own _ _

namespace Course

/-- From a progress, a course gives the signals, ends so, and leaves the progress. -/
inductive Runs (handle : ScanSignal → Op σ ρ Unit) :
    Course σ → Progress σ ρ → List ScanSignal → Except Fault Unit → Progress σ ρ → Prop where
  | ended (occurrences : List Occurrence) (result : Except Fault Unit) (env : σ)
      (p : Progress σ ρ) :
      Runs handle (.ended occurrences result env) p [] result
        (Progress.takeIn { p with env } occurrences)
  | gives {occurrences : List Occurrence} {signal : ScanSignal} {env : σ}
      {next : Except Fault Unit → σ → Course σ} {p told q : Progress σ ρ}
      {result ending : Except Fault Unit} {signals : List ScanSignal}
      (tells : (handle signal).runFrom (Progress.takeIn { p with env } occurrences) =
        (result, told))
      (rest : Runs handle (next result told.env) told signals ending q) :
      Runs handle (.gives occurrences signal env next) p (signal :: signals) ending q

variable {handle : ScanSignal → Op σ ρ Unit}

/-- A course that is followed runs. -/
theorem runs_follow (course : Course σ) (p : Progress σ ρ) :
    ∃ signals, Runs handle course p signals ((course.follow handle).runFrom p).1
      ((course.follow handle).runFrom p).2 := by
  induction course generalizing p with
  | ended occurrences result env => exact ⟨[], .ended occurrences result env p⟩
  | gives occurrences signal env next ih =>
      let told := (handle signal).runFrom (Progress.takeIn { p with env } occurrences)
      obtain ⟨signals, rest⟩ := ih told.1 told.2.env told.2
      exact ⟨signal :: signals, .gives rfl rest⟩

/-- A signal is told first, and what follows depends on how that ended. -/
theorem follow_gives (occurrences : List Occurrence) (signal : ScanSignal) (env : σ)
    (next : Except Fault Unit → σ → Course σ) (p : Progress σ ρ) :
    ((Course.gives occurrences signal env next).follow handle).runFrom p =
      let told := (handle signal).runFrom (Progress.takeIn { p with env } occurrences)
      ((next told.1 told.2.env).follow handle).runFrom told.2 :=
  rfl

theorem Runs.follow {course : Course σ} {p q : Progress σ ρ} {signals : List ScanSignal}
    {result : Except Fault Unit} (runs : Runs handle course p signals result q) :
    (course.follow handle).runFrom p = (result, q) := by
  induction runs with
  | ended => rfl
  | gives tells rest ih =>
      rw [follow_gives, tells]
      exact ih

/-- There is only one way for a course to run. -/
theorem Runs.unique {course : Course σ} {p q r : Progress σ ρ}
    {signals others : List ScanSignal} {result ending : Except Fault Unit}
    (one : Runs handle course p signals result q) (other : Runs handle course p others ending r) :
    signals = others ∧ result = ending ∧ q = r := by
  induction one generalizing others with
  | ended =>
      cases other
      exact ⟨rfl, rfl, rfl⟩
  | gives tells rest ih =>
      cases other with
      | gives also more =>
          rw [tells] at also
          cases also
          obtain ⟨same, ends, stands⟩ := ih more
          exact ⟨congrArg _ same, ends, stands⟩

/-- A course brings along the state outside that it begins in. -/
theorem Runs.of_env {course : Course σ} {p q : Progress σ ρ} {env : σ}
    {signals : List ScanSignal} {result : Except Fault Unit}
    (runs : Runs handle course { p with env } signals result q) :
    Runs handle course p signals result q := by
  cases runs with
  | ended occurrences result later => exact .ended occurrences result later p
  | gives tells rest => exact .gives tells rest

theorem follow_of_env (course : Course σ) (p : Progress σ ρ) (env : σ) :
    (course.follow handle).runFrom { p with env } = (course.follow handle).runFrom p := by
  cases course <;> rfl

/-- A course goes abreast with itself if telling each of its signals does. -/
theorem abreast_follow {R : Progress σ ρ → Progress σ ρ → Prop} (alike : Op.Alike R)
    (tells : ∀ signal, Op.Abreast R (handle signal) (handle signal)) (course : Course σ) :
    Op.Abreast R (course.follow handle) (course.follow handle) := by
  induction course with
  | ended occurrences result env => exact alike.perform _
  | gives occurrences signal env next ih =>
      refine .bind (alike.perform _) fun _ => .bind (tells signal).attempt fun result => ?_
      exact .bind (.read alike.env) fun env => ih result env

/-- What is written of each signal, and by those who answer, is written of the course. -/
theorem writes_follow {allowed : Event → Prop} (admits : Op.Admits allowed)
    (writes : ∀ signal, Op.Writes allowed (handle signal)) (course : Course σ) :
    Op.Writes allowed (course.follow handle) :=
  .of_abreast fun journal =>
    abreast_follow (admits.alike journal) (fun signal => (writes signal).abreast journal) course

end Course

end BezelStream
