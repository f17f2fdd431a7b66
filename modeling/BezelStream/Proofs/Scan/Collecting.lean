import BezelStream.Proofs.Scan.Course
import BezelStream.Proofs.Scan.Sightings

/-! # What a scan collects

Whatever course a scan takes and however its listener fares, the devices that it gives are
the first sightings that accept connections, out of the devices found by the adapter, and
the listener is told of just these.
-/

namespace BezelStream

variable {σ ρ : Type} {adapter : String} {listener : Listener σ}

/-- The signal that a listener outside is told of. -/
def Event.told? : Event → Option ScanSignal
  | .told signal => some signal
  | _ => none

/-- The signals that a listener outside was told of, in order. -/
def tolds (journal : List Event) : List ScanSignal :=
  journal.filterMap Event.told?

@[simp] theorem tolds_note (event : Event) (p : Progress σ ρ) :
    tolds (p.note event).journal = tolds p.journal ++ event.told?.toList := by
  simp only [tolds, Progress.note, List.filterMap_append]
  cases found : event.told? <;> simp [found]

/-- Nobody else tells of a scan. -/
theorem Event.Aside.told {event : Event} (aside : event.Aside) : event.told? = none := by
  cases aside with
  | stopRequested => rfl
  | remarked remark => cases remark <;> rfl
  | log => rfl

theorem tolds_takeIn (p : Progress σ ρ) (occurrences : List Occurrence) :
    tolds (p.takeIn occurrences).journal = tolds p.journal :=
  ((p.takeIn_since occurrences).imp fun _ aside => aside.told).filterMap

theorem Notifier.tell_own (notifier : Notifier σ) (text : String) (p : Progress σ ρ) :
    ((notifier.tell text).runFrom p).2.own = p.own := by
  cases notifier with
  | silent => rfl
  | log => rfl
  | custom call => exact Op.perform_own (call text) (p.note (.notice text))

theorem Listener.tell_own (listener : Listener σ) (signal : ScanSignal) (p : Progress σ ρ) :
    ((listener.tell signal).runFrom p).2.own = p.own := by
  cases listener with
  | silent => rfl
  | custom call => exact Op.perform_own (call signal) (p.note (.told signal))
  | inWords notifier => exact notifier.tell_own (words signal) p

/-- What is logged of a signal that a listener is told of. -/
def recordOf (adapter : String) : ScanSignal → Event
  | .started => .log .info .scan ("Scan started on adapter " ++ adapter)
  | .found device =>
    .log .debug .scan ("Found device " ++ device.identifier ++ " [" ++ device.address ++ "]")
  | .stopped => .log .info .scan "Scan stopped"

/-- A device is taken in first, and only then is the listener told of it. -/
theorem heed_eq (signal : ScanSignal) (p : Progress σ Sightings) :
    (heed adapter listener signal).runFrom p =
      let taken := { p with own := p.own.after signal }
      if p.own.tells signal then
        (listener.tell signal).runFrom (taken.note (recordOf adapter signal))
      else (.ok (), taken) := by
  cases signal with
  | started => rfl
  | stopped => rfl
  | found device =>
      dsimp only
      by_cases counts : p.own.tells (.found device) = true
      · have inserted : (p.own.insert device).1 = true := counts
        rw [if_pos counts]
        simp only [heed, collect, Op.log, Op.runFrom_bind, Op.runFrom_own, Op.runFrom_updateOwn,
          if_pos inserted, Op.runFrom_note]
        have told : (listener.tell (.found device)).runFrom
            ({ p with own := p.own.after (.found device) }.note (recordOf adapter (.found device))) =
            (listener.tell (.found device)).runFrom (Progress.note (.log .debug .scan
              ("Found device " ++ device.identifier ++ " [" ++ device.address ++ "]"))
              { p with own := (p.own.insert device).2 }) := rfl
        rw [told]
        generalize (listener.tell (.found device)).runFrom _ = ended
        rcases ended with ⟨f | _, q⟩ <;> rfl
      · have inserted : ¬ (p.own.insert device).1 = true := counts
        rw [if_neg counts]
        simp only [heed, collect, Op.runFrom_bind, Op.runFrom_own, Op.runFrom_updateOwn,
          if_neg inserted, Op.runFrom_pure]
        rfl

/-- A device that counts does so even if the listener fails. -/
theorem heed_own (signal : ScanSignal) (p : Progress σ Sightings) :
    ((heed adapter listener signal).runFrom p).2.own = p.own.after signal := by
  rw [heed_eq]
  cases p.own.tells signal with
  | true => exact listener.tell_own signal _
  | false => rfl

section Hooks

variable {hooks : ScanSignal → Call σ Unit}

/-- Heeding a signal fails only if the listener does. -/
theorem heed_ok (fine : ∀ signal env, (hooks signal env).1.result = .ok ()) (signal : ScanSignal)
    (p : Progress σ Sightings) : ((heed adapter (.custom hooks) signal).runFrom p).1 = .ok () := by
  rw [heed_eq]
  cases p.own.tells signal with
  | true => exact fine signal p.env
  | false => rfl

/-- A listener outside leaves the state outside as it answers. -/
theorem heed_env (signal : ScanSignal) {p : Progress σ Sightings}
    (tells : p.own.tells signal = true) :
    ((heed adapter (.custom hooks) signal).runFrom p).2.env = (hooks signal p.env).2 := by
  rw [heed_eq, tells]
  exact congrArg Progress.env (Progress.takeIn_env _ _ _)

theorem tolds_tell (signal : ScanSignal) (p : Progress σ ρ) :
    tolds (((Listener.custom hooks).tell signal).runFrom p).2.journal =
      tolds p.journal ++ [signal] := by
  let answered := hooks signal p.env
  have run : (((Listener.custom hooks).tell signal).runFrom p).2 =
      (Progress.takeIn { p.note (.told signal) with env := answered.2 }
        answered.1.occurrences).note (.ended (.told signal) (faultOf? answered.1.result)) := rfl
  rw [run, tolds_note, tolds_takeIn]
  simp [Event.told?]

theorem tolds_heed (signal : ScanSignal) (p : Progress σ Sightings) :
    tolds ((heed adapter (.custom hooks) signal).runFrom p).2.journal =
      tolds p.journal ++ if p.own.tells signal then [signal] else [] := by
  rw [heed_eq]
  cases p.own.tells signal with
  | false => exact (List.append_nil _).symm
  | true =>
      have logged : (recordOf adapter signal).told? = none := by cases signal <;> rfl
      simp [tolds_tell, logged]

end Hooks

namespace Course.Runs

variable {course : Course σ} {p q : Progress σ Sightings} {signals : List ScanSignal}
  {result : Except Fault Unit}

theorem own (runs : Runs (heed adapter listener) course p signals result q) :
    q.own = signals.foldl Sightings.after p.own := by
  induction runs with
  | ended => exact Progress.takeIn_own _ _
  | gives tells rest ih =>
      have heeded := congrArg (·.2.own) tells
      simp only [heed_own, Progress.takeIn_own] at heeded
      rw [ih, List.foldl_cons, heeded]

/-- What a scan has collected of a course is settled by the devices that the course found. -/
theorem devices (runs : Runs (heed adapter listener) course p signals result q)
    (fresh : p.own = {}) :
    q.own.devices = (firsts (Sightings.found signals)).filter (·.connectable) := by
  rw [runs.own, fresh, Sightings.devices_foldl_after]
  simp [Sightings.counting]

/-- A listener outside is told of the signals that count, in their order, and of no others. -/
theorem tolds {hooks : ScanSignal → Call σ Unit}
    (runs : Runs (heed adapter (.custom hooks)) course p signals result q) :
    tolds q.journal = BezelStream.tolds p.journal ++ p.own.told signals := by
  induction runs with
  | ended occurrences result env p =>
      rw [tolds_takeIn]
      exact (List.append_nil _).symm
  | gives tells rest ih =>
      have heeded := congrArg (fun ended => BezelStream.tolds ended.2.journal) tells
      have own := congrArg (fun ended => ended.2.own) tells
      simp only [tolds_heed, heed_own, Progress.takeIn_own, tolds_takeIn] at heeded own
      rw [ih, ← heeded, ← own, Sightings.told, List.append_assoc]

end Course.Runs

/-- The start of a scan, with nothing sighted yet. -/
def Progress.scanning (timeout : Binary64) (p : Progress σ ρ) : Progress σ Sightings :=
  ⟨p.env, p.journal ++ [.adapter (.scan timeout)], p.stopRequested, {}⟩

/-- What is written after a scan has ended. -/
inductive Event.EndsScan (timeout : Binary64) : Event → Prop where
  | ended (fault : Option Fault) : EndsScan timeout (.ended (.adapter (.scan timeout)) fault)
  | log (text : String) : EndsScan timeout (.log .info .scan text)

/-- What remains of a scan once its course has ended. -/
theorem scanned_ends (timeout : Binary64) (x : Op σ Sightings Unit) (p : Progress σ Sightings) :
    let scanned : Op σ Sightings (List Device) := do
      Op.called (.adapter (.scan timeout)) x
      let devices := (← Op.own).devices
      Op.log .info .scan ("Scan found " ++ toString devices.length ++ " connectable device(s)")
      return devices
    let ended := x.runFrom (p.note (.adapter (.scan timeout)))
    (scanned.runFrom p).1 = ended.1.map (fun _ => ended.2.own.devices) ∧
      (scanned.runFrom p).2.Since (Event.EndsScan timeout) ended.2.journal := by
  intro scanned ended
  have closed : (ended.2.note (.ended (.adapter (.scan timeout)) (faultOf? ended.1))).Since
      (Event.EndsScan timeout) ended.2.journal := .note (.ended _) _
  have run : (Op.called (.adapter (.scan timeout)) x).runFrom p =
      (ended.1, ended.2.note (.ended (.adapter (.scan timeout)) (faultOf? ended.1))) := rfl
  simp only [scanned, Op.runFrom_bind, run]
  clear_value ended
  rcases ended with ⟨f | _, q⟩
  · exact ⟨rfl, closed⟩
  · exact ⟨rfl, closed.trans (.note (.log _) _)⟩

/-- A scan follows the course of the adapter, ends as that does, and gives the first sightings
    that accept connections. -/
theorem scan_gives (adapter : Adapter σ) (timeout : Binary64) (listener : Listener σ)
    (p : Progress σ ρ) :
    ∃ signals ending r,
      Course.Runs (heed adapter.name listener) (adapter.scan timeout p.env) (p.scanning timeout)
        signals ending r ∧
      ((scan adapter timeout listener).runFrom p).1 =
        ending.map (fun _ => (firsts (Sightings.found signals)).filter (·.connectable)) ∧
      ((scan adapter timeout listener).runFrom p).2.Since (Event.EndsScan timeout) r.journal := by
  let course := (adapter.scan timeout p.env).follow (heed adapter.name listener)
  obtain ⟨signals, runs⟩ : ∃ signals, Course.Runs (heed adapter.name listener)
      (adapter.scan timeout p.env) (p.scanning timeout) signals
      (course.runFrom (p.scanning timeout)).1 (course.runFrom (p.scanning timeout)).2 :=
    Course.runs_follow _ _
  refine ⟨signals, _, _, runs, ?_⟩
  rw [← runs.devices rfl]
  exact scanned_ends timeout course ⟨p.env, p.journal, p.stopRequested, {}⟩

end BezelStream
