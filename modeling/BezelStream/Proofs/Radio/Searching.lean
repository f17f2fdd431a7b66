import BezelStream.Proofs.Radio.Air
import BezelStream.Proofs.Radio.Failing

/-! # Scans on the air

A scan starts its scanner and stops it, and nothing else of it is on the air. It gives devices
only if both went well.
-/

namespace BezelStream

open Radio (Machine Line)

variable {τ ρ α β : Type}

/-- What is on the air of a scan that went well. -/
def searched : List Event :=
  dialled .startScan none ++ dialled .stopScan none

/-- What is on the air of a scan. -/
inductive Searches : List Event → Prop where
  | unstarted (f : Fault) : Searches (dialled .startScan (some f))
  /-- The listener could not be told that the scanner was started. -/
  | unheeded : Searches (dialled .startScan none)
  | unstopped (f : Fault) : Searches (dialled .startScan none ++ dialled .stopScan (some f))
  | through : Searches searched

/-- From a point of a run, an operation searches for devices, and gives nothing unless that
    went well. -/
structure Op.Searches (x : Op (Machine τ) ρ α) (p : Progress (Machine τ) ρ) : Prop where
  line : (x.runFrom p).2.env.line = p.env.line
  hears : ∃ air, p.Hears [] air (x.runFrom p).2 ∧ BezelStream.Searches air ∧
    ∀ a, (x.runFrom p).1 = .ok a → air = searched

theorem Op.Searches.bind {x : Op (Machine τ) ρ α} {next : α → Op (Machine τ) ρ β}
    {p : Progress (Machine τ) ρ} (searches : x.Searches p) (rest : ∀ a, (next a).Apart) :
    (x >>= next).Searches p := by
  obtain ⟨line, air, hears, shape, given⟩ := searches
  constructor
  all_goals
    rw [runFrom_bind]
    generalize x.runFrom p = ended at line hears given ⊢
    rcases ended with ⟨f | a, q⟩
  · exact line
  · exact (rest a q).line.trans line
  · exact ⟨air, hears, shape, nofun⟩
  · exact ⟨air, hears.apart (rest a q), shape, fun _ _ => given a rfl⟩

theorem Op.Searches.called {event : Event} {x : Op (Machine τ) ρ α} {p : Progress (Machine τ) ρ}
    (searches : x.Searches (p.note event)) (off : event.OffAir)
    (ends : ∀ fault, (Event.ended event fault).OffAir) : (Op.called event x).Searches p := by
  obtain ⟨line, air, hears, shape, given⟩ := searches
  have begins : p.Apart (p.note event) := .note off p
  exact ⟨line, air, (begins.hears hears).apart (.note (ends _) _), shape, given⟩

theorem Op.Searches.within {ρ' : Type} {start : ρ'} {x : Op (Machine τ) ρ' α}
    {p : Progress (Machine τ) ρ}
    (searches : x.Searches ⟨p.env, p.journal, p.stopRequested, start⟩) :
    (Op.within start x).Searches p := by
  obtain ⟨line, air, hears, shape, given⟩ := searches
  exact ⟨line, air, ⟨hears.exchanges, hears.aired⟩, shape, given⟩

/-! ## Courses apart from the radio -/

theorem Progress.takeIn_hears (p : Progress (Machine τ) ρ) (occurrences : List Occurrence)
    {m : Machine τ} (same : m.line = p.env.line) :
    (Progress.takeIn { p with env := m } occurrences).env.line = p.env.line ∧
      p.Hears [] (airedBy occurrences) (Progress.takeIn { p with env := m } occurrences) := by
  obtain ⟨line, hears⟩ := Progress.takeAll_hears (fun _ p => .refl p) { p with env := m } occurrences
  exact ⟨line.trans same, hears.exchanges, hears.aired⟩

/-- A course that leaves the line as it is, and of which nothing is on the air. -/
inductive Course.Apart (line : Line) : Course (Machine τ) → Prop where
  | ended {occurrences : List Occurrence} {m : Machine τ} (silent : airedBy occurrences = [])
      (same : m.line = line) (result : Except Fault Unit) :
      Apart line (.ended occurrences result m)
  | gives {occurrences : List Occurrence} {m : Machine τ} (silent : airedBy occurrences = [])
      (same : m.line = line) (signal : ScanSignal)
      {next : Except Fault Unit → Machine τ → Course (Machine τ)}
      (rest : ∀ result m, m.line = line → Apart line (next result m)) :
      Apart line (.gives occurrences signal m next)

section

variable {handle : ScanSignal → Op (Machine τ) ρ Unit} (apart : ∀ signal, (handle signal).Apart)

include apart

theorem Course.Apart.follow {course : Course (Machine τ)} {line : Line}
    (keeps : course.Apart line) {p : Progress (Machine τ) ρ} (stands : p.env.line = line) :
    p.Apart ((course.follow handle).runFrom p).2 := by
  induction keeps generalizing p with
  | @ended occurrences m silent same result =>
      obtain ⟨line, hears⟩ := p.takeIn_hears occurrences (same.trans stands.symm)
      rw [silent] at hears
      exact ⟨line, hears⟩
  | @gives occurrences m silent same signal next rest ih =>
      obtain ⟨line, hears⟩ := p.takeIn_hears occurrences (same.trans stands.symm)
      rw [silent] at hears
      have told := apart signal (Progress.takeIn { p with env := m } occurrences)
      have before := Progress.Apart.trans ⟨line, hears⟩ told
      have stood := before.line.trans stands
      exact before.trans (ih _ _ stood stood)

end

namespace Radio

variable {line : Line}

theorem hear_apart {next : List Device → Machine τ → Course (Machine τ)}
    (rest : ∀ unnamed m, m.line = line → (next unnamed m).Apart line) (heard : List Advertisement)
    (unnamed : List Device) (m : Machine τ) (same : m.line = line) :
    (hear next heard unnamed m).Apart line := by
  induction heard generalizing unnamed m with
  | nil => exact rest unnamed m same
  | cons a others ih =>
      cases read : a.device with
      | error flaw =>
          rw [hear_unreadable read]
          exact ih unnamed m same
      | ok device =>
          cases waits : device.waits with
          | true =>
              rw [hear_waiting read waits]
              exact ih _ m same
          | false =>
              rw [hear_reported read waits]
              exact .gives rfl same _ fun _ m same => ih _ m same

theorem meets_apart {next : Machine τ → Course (Machine τ)}
    (rest : ∀ m, m.line = line → (next m).Apart line) (devices : List Device) (m : Machine τ)
    (same : m.line = line) : (Course.meets devices next m).Apart line := by
  induction devices generalizing m with
  | nil => exact rest m same
  | cons device others ih =>
      refine .gives rfl same _ fun result m same => ?_
      cases result with
      | error f => exact .ended rfl same _
      | ok => exact ih m same

theorem conclude_apart (m : Machine τ) (same : m.line = line) : (conclude m).Apart line :=
  .gives rfl same _ fun result _ same => .ended rfl same result

section

variable {handle : ScanSignal → Op (Machine τ) ρ Unit} (apart : ∀ signal, (handle signal).Apart)

include apart

theorem heardOut_apart (heard : List Advertisement) (unnamed : List Device)
    (p : Progress (Machine τ) ρ) : p.Apart (heardOut handle heard unnamed p) :=
  (hear_apart (fun _ _ same => .ended rfl same _) heard unnamed p.env rfl).follow apart rfl

/-- The end of a scan stops the scanner, and ends well only if that did. -/
theorem finish_hears {scanner : Scanner τ} (off : scanner.stop.OffAir) (unnamed : List Device)
    (p : Progress (Machine τ) ρ) :
    let stopped := (scanner.stop p.env.host).1.result
    let ended := ((finish scanner unnamed p.env).follow handle).runFrom p
    ended.2.env.line = p.env.line ∧
      p.Hears [] (dialled .stopScan (faultOf? stopped)) ended.2 ∧
      ∀ f, stopped = .error f → ended.1 = .error f := by
  intro stopped ended
  let dial := onHost .stopScan scanner.stop p.env
  have aired : airedBy dial.1.occurrences = dialled .stopScan (faultOf? stopped) := by
    obtain ⟨occurrences, host, dials, aired⟩ := onHost_dials off .stopScan p.env
    simp only [dial, dials]
    exact aired
  obtain ⟨line, hears⟩ := p.takeIn_hears dial.1.occurrences (m := dial.2) rfl
  rw [aired] at hears
  cases result : stopped with
  | error f =>
      have whole : ended = (.error f, Progress.takeIn { p with env := dial.2 } dial.1.occurrences) := by
        simp only [ended]
        rw [finish_failed result]
        rfl
      rw [whole, ← result]
      exact ⟨line, hears, fun g same => by rw [← same, result]⟩
  | ok =>
      let taken := Progress.takeIn { p with env := dial.2 } dial.1.occurrences
      have reports : taken.Apart ended.2 := by
        simp only [ended]
        rw [finish_stopped result, follow_after dial.2]
        exact (meets_apart conclude_apart unnamed dial.2 rfl).follow apart line
      rw [result] at hears
      exact ⟨reports.line.trans line, hears.apart reports, nofun⟩

/-- Where a scan begins to hear, its scanner was started. -/
theorem begun_hears {scanner : Scanner τ} (off : scanner.start.OffAir)
    {p : Progress (Machine τ) ρ} (starts : (scanner.start p.env.host).1.result = .ok ()) :
    (begun handle scanner p).env.line = p.env.line ∧
      p.Hears [] (dialled .startScan none) (begun handle scanner p) := by
  let dial := onHost .startScan scanner.start p.env
  obtain ⟨occurrences, host, dials, aired⟩ := onHost_dials off .startScan p.env
  obtain ⟨line, hears⟩ := p.takeIn_hears dial.1.occurrences (m := dial.2) rfl
  have told := apart .started (Progress.takeIn { p with env := dial.2 } dial.1.occurrences)
  have silent : airedBy dial.1.occurrences = dialled .startScan none := by
    simp only [dial, dials]
    rw [aired, starts]
    rfl
  rw [silent] at hears
  exact ⟨told.line.trans line, hears.apart told⟩

/-- The course of a scan by radio searches, whatever the listener does apart from the radio. -/
theorem course_searches {scanner : Scanner τ} (off : scanner.Each Call.OffAir) (adapter : String)
    (timeout : Binary64) (p : Progress (Machine τ) ρ) :
    ((course scanner adapter timeout p.env).follow handle).Searches p := by
  cases started : (scanner.start p.env.host).1.result with
  | error f =>
      let dial := onHost .startScan scanner.start p.env
      obtain ⟨line, hears⟩ := p.takeIn_hears dial.1.occurrences (m := dial.2) rfl
      obtain ⟨occurrences, host, dials, aired⟩ := onHost_dials off.start .startScan p.env
      have silent : airedBy dial.1.occurrences = dialled .startScan (some f) := by
        simp only [dial, dials]
        rw [aired, started]
        rfl
      rw [silent] at hears
      rw [course_failed adapter timeout started]
      exact ⟨line, _, hears, .unstarted f, nofun⟩
  | ok =>
      obtain ⟨begins, hears⟩ := begun_hears apart off.start started
      let ready := begun handle scanner p
      let heard := scanner.advertisements timeout ready.env.host
      let hearing : Progress (Machine τ) ρ :=
        { ready with env := { ready.env with host := heard.2 } }
      have out : ready.Apart (stoppingAt handle scanner timeout p) := by
        have ready_hearing : ready.Apart hearing := ⟨rfl, .of_journal rfl⟩
        exact ready_hearing.trans (heardOut_apart apart heard.1 [] hearing)
      obtain ⟨unnamed, whole⟩ := follow_course handle adapter timeout started
      cases heeded : heeding handle scanner p with
      | error f =>
          rw [heeded] at whole
          constructor <;> rw [whole]
          · exact out.line.trans begins
          · exact ⟨_, hears.apart out, .unheeded, nofun⟩
      | ok =>
          rw [heeded] at whole
          obtain ⟨line, stops, failed⟩ := finish_hears apart off.stop unnamed
            (stoppingAt handle scanner timeout p)
          constructor <;> rw [whole]
          · exact line.trans (out.line.trans begins)
          · have both := (hears.apart out).trans stops
            refine ⟨_, both, ?_, ?_⟩
            · cases (scanner.stop (stoppingAt handle scanner timeout p).env.host).1.result with
              | error f => exact .unstopped f
              | ok => exact .through
            · intro a ended
              cases stopped : (scanner.stop (stoppingAt handle scanner timeout p).env.host).1.result with
              | error f =>
                  simp only [failed f stopped] at ended
                  cases ended
              | ok => rfl

end

end Radio

end BezelStream
