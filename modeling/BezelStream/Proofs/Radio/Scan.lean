import BezelStream.Proofs.Radio.Hearing
import BezelStream.Proofs.Scan.Collecting
import BezelStream.Radio.Host

/-! # What a scan by radio gives

The course of a scan by radio is followed part by part: hearing, stopping, and reporting what
was kept back. A scan in which nothing fails gives one device for each address whose deciding
advertisement accepts connections, those with a name first.
-/

namespace BezelStream.Radio

open Course (Runs)

variable {τ ρ : Type} {handle : ScanSignal → Op (Machine τ) ρ Unit}
  {signals : List ScanSignal} {result : Except Fault Unit}

/-- A course that begins where a progress stands can run, gives these signals, and ends so. -/
def GivesSignals {σ : Type} (handle : ScanSignal → Op σ ρ Unit) (course : σ → Course σ)
    (p : Progress σ ρ) (signals : List ScanSignal) (result : Except Fault Unit) : Prop :=
  ∃ q, Runs handle (course p.env) p signals result q

/-- A signal is given first, and then what follows once it has been told. -/
theorem gives_told {σ : Type} {handle : ScanSignal → Op σ ρ Unit} {signal : ScanSignal}
    {next : Except Fault Unit → σ → Course σ} {p : Progress σ ρ}
    (rest : GivesSignals handle (next ((handle signal).runFrom p).1) ((handle signal).runFrom p).2
      signals result) :
    GivesSignals handle (fun env => .gives [] signal env next) p (signal :: signals) result := by
  obtain ⟨q, runs⟩ := rest
  exact ⟨q, .gives rfl runs⟩

theorem hear_gives {next : List Device → Machine τ → Course (Machine τ)}
    {heard : List Advertisement} {unnamed : List Device}
    (rest : ∀ q, GivesSignals handle (next (kept (known heard) unnamed)) q signals result)
    (p : Progress (Machine τ) ρ) :
    GivesSignals handle (hear next heard unnamed) p
      ((reported (known heard)).map .found ++ signals) result := by
  induction heard generalizing unnamed p with
  | nil => exact rest p
  | cons a others ih =>
      cases read : a.device with
      | error flaw =>
          rw [hear_unreadable read, known_unreadable read]
          rw [known_unreadable read] at rest
          exact ih rest p
      | ok device =>
          rw [known_readable read, kept] at rest
          rw [known_readable read]
          cases waits : device.waits with
          | true =>
              have unreported : reported (device :: known others) = reported (known others) := by
                simp [reported, waits]
              rw [waits, if_pos rfl] at rest
              rw [hear_waiting read waits, unreported]
              exact ih rest p
          | false =>
              have reports : reported (device :: known others) =
                  device :: reported (known others) := by
                simp [reported, waits]
              rw [waits, if_neg Bool.false_ne_true] at rest
              rw [hear_reported read waits, reports]
              apply gives_told
              exact ih rest _

theorem meets_gives {σ : Type} {handle : ScanSignal → Op σ ρ Unit}
    (fine : ∀ signal p, ((handle signal).runFrom p).1 = .ok ()) {devices : List Device}
    {next : σ → Course σ} (rest : ∀ q, GivesSignals handle next q signals result) (p : Progress σ ρ) :
    GivesSignals handle (Course.meets devices next) p (devices.map .found ++ signals) result := by
  induction devices generalizing p with
  | nil => exact rest p
  | cons device others ih =>
      apply gives_told
      rw [fine]
      exact ih _

theorem conclude_gives (fine : ∀ signal p, ((handle signal).runFrom p).1 = .ok ())
    (p : Progress (Machine τ) ρ) : GivesSignals handle conclude p [.stopped] (.ok ()) := by
  apply gives_told
  rw [fine]
  exact ⟨_, .ended [] (.ok ()) _ _⟩

/-- What happened before a course may be taken in before it is followed. -/
theorem runs_after {course : Course (Machine τ)} {p q : Progress (Machine τ) ρ} {env : Machine τ}
    {first : List Occurrence}
    (runs : Runs handle course (Progress.takeIn { p with env } first) signals result q) :
    Runs handle (finish.after first course) p signals result q := by
  have taken (later : Machine τ) (occurrences : List Occurrence) :
      Progress.takeIn { Progress.takeIn { p with env } first with env := later } occurrences =
        Progress.takeIn { p with env := later } (first ++ occurrences) := by
    rw [Progress.takeIn_append, Progress.takeIn_env p first env, Progress.takeIn_env p first later]
  cases course with
  | ended occurrences result later =>
      cases runs with
      | ended =>
          rw [taken]
          exact .ended (first ++ occurrences) _ later p
  | gives occurrences signal later next =>
      cases runs with
      | gives tells rest =>
          rw [taken] at tells
          exact .gives tells rest

theorem follow_after (env : Machine τ) (first : List Occurrence) (course : Course (Machine τ))
    (p : Progress (Machine τ) ρ) :
    ((finish.after first course).follow handle).runFrom p =
      (course.follow handle).runFrom (Progress.takeIn { p with env } first) := by
  obtain ⟨signals, runs⟩ := course.runs_follow (Progress.takeIn { p with env } first)
  exact (runs_after runs).follow

theorem finish_failed {scanner : Scanner τ} {m : Machine τ} {f : Fault}
    (fails : (scanner.stop m.host).1.result = .error f) (unnamed : List Device) :
    let stopped := onHost .stopScan scanner.stop m
    finish scanner unnamed m = .ended stopped.1.occurrences (.error f) stopped.2 := by
  intro stopped
  have fault : stopped.1.result = .error f := fails
  simp only [finish]
  rw [fault]

theorem finish_stopped {scanner : Scanner τ} {m : Machine τ}
    (stops : (scanner.stop m.host).1.result = .ok ()) (unnamed : List Device) :
    let stopped := onHost .stopScan scanner.stop m
    finish scanner unnamed m =
      finish.after stopped.1.occurrences (Course.meets unnamed conclude stopped.2) := by
  intro stopped
  have fault : stopped.1.result = .ok () := stops
  simp only [finish]
  rw [fault]

theorem finish_gives (fine : ∀ signal p, ((handle signal).runFrom p).1 = .ok ())
    {scanner : Scanner τ} (stops : ∀ host, (scanner.stop host).1.result = .ok ())
    (unnamed : List Device) (p : Progress (Machine τ) ρ) :
    GivesSignals handle (finish scanner unnamed) p (unnamed.map .found ++ [.stopped]) (.ok ()) := by
  let stopped := onHost .stopScan scanner.stop p.env
  let taken := Progress.takeIn { p with env := stopped.2 } stopped.1.occurrences
  have met : GivesSignals handle (Course.meets unnamed conclude) taken
      (unnamed.map .found ++ [.stopped]) (.ok ()) := meets_gives fine (conclude_gives fine) taken
  have env : taken.env = stopped.2 :=
    congrArg Progress.env (Progress.takeIn_env p stopped.1.occurrences stopped.2)
  obtain ⟨q, runs⟩ := met
  rw [env] at runs
  refine ⟨q, ?_⟩
  rw [finish_stopped (stops p.env.host)]
  exact runs_after runs

/-- Wrapping faults makes no difference to a course that ends without one. -/
theorem runs_mapFault {course : Course (Machine τ)} {p q : Progress (Machine τ) ρ}
    (wrap : Fault → Fault) (runs : Runs handle course p signals (.ok ()) q) :
    Runs handle (mapFault wrap course) p signals (.ok ()) q := by
  generalize ending : (.ok () : Except Fault Unit) = result at runs
  induction runs with
  | ended occurrences result env p =>
      cases ending
      exact .ended occurrences (.ok ()) env p
  | gives tells _ ih => exact .gives tells (ih ending)

theorem follow_mapFault (wrap : Fault → Fault) (course : Course (Machine τ))
    (p : Progress (Machine τ) ρ) :
    ((mapFault wrap course).follow handle).runFrom p =
      (((course.follow handle).runFrom p).1.mapError wrap,
        ((course.follow handle).runFrom p).2) := by
  induction course generalizing p with
  | ended => rfl
  | gives occurrences signal env next ih =>
      rw [mapFault, Course.follow_gives, Course.follow_gives]
      exact ih _ _ _

/-- Where a scan begins to hear: the scanner was started, and its start was told. -/
def begun (handle : ScanSignal → Op (Machine τ) ρ Unit) (scanner : Scanner τ)
    (p : Progress (Machine τ) ρ) : Progress (Machine τ) ρ :=
  let started := onHost .startScan scanner.start p.env
  ((handle .started).runFrom
    (Progress.takeIn { p with env := started.2 } started.1.occurrences)).2

/-- The devices that a scan makes known. -/
def heardBy (handle : ScanSignal → Op (Machine τ) ρ Unit) (scanner : Scanner τ)
    (timeout : Binary64) (p : Progress (Machine τ) ρ) : List Device :=
  known (scanner.advertisements timeout (begun handle scanner p).env.host).1

theorem course_failed {scanner : Scanner τ} (adapter : String) (timeout : Binary64)
    {m : Machine τ} {f : Fault} (fails : (scanner.start m.host).1.result = .error f) :
    let started := onHost .startScan scanner.start m
    course scanner adapter timeout m =
      mapFault (scanFault adapter) (.ended started.1.occurrences (.error f) started.2) := by
  intro started
  have fault : started.1.result = .error f := fails
  simp only [course]
  rw [fault]

/-- The course of a scan whose scanner starts. -/
theorem course_started {scanner : Scanner τ} (adapter : String) (timeout : Binary64)
    {m : Machine τ} (starts : (scanner.start m.host).1.result = .ok ()) :
    course scanner adapter timeout m =
      let started := onHost .startScan scanner.start m
      mapFault (scanFault adapter) <|
        .gives started.1.occurrences .started started.2 fun result m =>
          let heard := scanner.advertisements timeout m.host
          hear (fun unnamed m =>
            match result with
            | .error f => .ended [] (.error f) m
            | .ok () => finish scanner unnamed m) heard.1 [] { m with host := heard.2 } := by
  have fault : (onHost .startScan scanner.start m).1.result = .ok () := starts
  unfold course
  generalize onHost .startScan scanner.start m = started at fault ⊢
  obtain ⟨⟨occurrences, result⟩, m⟩ := started
  cases fault
  rfl

theorem course_gives (fine : ∀ signal p, ((handle signal).runFrom p).1 = .ok ())
    {scanner : Scanner τ} (adapter : String) (timeout : Binary64) {p : Progress (Machine τ) ρ}
    (starts : (scanner.start p.env.host).1.result = .ok ())
    (stops : ∀ host, (scanner.stop host).1.result = .ok ()) :
    GivesSignals handle (course scanner adapter timeout) p
      (.started :: (reported (heardBy handle scanner timeout p) ++
        kept (heardBy handle scanner timeout p) []).map .found ++ [.stopped]) (.ok ()) := by
  let started := onHost .startScan scanner.start p.env
  let ready := begun handle scanner p
  let heard := scanner.advertisements timeout ready.env.host
  have tells : (handle .started).runFrom
      (Progress.takeIn { p with env := started.2 } started.1.occurrences) = (.ok (), ready) :=
    Prod.ext (fine _ _) rfl
  have hears : GivesSignals handle (hear (finish scanner) heard.1 [])
      { ready with env := { ready.env with host := heard.2 } }
      ((reported (known heard.1)).map .found ++
        ((kept (known heard.1) []).map .found ++ [.stopped])) (.ok ()) :=
    hear_gives (finish_gives fine stops _) _
  obtain ⟨q, runs⟩ := hears
  rw [← List.append_assoc, ← List.map_append] at runs
  refine ⟨q, ?_⟩
  rw [course_started adapter timeout starts]
  exact runs_mapFault _ (.gives tells runs.of_env)

/-- A scan by radio in which nothing fails gives one device for each address whose deciding
    advertisement accepts connections, and tells the listener of its start, of each of these
    devices once and in their order, and of its end. Addresses that were ever named come first,
    in the order of their first named advertisements, and then the others in the order of their
    first ones. -/
theorem scan_gives_deciding (host : Host τ) (connectTimeout : Binary64) (chosen : Chosen)
    (timeout : Binary64) (hooks : ScanSignal → Call (Machine τ) Unit) (p : Progress (Machine τ) ρ)
    (starts : (host.scanner.start p.env.host).1.result = .ok ())
    (stops : ∀ env, (host.scanner.stop env).1.result = .ok ())
    (fine : ∀ signal m, (hooks signal m).1.result = .ok ()) :
    let run := (scan (host.working connectTimeout chosen) timeout (.custom hooks)).runFrom p
    let begun := (hooks .started (onHost .startScan host.scanner.start p.env).2).2
    let heard := known (host.scanner.advertisements timeout begun.host).1
    ∃ devices, run.1 = .ok devices ∧
      devices = (firsts (heard.filter Device.isNamed) ++
        firsts (heard.filter (neverNamed heard))).filter (·.connectable) ∧
      (∀ device, device ∈ devices ↔ device.address ≠ "" ∧ device.connectable = true ∧
        deciding? heard device.address = some device) ∧
      (devices.map Device.address).Nodup ∧
      tolds run.2.journal = tolds p.journal ++ .started :: devices.map .found ++ [.stopped] := by
  intro run begun heard
  let handle := heed chosen.name (.custom hooks)
  let start : Progress (Machine τ) Sightings := p.scanning timeout
  obtain ⟨signals, ending, r, runs, gives, since⟩ :=
    scan_gives (host.working connectTimeout chosen) timeout (.custom hooks) p
  have same : heardBy handle host.scanner timeout start = heard := by
    let started := onHost .startScan host.scanner.start p.env
    have ready : (Radio.begun handle host.scanner start).env = begun := by
      let taken := Progress.takeIn { start with env := started.2 } started.1.occurrences
      have env : taken.env = started.2 := congrArg Progress.env (Progress.takeIn_env start _ _)
      have tells : ((handle .started).runFrom taken).2.env = (hooks .started taken.env).2 :=
        heed_env .started rfl
      rw [env] at tells
      exact tells
    rw [heardBy, ready]
  obtain ⟨q, expected⟩ : GivesSignals handle (course host.scanner chosen.name timeout) start _ _ :=
    course_gives (heed_ok fine) chosen.name timeout starts stops
  obtain ⟨rfl, rfl, rfl⟩ := runs.unique expected
  rw [same] at gives expected
  rw [Sightings.found_whole] at gives
  have told : tolds run.2.journal = tolds r.journal := by
    apply Progress.Since.filterMap (since.imp _)
    intro event ends
    cases ends <;> rfl
  refine ⟨_, gives, ?_, ?_, ?_, ?_⟩
  · rw [firsts_reported]
  · intro device
    rw [List.mem_filter, firsts_reported, mem_deciding]
    grind
  · exact (nodup_firsts _).sublist (List.filter_sublist.map _)
  · have begins : tolds start.journal = tolds p.journal := by
      simp [start, Progress.scanning, tolds, Event.told?]
    have tells := Sightings.told_whole (reported heard ++ kept heard [])
    rw [told, expected.tolds, begins, List.append_assoc]
    exact congrArg _ tells

/-- Advertisements in which names come late, are lost again, or never come. -/
def crowdedAir : List Advertisement :=
  let refusing : List PlatformItem := [.dictionary [(PlatformItem.connectableKey,
    .scalar (.bool false))]]
  [⟨"CC", "", "", []⟩, ⟨"AA", "", "", refusing⟩, ⟨"", "Ghost", "", []⟩,
    ⟨"BB", "", "", []⟩, ⟨"AA", "Panel", "", []⟩, ⟨"AA", "", "", refusing⟩,
    ⟨"BB", "", "Knob", refusing⟩, ⟨"BB", "Knob", "", []⟩, ⟨"CC", "", "", refusing⟩]

/-- A host that hears the crowded air, and can do nothing else. -/
def crowdedHost : Host Unit where
  platform := "darwin"
  list := .pure none
  scanner := ⟨.pure (), fun _ _ => (crowdedAir, ()), .pure ()⟩
  central := ⟨fun _ => .pure (), fun _ => .pure (), fun _ => .pure [], fun _ _ => .pure (),
    fun _ _ => .pure ()⟩

/-- Of three devices with an address one has a name that counts, one is refused by the
    advertisement with its name, and one never had a name. -/
theorem scan_gives_deciding_crowded :
    let run := (scan (crowdedHost.working (.zero false) defaultAdapter) (.zero false)
      (.custom fun _ => .pure ())).runFrom (⟨⟨(), none, 0⟩, [], false, ()⟩ : Progress _ Unit)
    run.1 = .ok [⟨"Panel", "AA", true, true⟩, ⟨"", "CC", true, true⟩] ∧
      tolds run.2.journal = [.started, .found ⟨"Panel", "AA", true, true⟩,
        .found ⟨"", "CC", true, true⟩, .stopped] := by
  obtain ⟨devices, gives, shape, -, -, tolds⟩ := scan_gives_deciding crowdedHost (.zero false)
    defaultAdapter (.zero false) (fun _ => .pure ()) (⟨⟨(), none, 0⟩, [], false, ()⟩ : Progress _ Unit)
    rfl (fun _ => rfl) (fun _ _ => rfl)
  have those : devices = [⟨"Panel", "AA", true, true⟩, ⟨"", "CC", true, true⟩] := by
    rw [shape]
    decide
  rw [those] at gives tolds
  exact ⟨gives, tolds⟩

end BezelStream.Radio
