import BezelStream.Proofs.Radio.Scan

/-! # When the scanner is stopped

A scan stops the scanner once if it was started and the listener took that well, and never
if the scanner did not start, whatever is heard and however the listener takes it later. A
listener that fails on being told of the start leaves the scanner running.
-/

namespace BezelStream

def Event.radio? : Event → Option RadioCall
  | .radio call => some call
  | _ => none

/-- The calls of the radio, in order. -/
def radioCalls (journal : List Event) : List RadioCall :=
  journal.filterMap Event.radio?

def Occurrence.radio? : Occurrence → Option RadioCall
  | .noted (.radio call) => some call
  | _ => none

/-- A call during which nothing is remarked on the radio. -/
def Call.OffRadio {σ α : Type} (call : Call σ α) : Prop :=
  ∀ env, (call env).1.occurrences.filterMap Occurrence.radio? = []

/-- An operation that makes no calls of the radio. -/
abbrev Op.OffRadio {σ ρ α : Type} (x : Op σ ρ α) : Prop :=
  x.Writes fun event => event.radio? = none

variable {σ ρ τ : Type}

@[simp] theorem radioCalls_note (event : Event) (p : Progress σ ρ) :
    radioCalls (p.note event).journal = radioCalls p.journal ++ event.radio?.toList := by
  simp only [radioCalls, Progress.note, List.filterMap_append]
  cases found : event.radio? <;> simp [found]

theorem radioCalls_take (p : Progress σ ρ) (occurrence : Occurrence) :
    radioCalls (p.take (fun _ q => q) occurrence).journal =
      radioCalls p.journal ++ occurrence.radio?.toList := by
  cases occurrence with
  | frame frame => exact (List.append_nil _).symm
  | stopRequest => exact radioCalls_note .stopRequested p
  | noted remark =>
      have same : remark.event.radio? = (Occurrence.noted remark).radio? := by cases remark <;> rfl
      rw [← same]
      exact radioCalls_note remark.event p

theorem radioCalls_takeIn (p : Progress σ ρ) (occurrences : List Occurrence) :
    radioCalls (p.takeIn occurrences).journal =
      radioCalls p.journal ++ occurrences.filterMap Occurrence.radio? := by
  induction occurrences generalizing p with
  | nil => exact (List.append_nil _).symm
  | cons occurrence rest ih =>
      have both := ih (p.take (fun _ q => q) occurrence)
      rw [radioCalls_take, List.append_assoc] at both
      rw [List.filterMap_cons]
      cases found : occurrence.radio? with
      | none =>
          rw [found] at both
          exact both
      | some call =>
          rw [found] at both
          exact both

/-- A call of the radio's host is one call of the radio if nothing else is remarked meanwhile. -/
theorem radioCalls_onHost {α : Type} {call : Call τ α} (off : call.OffRadio) (event : RadioCall)
    (m : Radio.Machine τ) :
    (Radio.onHost event call m).1.occurrences.filterMap Occurrence.radio? = [event] := by
  have inside := off m.host
  have ended : (Occurrence.noted (.ended (.radio event) (faultOf? (call m.host).1.result))).radio? =
      none := rfl
  simp [Radio.onHost, Call.remarked, Occurrence.radio?, inside]

namespace Radio

variable {hooks : ScanSignal → Op (Machine τ) ρ Unit} {calls : List RadioCall}

/-- From wherever it is followed, a course makes these calls of the radio. -/
def Dials (hooks : ScanSignal → Op (Machine τ) ρ Unit) (course : Machine τ → Course (Machine τ))
    (calls : List RadioCall) : Prop :=
  ∀ p, radioCalls (((course p.env).follow hooks).runFrom p).2.journal =
    radioCalls p.journal ++ calls

variable (off : ∀ signal, (hooks signal).OffRadio)

include off

theorem dials_told {signal : ScanSignal}
    {next : Except Fault Unit → Machine τ → Course (Machine τ)}
    (rest : ∀ result, Dials hooks (next result) calls) :
    Dials hooks (fun m => .gives [] signal m next) calls := by
  intro p
  have told : radioCalls ((hooks signal).runFrom p).2.journal = radioCalls p.journal :=
    (off signal p).filterMap
  rw [Course.follow_gives, ← told]
  exact rest _ _

/-- However the reports are taken, hearing goes on. -/
theorem dials_hear {next : List Device → Machine τ → Course (Machine τ)}
    (rest : ∀ unnamed, Dials hooks (next unnamed) calls) (heard : List Advertisement)
    (unnamed : List Device) : Dials hooks (hear next heard unnamed) calls := by
  induction heard generalizing unnamed with
  | nil => exact rest unnamed
  | cons a others ih =>
      cases read : a.device with
      | error flaw =>
          rw [hear_unreadable read]
          exact ih unnamed
      | ok device =>
          cases waits : device.waits with
          | true =>
              rw [hear_waiting read waits]
              exact ih _
          | false =>
              rw [hear_reported read waits]
              exact dials_told off fun _ => ih _

theorem dials_meets {next : Machine τ → Course (Machine τ)} (rest : Dials hooks next [])
    (devices : List Device) : Dials hooks (Course.meets devices next) [] := by
  induction devices with
  | nil => exact rest
  | cons device others ih =>
      apply dials_told off
      intro result
      cases result with
      | error f => exact fun p => (List.append_nil _).symm
      | ok => exact ih

theorem dials_conclude : Dials hooks conclude [] := by
  apply dials_told off
  exact fun result p => (List.append_nil _).symm

theorem dials_finish {scanner : Scanner τ} (stops : scanner.stop.OffRadio) (unnamed : List Device) :
    Dials hooks (finish scanner unnamed) [.stopScan] := by
  intro p
  let stopped := onHost .stopScan scanner.stop p.env
  let taken := Progress.takeIn { p with env := stopped.2 } stopped.1.occurrences
  have stopping : radioCalls taken.journal = radioCalls p.journal ++ [.stopScan] := by
    rw [radioCalls_takeIn, radioCalls_onHost stops]
  have env : taken.env = stopped.2 := congrArg Progress.env (Progress.takeIn_env p _ _)
  cases ended : (scanner.stop p.env.host).1.result with
  | error f =>
      rw [finish_failed ended]
      exact stopping
  | ok =>
      have reports := dials_meets off (dials_conclude off) unnamed taken
      rw [env, List.append_nil] at reports
      rw [finish_stopped ended, follow_after stopped.2, reports, stopping]

omit off in
/-- A scan whose scanner starts goes on as its listener hears the scanner's reports. -/
theorem course_hears {scanner : Scanner τ} (adapter : String) (timeout : Binary64)
    {p : Progress (Machine τ) ρ} (starts : (scanner.start p.env.host).1.result = .ok ()) :
    let begun := (hooks .started).runFrom
      ((Op.perform (onHost .startScan scanner.start)).runFrom p).2
    let heard := scanner.advertisements timeout begun.2.env.host
    let ready := { begun.2 with env := { begun.2.env with host := heard.2 } }
    (((course scanner adapter timeout p.env).follow hooks).runFrom p).2 =
      (((hear (fun unnamed m =>
        match begun.1 with
        | .error f => .ended [] (.error f) m
        | .ok () => finish scanner unnamed m) heard.1 [] ready.env).follow hooks).runFrom ready).2 := by
  intro begun heard ready
  rw [course_started adapter timeout starts, follow_mapFault]
  refine Eq.trans ?_ (congrArg Prod.snd (Course.follow_of_env _ begun.2 ready.env).symm)
  rfl

/-- A scan whose scanner does not start calls the radio no more. One whose scanner starts calls
    it once more, to stop, if the listener could be told of the start, and otherwise not. -/
theorem scan_stops_once_begun {scanner : Scanner τ} (starts : scanner.start.OffRadio)
    (stops : scanner.stop.OffRadio) (adapter : String) (timeout : Binary64)
    (p : Progress (Machine τ) ρ) :
    let started := (Op.perform (onHost .startScan scanner.start)).runFrom p
    let begun := (hooks .started).runFrom started.2
    let q := (((course scanner adapter timeout p.env).follow hooks).runFrom p).2
    radioCalls q.journal = radioCalls p.journal ++
      match started.1, begun.1 with
      | .ok (), .ok () => [.startScan, .stopScan]
      | _, _ => [.startScan] := by
  intro started begun q
  have starting : radioCalls started.2.journal = radioCalls p.journal ++ [.startScan] := by
    have taken := radioCalls_takeIn { p with env := (onHost .startScan scanner.start p.env).2 }
      (onHost .startScan scanner.start p.env).1.occurrences
    rw [radioCalls_onHost starts] at taken
    exact taken
  have told : radioCalls begun.2.journal = radioCalls started.2.journal :=
    (off .started started.2).filterMap
  cases ended : (scanner.start p.env.host).1.result with
  | error f =>
      have failed : started.1 = .error f := ended
      have last : q = started.2 := by
        simp only [q]
        rw [course_failed adapter timeout ended, follow_mapFault]
        rfl
      rw [last, failed, starting]
  | ok =>
      have begins : started.1 = .ok () := ended
      let heard := scanner.advertisements timeout begun.2.env.host
      rw [show q = _ from course_hears adapter timeout ended, begins]
      let ready : Progress (Machine τ) ρ :=
        { begun.2 with env := { begun.2.env with host := heard.2 } }
      cases begun.1 with
      | error f =>
          have gives : Dials hooks (hear (fun _ m => .ended [] (.error f) m) heard.1 []) [] :=
            dials_hear off (fun _ _ => (List.append_nil _).symm) heard.1 []
          have heeded := gives ready
          rw [List.append_nil] at heeded
          exact heeded.trans (told.trans starting)
      | ok =>
          have heeded := dials_hear off (dials_finish off stops) heard.1 [] ready
          have before : radioCalls ready.journal = radioCalls p.journal ++ [.startScan] :=
            told.trans starting
          rw [before, List.append_assoc] at heeded
          exact heeded

omit off

/-- A listener that fails on one kind of signal. -/
def failingOn (fails : ScanSignal → Bool) (signal : ScanSignal) : Op (Machine Unit) Unit Unit :=
  if fails signal then throw (.foreign "RuntimeError" "hook") else pure ()

theorem failingOn_off (fails : ScanSignal → Bool) (signal : ScanSignal) :
    (failingOn fails signal).OffRadio := by
  unfold failingOn
  split
  · exact .throw _
  · exact .pure ()

/-- A scanner is stopped although every device that is reported makes the listener fail. -/
theorem scan_stops_despite_reports :
    let fails : ScanSignal → Bool := (· matches .found _)
    let p : Progress (Machine Unit) Unit := ⟨⟨(), none, 0⟩, [], false, ()⟩
    radioCalls (((course crowdedHost.scanner "hci0" (.zero false) p.env).follow
      (failingOn fails)).runFrom p).2.journal = [.startScan, .stopScan] := by
  intro fails p
  exact scan_stops_once_begun (failingOn_off fails) (fun _ => rfl) (fun _ => rfl) "hci0"
    (.zero false) p

/-- A scanner that was started runs on if the listener fails on being told so. -/
theorem scan_runs_on :
    let p : Progress (Machine Unit) Unit := ⟨⟨(), none, 0⟩, [], false, ()⟩
    ((Op.perform (onHost .startScan crowdedHost.scanner.start)).runFrom p).1 = .ok () ∧
      .stopScan ∉ radioCalls (((course crowdedHost.scanner "hci0" (.zero false) p.env).follow
        (failingOn (· matches .started))).runFrom p).2.journal := by
  exact ⟨rfl, by decide⟩

end Radio

end BezelStream
