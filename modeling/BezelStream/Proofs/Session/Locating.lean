import BezelStream.Proofs.Gatt
import BezelStream.Proofs.Gatt.Listing
import BezelStream.Proofs.Interaction.Writing
import BezelStream.Proofs.Session.Abreast
import BezelStream.Proofs.Session.Failing

/-! # Locating a characteristic

A session locates the first characteristic of the wanted name, and says nothing of it. If there is
none it fails and stands where it stood, and with diagnostics it says before how the table looks.
-/

namespace BezelStream

/-- The text that an event says, to someone outside or in the log of the service. -/
def Event.said? : Event → Option String
  | .notice text => some text
  | .log .info .service text => some text
  | _ => none

/-- The texts that were said, in order. -/
def said (journal : List Event) : List String :=
  journal.filterMap Event.said?

/-- What a notifier that is told these texts makes known of them. -/
def Notifier.shows {σ : Type} : Notifier σ → List String → List String
  | .silent, _ => []
  | .log, texts | .custom _, texts => texts

theorem Notifier.shows_cons {σ : Type} (notifier : Notifier σ) (text : String)
    (rest : List String) :
    notifier.shows (text :: rest) = notifier.shows [text] ++ notifier.shows rest := by
  cases notifier <;> rfl

theorem said_concat (journal : List Event) {event : Event} {text : String}
    (speaks : event.said? = some text) : said (journal ++ [event]) = said journal ++ [text] := by
  simp [said, speaks]

/-- An event that says nothing. -/
abbrev Event.Unsaid (event : Event) : Prop :=
  event.said? = none

theorem unsaid_log (level : Level) {source : LogSource} (text : String)
    (other : source ≠ .service) : (Event.log level source text).Unsaid := by
  cases source with
  | service => exact absurd rfl other
  | _ => cases level <;> rfl

/-- Nobody who answers a call can pass off anything as said by the program. -/
theorem admits_unsaid : Op.Admits Event.Unsaid := by
  intro event aside
  cases aside with
  | stopRequested => rfl
  | remarked remark =>
      cases remark with
      | log level text => exact unsaid_log level text nofun
      | radio | command | printed | ended => rfl
  | log level text other => exact unsaid_log level text other

namespace Session

open Op Progress

variable {σ : Type} {s : Session σ}

theorem performWith_unsaid (call : Call σ Unit) :
    Writes Event.Unsaid (Op.performWith s.receive call) := by
  refine .of_abreast fun journal => (admits_unsaid.alike journal).performWith ?_ call
  have silent {event : Event} (unsaid : event.Unsaid) :
      Notes (One (Since (σ := σ) (ρ := Lifecycle) Event.Unsaid journal)) event :=
    notes_since unsaid journal
  exact s.receive_kept (admits_unsaid.alike journal) (fun _ => silent rfl) (fun _ => silent rfl)
    fun since _ => since

section Telling

variable (tells : s.notifier.Each Call.NeverFails)

include tells

theorem tell_said (text : String) (p : Progress σ Lifecycle) :
    RunEnds (s.tell text) p fun result q => result = .ok () ∧ q.own.standing = p.own.standing ∧
      said q.journal = said p.journal ++ s.notifier.shows [text] := by
  have fine : RunEnds (s.tell text) p fun result _ => result = .ok () := (tell_never tells text).ends p
  have stays : RunEnds (s.tell text) p fun _ q => q.own.standing = p.own.standing :=
    .tell (fun _ stays => stays.standing) fun _ _ stays => stays.standing
  refine ⟨fine, stays, ?_⟩
  unfold Session.tell
  cases s.notifier with
  | silent => exact (List.append_nil _).symm
  | log => exact said_concat _ rfl
  | custom call =>
      have written : Writes Event.Unsaid (Op.performWith s.receive (call text)) :=
        performWith_unsaid (call text)
      have since : ((Op.called (.notice text) _).runFrom p).2.Since _
          (p.journal ++ [.notice text]) :=
        called_since written fun _ => rfl
      exact since.filterMap.trans (said_concat p.journal rfl)

theorem tellAll_said (texts : List String) (p : Progress σ Lifecycle) :
    RunEnds (s.tellAll texts) p fun result q => result = .ok () ∧ q.own.standing = p.own.standing ∧
      said q.journal = said p.journal ++ s.notifier.shows texts := by
  induction texts generalizing p with
  | nil =>
      refine ⟨rfl, rfl, ?_⟩
      cases s.notifier <;> exact (List.append_nil _).symm
  | cons text rest ih =>
      refine .bind ((tell_said tells text p).imp fun result q told => ?_)
      obtain ⟨rfl, standing, first⟩ := told
      refine (ih q).imp fun result r told => ?_
      obtain ⟨fine, still, more⟩ := told
      refine ⟨fine, still.trans standing, ?_⟩
      rw [more, first, List.append_assoc, ← s.notifier.shows_cons]

end Telling

/-- The table has no characteristic of the wanted name. -/
abbrev Lacks (s : Session σ) (table : List Service) : Prop :=
  ∀ service ∈ table, ∀ c ∈ service.characteristics, ¬ Wanted s.characteristic service c

/-- What locating in a table comes to, and what is told of it. -/
inductive Locating (s : Session σ) (table : List Service) (a : Standing) :
    Except Fault (String × String) → List String → Standing → Prop where
  | located (spot : Spot table) (first : spot.First (Wanted s.characteristic)) :
      Locating s table a (.ok (spot.service.uuid, spot.characteristic.uuid)) []
        { a with
          state := .characteristicFound
          target := some (spot.service.uuid, spot.characteristic.uuid) }
  | missed (absent : s.Lacks table) (undiagnosed : s.diagnostics = false) {f : Fault}
      (reported : f.failure? = some .characteristicNotFound) : Locating s table a (.error f) [] a
  | listed (absent : s.Lacks table) (diagnosed : s.diagnostics = true) {lines : List String}
      (lists : Lists table lines) {f : Fault}
      (reported : f.failure? = some .characteristicNotFound) :
      Locating s table a (.error f) ("Discovered services and characteristics:" :: lines) a

theorem Locating.ok_iff {table : List Service} {a b : Standing} {told : List String}
    {result : Except Fault (String × String)} (locating : Locating s table a result told b) :
    (∃ target, result = .ok target) ↔
      ∃ service ∈ table, ∃ c ∈ service.characteristics, Wanted s.characteristic service c := by
  cases locating with
  | located spot first =>
      exact iff_of_true ⟨_, rfl⟩
        ⟨_, spot.mem_service, _, spot.mem_characteristic, first.fits⟩
  | missed absent | listed absent =>
      refine iff_of_false nofun ?_
      rintro ⟨service, member, c, listed, fits⟩
      exact absent service member c listed fits

section

variable (tells : s.notifier.Each Call.NeverFails) (table : List Service)
  {p : Progress σ Lifecycle} (ready : p.own.state = .servicesDiscovered)

include tells ready

theorem locate_said : RunEnds (s.locate table) p fun result q => ∃ told,
    said q.journal = said p.journal ++ s.notifier.shows told ∧
      Locating s table p.own.standing result told q.own.standing := by
  have nothing : said p.journal = said p.journal ++ s.notifier.shows [] := by
    cases s.notifier <;> exact (List.append_nil _).symm
  refine .require_bind (fun other => absurd ready other) fun _ => ?_
  cases found : findCharacteristic? s.characteristic table with
  | some pair =>
      obtain ⟨service, c⟩ := pair
      obtain ⟨spot, first, rfl, rfl⟩ := findCharacteristic_eq_some_iff.mp found
      have unsaid (text : String) : (Event.log .debug .session text).Unsaid := rfl
      have logged (text : String) := Since.note (unsaid text) p
      refine .update_bind (.log_bind (.pure ⟨[], ?_, .located spot first⟩))
      exact (logged _).filterMap.trans nothing
  | none =>
      have absent := findCharacteristic_eq_none_iff.mp found
      cases diagnosed : s.diagnostics with
      | false => exact .bind (.pure (.throw ⟨[], nothing, .missed absent diagnosed rfl⟩))
      | true =>
          let heading : String := "Discovered services and characteristics:"
          refine .bind ((tell_said tells heading p).imp fun result q told => ?_)
          obtain ⟨rfl, standing, headed⟩ := told
          refine .bind ((tellAll_said tells _ q).imp fun result r told => ?_)
          obtain ⟨rfl, still, lines⟩ := told
          refine .throw ⟨heading :: describe table, ?_, ?_⟩
          · rw [lines, headed, List.append_assoc, ← s.notifier.shows_cons]
          · rw [still, standing]
            exact .listed absent diagnosed (describe_lists table) rfl

/-- A session locates the first characteristic of the wanted name, and fails only if there is
    none. It tells nothing but how the table looks then, where diagnostics are wanted. -/
theorem locate_exact :
    let run := (s.locate table).runFrom p
    ((∃ target, run.1 = .ok target) ↔
        ∃ service ∈ table, ∃ c ∈ service.characteristics, Wanted s.characteristic service c) ∧
      ∃ told, said run.2.journal = said p.journal ++ s.notifier.shows told ∧
        Locating s table p.own.standing run.1 told run.2.own.standing := by
  obtain ⟨told, texts, locating⟩ := locate_said tells table ready
  exact ⟨locating.ok_iff, told, texts, locating⟩

end

/-- A session with a peripheral that answers at once, and lists these services. -/
def listingSession (live : List Service) (characteristic : String) : Session Unit where
  peripheral := ⟨"AA", .pure (), .pure (), .pure live, fun _ _ _ => .pure (), fun _ _ => .pure ()⟩
  characteristic := characteristic
  sink := .print
  diagnostics := true
  notifier := .custom fun _ => .pure ()

/-- The session after it has asked for the services. -/
def discovered : Progress Unit Lifecycle :=
  ⟨(), [], false, { state := .servicesDiscovered }⟩

/-- Only a characteristic of another name is listed, in the first of two services. -/
theorem locate_exact_missing :
    let table : List Service := [⟨"180D", [⟨"2A38", true, false⟩]⟩, ⟨"180F", []⟩]
    let s := listingSession table "2a37"
    let run := (s.locate table).runFrom discovered
    let told := ["Discovered services and characteristics:", "Service 180D",
      "  Characteristic 2A38 notify=yes indicate=no", "Service 180F"]
    said run.2.journal = told ∧ ¬ (∃ target, run.1 = .ok target) ∧
      Locating s table discovered.own.standing run.1 told run.2.own.standing := by
  intro table s run told
  have texts : said run.2.journal = told := by decide +kernel
  have lacks : ¬ ∃ service ∈ table, ∃ c ∈ service.characteristics, Wanted "2a37" service c := by
    decide +kernel
  obtain ⟨found, _, shown, locating⟩ := locate_exact (s := s) (p := discovered)
    (fun _ _ _ => nofun) table rfl
  obtain rfl := shown.symm.trans texts
  exact ⟨texts, fun located => lacks (found.mp located), locating⟩

end Session

end BezelStream
