import BezelStream.Proofs.Interaction.Writing
import BezelStream.Proofs.Session.Abreast

/-! # What a session writes

All that a session ever writes is what it asks, tells and waits for, how that ended, the way
of its frames, and the asides of those who answer. So it cannot write what is not its own,
such as a call of the adapter.
-/

namespace BezelStream

/-- An event that a session writes. -/
inductive Event.OfSession : Event → Prop where
  | aside {event : Event} (aside : event.Aside) : OfSession event
  | deals {event : Event} (deals : Session.Deals event) : OfSession event
  | records {text : String} (worded : Session.Says text) : OfSession (.log .info .service text)
  | ended {event : Event} (deals : Session.Deals event) (fault : Option Fault) :
      OfSession (.ended event fault)
  | released : OfSession .released
  | arrived (frame : Frame) : OfSession (.arrived frame)
  | frame (frame : Frame) : OfSession (.frame frame)

variable {σ ρ : Type}

open Progress (One Since)

namespace Session

open Op

theorem admits_ofSession : Admits Event.OfSession :=
  fun _ aside => .aside aside

theorem journals_since {event : Event} (deals : Deals event) (journal : List Event) :
    Journals (One (Since (ρ := Lifecycle) (σ := σ) Event.OfSession journal)) event where
  begins := notes_since (.deals deals) journal
  ends fault := notes_since (.ended deals fault) journal

theorem paired_since (s : Session σ) (journal : List Event) :
    Paired s s.sink (One (Since Event.OfSession journal)) where
  toCoupled := s.coupled_one (admits_ofSession.alike journal)
    (fun call => journals_since (.asks call) journal)
    (fun worded => ⟨journals_since (.tells worded) journal, notes_since (.records worded) journal⟩)
    (fun frame => notes_since (.arrived frame) journal)
    (fun frame => notes_since (.frame frame) journal) fun since _ => since
  waiting state := journals_since (.waits state) journal
  releases := by
    rintro p q ⟨rfl, since⟩
    exact ⟨rfl, since.trans (Since.note .released p)⟩

theorem run_writes (s : Session σ) (wait : StopWait σ) : Writes Event.OfSession (s.run wait) :=
  .of_abreast fun journal => (s.paired_since journal).run wait

end Session

end BezelStream
