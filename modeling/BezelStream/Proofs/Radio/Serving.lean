import BezelStream.Proofs.Radio.Relay

/-! # Sessions over a link

A session over a link makes one client and serves it, whatever those told and waited for do
meanwhile, as long as they have nothing to do with the radio.
-/

namespace BezelStream

open Radio (Machine)

variable {τ ρ : Type}

namespace Pump

variable {sink : Sink (Machine τ)} (apart : sink.Apart)

include apart

theorem handOn_apart (p : Progress (Machine τ) ρ) (frame : Frame) :
    p.Apart (handOn sink p frame) := by
  have noted : p.Apart (p.note (.frame frame)) := .note ⟨rfl, rfl⟩ p
  have given : p.Apart (sink.give frame p).2 := by
    cases sink with
    | print => exact noted.trans (.note ⟨rfl, rfl⟩ _)
    | custom accept => exact noted.trans ⟨apart frame p.env, .of_journal rfl⟩
  simp only [handOn]
  split
  · exact given
  · exact given.trans (.note ⟨rfl, rfl⟩ _)

theorem drain_apart (pump : Pump) (p : Progress (Machine τ) ρ) :
    p.Apart (pump.drain sink p).2 := by
  have each (frames : List Frame) (p : Progress (Machine τ) ρ) :
      p.Apart (frames.foldl (handOn sink) p) := by
    induction frames generalizing p with
    | nil => exact .refl p
    | cons frame rest ih => exact (handOn_apart apart p frame).trans (ih _)
  simp only [drain]
  split
  · exact each pump.queue p
  · exact .refl p

end Pump

namespace Radio

open Progress (One)

/-- What a link has relayed between two points of a session. -/
def Carries (link : Link τ) (p q : Progress (Machine τ) Lifecycle) : Prop :=
  ∃ exchanged air, p.Hears exchanged air q ∧ Relays link p.env.line exchanged air q.env.line

variable {link : Link τ} {p q r : Progress (Machine τ) Lifecycle}

theorem Carries.refl (p : Progress (Machine τ) Lifecycle) : Carries link p p :=
  ⟨[], [], .of_journal rfl, .nil _⟩

theorem Carries.apart (carries : Carries link p q) (apart : q.Apart r) : Carries link p r := by
  obtain ⟨exchanged, air, hears, relays⟩ := carries
  refine ⟨exchanged, air, hears.apart apart, ?_⟩
  rw [apart.line]
  exact relays

variable {s : Session (Machine τ)} {wait : StopWait (Machine τ)}
  (linked : s.peripheral = link.peripheral) (off : link.central.Each Call.OffAir)
  (tells : s.notifier.Each Call.Apart) (waits : wait.Each Call.Apart) (accepts : s.sink.Apart)

include accepts

theorem receive_apart (frame : Frame) (p : Progress (Machine τ) Lifecycle) :
    p.Apart (s.receive frame p) := by
  have noted : p.Apart (p.note (.arrived frame)) := .note ⟨rfl, rfl⟩ p
  have drained := Pump.drain_apart accepts { p.own.pump with queue := p.own.pump.queue ++ [frame] }
    (p.note (.arrived frame))
  exact (noted.trans drained).trans .own

include linked off

/-- What is asked of the peripheral is relayed, whatever frames come in meanwhile. -/
theorem Carries.ask {start : Progress (Machine τ) Lifecycle} {α : Type} {call : PeripheralCall}
    {answer : Call (Machine τ) α} (asks : s.Asks call answer) (p : Progress (Machine τ) Lifecycle)
    (carries : Carries link start p) :
    Carries link start ((s.ask call answer).runFrom p).2 := by
  obtain ⟨exchanged, air, hears, relays⟩ := carries
  let answered := answer p.env
  let noted := p.note (.peripheral call)
  have begins : p.Apart noted := .note ⟨rfl, rfl⟩ p
  let taken := Progress.takeAll s.receive { noted with env := answered.2 } answered.1.occurrences
  obtain ⟨line, hearing⟩ := Progress.takeAll_hears (receive_apart accepts)
    { noted with env := answered.2 } answered.1.occurrences
  have inside : noted.Hears [] (airedBy answered.1.occurrences) taken :=
    ⟨hearing.exchanges, hearing.aired⟩
  have ends : taken.Hears [(call, faultOf? answered.1.result)] []
      (taken.note (.ended (.peripheral call) (faultOf? answered.1.result))) :=
    .note (.ended (.peripheral call) _) taken
  have asked := hears.trans (begins.hears (inside.trans ends))
  rw [List.append_nil] at asked
  refine ⟨_, _, asked, relays.append ?_⟩
  have relay := Link.relays off linked asks p.env
  rw [← line] at relay
  exact .single relay

include tells

theorem stepsRespect_carries (start : Progress (Machine τ) Lifecycle) :
    s.StepsRespect s.sink (One (Carries link start)) where
  own related := congrArg Progress.own related.1
  moves := by
    rintro p q ⟨rfl, carries⟩ f -
    exact ⟨rfl, carries.apart .own⟩
  logs level source text _ := by
    rintro p q ⟨rfl, carries⟩
    exact ⟨rfl, carries.apart (.note ⟨rfl, rfl⟩ p)⟩
  asks asks := One.abreast (Carries.ask linked off accepts asks)
  tells _ := One.abreast fun p carries =>
    carries.apart (Op.Apart.tellWith (receive_apart accepts) tells _ p)
  starts := One.abreast fun p carries =>
    carries.apart ((Pump.drain_apart accepts { p.own.pump with running := true } p).trans .own)
  stops := One.abreast fun p carries =>
    carries.apart ((Pump.drain_apart accepts p.own.pump p).trans .own)

include waits

theorem run_carries (p : Progress (Machine τ) Lifecycle) :
    Carries link p ((s.run wait).runFrom p).2 := by
  have waiting (state : SessionState) :
      Op.Apart (Op.called (.wait state) (wait.run s.receive)) :=
    .called ⟨rfl, rfl⟩ (fun _ => ⟨rfl, rfl⟩) (.waitWith (receive_apart accepts) waits)
  have steps := stepsRespect_carries linked off tells accepts p
  exact One.kept (steps.run fun state => One.abreast fun q carries => carries.apart (waiting state q))
    (.refl p)

/-- A run that begins without a client makes one, and serves it. -/
theorem run_serves {p : Progress (Machine τ) Lifecycle} (fresh : p.own = {})
    (free : p.env.held = none) :
    ∃ exchanged life, Served p.env.made life ∧
      p.Hears exchanged (link.created p.env.made :: life) ((s.run wait).runFrom p).2 := by
  obtain ⟨exchanged, air, hears, relays⟩ := run_carries linked off tells waits accepts p
  obtain ⟨log, adds, conducts⟩ := s.run_conducts wait fresh
  have same : exchanged = exchanges log := by
    have both := hears.exchanges
    rw [adds.dealings, exchanges_append] at both
    exact (List.append_cancel_left both).symm
  have line : p.env.line = ⟨none, p.env.made⟩ := by rw [Machine.line, free]
  rw [same, line] at relays
  obtain ⟨life, rfl, served⟩ := relays.served conducts
  exact ⟨exchanged, life, served, hears⟩

end Radio

end BezelStream
