import BezelStream.Proofs.Interaction.Dialogue
import BezelStream.Proofs.Selection

/-! # What the user is asked

The devices of the target's name are listed one after another, each with its index, and the user is
asked once for an index among them. The index shown with a device selects that device, and every
other answer is refused.
-/

namespace BezelStream

variable {σ ρ : Type} {target : CodePoints} {found : List Device} {device : Device}

/-- The line that shows a device with its index. -/
def listingLine (i : Nat) (device : Device) : String :=
  "[" ++ toString i ++ "] " ++ device.identifier ++ " [" ++ device.address ++ "]"

theorem listing_eq_map (start : Nat) (devices : List Device) :
    listing start devices = (devices.zipIdx start).map fun (device, i) => listingLine i device := by
  induction devices generalizing start with
  | nil => rfl
  | cons device rest ih =>
      rw [listing, List.zipIdx_cons, List.map_cons, ih]
      rfl

/-- The index that is offered for so many devices. -/
def Proposal.offered (proposal : Proposal) (count : Nat) : Nat :=
  match proposal with
  | .first => 0
  | .last => count - 1

theorem Proposal.toNat_index (proposal : Proposal) (count : Nat) :
    (proposal.index count).toNat = proposal.offered count := by
  cases proposal with
  | first => rfl
  | last => exact Int.toNat_sub count 1

theorem Proposal.offered_lt (proposal : Proposal) {count : Nat} (some : 0 < count) :
    proposal.offered count < count := by
  cases proposal with
  | first => exact some
  | last => exact Nat.sub_one_lt_of_lt some

/-- How the answer to a question for an index among some devices is taken. -/
inductive Answered (found : List Device) : Except Fault (Option Int) → Except Fault Device → Prop where
  | chosen {i : Nat} {device : Device} (listed : found[i]? = some device) :
      Answered found (.ok (some i)) (.ok device)
  | refused {answer : Option Int}
      (unlisted : ∀ i, answer = some i → i < 0 ∨ (found.length : Int) ≤ i) {f : Fault}
      (reported : f.failure? = some .invalidSelection) : Answered found (.ok answer) (.error f)
  | failed (f : Fault) : Answered found (.error f) (.error f)

theorem Answered.of_listed {i : Nat} {result : Except Fault Device}
    (answered : Answered found (.ok (some i)) result) (listed : found[i]? = some device) :
    result = .ok device := by
  generalize given : Except.ok (ε := Fault) (some (i : Int)) = answer at answered
  cases answered with
  | chosen again =>
      have same : (i : Int) = _ := Option.some.inj (Except.ok.inj given)
      obtain rfl := Int.ofNat.inj same
      rw [listed] at again
      cases again
      rfl
  | refused unlisted =>
      cases given
      have inside := (List.getElem?_eq_some_iff.mp listed).1
      have outside := unlisted i rfl
      omega
  | failed => cases given

theorem chosen_eq_none {answer : Option Int} (none : chosen? found answer = none) :
    ∀ i, answer = some i → i < 0 ∨ (found.length : Int) ≤ i := by
  rintro (i | i) rfl
  · exact .inr (Int.ofNat_le.mpr (List.getElem?_eq_none_iff.mp none))
  · exact .inl (Int.negSucc_lt_zero i)

/-- What a selection does with the answer. -/
def takeAnswer (found : List Device) (answer : Option Int) : Op σ ρ Device :=
  match answer, chosen? found answer with
  | some i, some device => do
    Op.log .debug .selection ("User selected index " ++ toString i ++ ": " ++ device.address)
    return device
  | _, _ => throw (.notAnIndex found.length)

/-- An answer selects the device at its index or is refused, and nothing is said of it. -/
theorem takeAnswer_answered (found : List Device) (answer : Option Int) (p : Progress σ ρ) :
    Answered found (.ok answer) ((takeAnswer found answer).runFrom p).1 ∧
      dialogue ((takeAnswer found answer).runFrom p).2.journal = dialogue p.journal := by
  cases answer with
  | none => exact ⟨.refused (by simp) rfl, rfl⟩
  | some i =>
      cases chosen : chosen? found (some i) with
      | none =>
          simp only [takeAnswer, chosen]
          exact ⟨.refused (chosen_eq_none chosen) rfl, rfl⟩
      | some device =>
          simp only [takeAnswer, chosen]
          cases i with
          | ofNat i => exact ⟨.chosen chosen, dialogue_note rfl p⟩
          | negSucc i => cases chosen

section

variable (proposal : Proposal) (prompt : Prompt σ) {notifier : Notifier σ} {devices : List Device}
  (p : Progress σ ρ)

theorem select_none (none : candidates target devices = []) :
    (select target proposal prompt notifier devices).runFrom p = (.error (.noTarget target), p) := by
  unfold select
  rw [none]
  rfl

theorem select_one (tells : notifier.Each Call.NeverFails)
    (one : candidates target devices = [device]) :
    let text := "One " ++ target.printed ++ " device found. Auto-selecting it."
    let run := (select target proposal prompt notifier devices).runFrom p
    run.1 = .ok device ∧
      dialogue run.2.journal = dialogue p.journal ++ notifier.account text none := by
  intro text run
  have fine : ((notifier.tell text).runFrom p).1 = .ok () :=
    (Op.FailsOnly.tellWith tells text).ends p
  have told := notifier.dialogue_tell text p
  rw [fine] at told
  have ends : run = (.ok device, ((notifier.tell text).runFrom p).2) := by
    change (select target proposal prompt notifier devices).runFrom p = _
    unfold select
    rw [one]
    exact Op.bind_gave fine _
  rw [ends]
  exact ⟨rfl, told⟩

/-- Several candidates are listed and asked for, and the answer is taken. -/
theorem select_asks (tells : notifier.Each Call.NeverFails)
    (several : 2 ≤ (candidates target devices).length) :
    let found := candidates target devices
    let told := (notifier.tellAll ("Simionic G1000 devices:" :: listing 0 found)).runFrom p
    let asked := (prompt.ask "Select device index" (proposal.offered found.length)).runFrom told.2
    let run := (select target proposal prompt notifier devices).runFrom p
    Answered found asked.1 run.1 ∧ dialogue run.2.journal = dialogue asked.2.journal := by
  intro found told asked run
  have heading : ((notifier.tell "Simionic G1000 devices:").runFrom p).1 = .ok () :=
    (Op.FailsOnly.tellWith tells _).ends p
  have lines (q : Progress σ ρ) : ((notifier.tellAll (listing 0 found)).runFrom q).1 = .ok () :=
    (Op.FailsOnly.tellAllWith tells _).ends q
  have listed : told = (notifier.tellAll (listing 0 found)).runFrom
      ((notifier.tell "Simionic G1000 devices:").runFrom p).2 := Op.bind_gave heading _
  have asks : run = (prompt.ask "Select device index" (proposal.offered found.length) >>=
      takeAnswer found).runFrom told.2 := by
    rw [listed, ← Proposal.toNat_index]
    change (select target proposal prompt notifier devices).runFrom p = _
    unfold select
    split
    next none => simp [none] at several
    next one => simp [one] at several
    next => exact (Op.bind_gave heading _).trans (Op.bind_gave (lines _) _)
  have same : (prompt.ask "Select device index" (proposal.offered found.length)).runFrom told.2 =
      asked := rfl
  rw [asks, Op.runFrom_bind, same]
  clear_value asked
  rcases asked with ⟨f | answer, q⟩
  · exact ⟨.failed f, rfl⟩
  · exact takeAnswer_answered found answer q

/-- What several candidates are listed and asked by stands in the dialogue. -/
theorem select_several (tells : notifier.Each Call.NeverFails) {found : List Device}
    (carried : candidates target devices = found) (several : 2 ≤ found.length) :
    let proposed := proposal.offered found.length
    let texts := "Simionic G1000 devices:" ::
      found.zipIdx.map fun (device, i) => listingLine i device
    let told := (notifier.tellAll texts).runFrom p
    let answer := ((prompt.ask "Select device index" proposed).runFrom told.2).1
    let run := (select target proposal prompt notifier devices).runFrom p
    Answered found answer run.1 ∧
      dialogue run.2.journal = dialogue p.journal ++ texts.flatMap (notifier.account · none) ++
        prompt.account "Select device index" proposed (faultOf? answer) := by
  intro proposed texts told answer run
  subst carried
  obtain ⟨answered, recorded⟩ := select_asks proposal prompt p tells several
  rw [listing_eq_map] at answered recorded
  refine ⟨answered, recorded.trans ?_⟩
  rw [Prompt.dialogue_ask, Notifier.dialogue_tellAll tells]

/-- What ends in a fault though several were found has asked someone. -/
theorem account_ne_nil_of_failed (text : String) {found : List Device} (some : 0 < found.length)
    {q : Progress σ ρ} {f : Fault} {fault : Option Fault}
    (failed : Answered found ((prompt.ask text (proposal.offered found.length)).runFrom q).1
      (.error f)) :
    prompt.account text (proposal.offered found.length) fault ≠ [] := by
  cases prompt with
  | acceptProposal =>
      have inside := proposal.offered_lt some
      nomatch failed.of_listed (List.getElem?_eq_getElem inside)
  | custom call => exact List.cons_ne_nil _ _

/-- No candidate is a fault of its own, and nothing is told or asked. A single candidate is told and
    selected. Several are listed, one index is asked for, with one proposed, and the answer selects
    the device that was listed under it. -/
theorem select_lawful (tells : notifier.Each Call.NeverFails) :
    let found := devices.filter fun device => (device.identifier : CodePoints) = target
    let run := (select target proposal prompt notifier devices).runFrom p
    let proposed := proposal.offered found.length
    let texts := "Simionic G1000 devices:" ::
      found.zipIdx.map fun (device, i) => listingLine i device
    let told := (notifier.tellAll texts).runFrom p
    let answer := ((prompt.ask "Select device index" proposed).runFrom told.2).1
    ((∃ f, f.failure? = some .noTargetDevice ∧ run = (.error f, p)) ↔ found = []) ∧
      (∀ device, found = [device] → run.1 = .ok device ∧
        dialogue run.2.journal = dialogue p.journal ++
          notifier.account ("One " ++ target.printed ++ " device found. Auto-selecting it.") none) ∧
      (2 ≤ found.length →
        dialogue run.2.journal = dialogue p.journal ++ texts.flatMap (notifier.account · none) ++
            prompt.account "Select device index" proposed (faultOf? answer) ∧
          Answered found answer run.1 ∧
          (∀ (i : Nat) device, found[i]? = some device → answer = .ok (some i) → run.1 = .ok device) ∧
          (answer = .ok (some proposed) → ∃ device, found[proposed]? = some device ∧
            run.1 = .ok device)) := by
  intro found run proposed texts told answer
  have carried : candidates target devices = found :=
    List.filter_congr fun device _ => Bool.beq_eq_decide_eq _ target
  have asks (several : 2 ≤ found.length) :=
    select_several proposal prompt p tells carried several
  refine ⟨⟨?_, ?_⟩, ?_, ?_⟩
  · rintro ⟨f, -, ended⟩
    rcases shape : found with _ | ⟨device, _ | ⟨other, rest⟩⟩
    · rfl
    · have taken := (select_one proposal prompt p tells (carried.trans shape)).1
      rw [show (select target proposal prompt notifier devices).runFrom p = _ from ended] at taken
      cases taken
    · have several : 2 ≤ found.length := by simp [shape]
      obtain ⟨answered, recorded⟩ := asks several
      rw [show (select target proposal prompt notifier devices).runFrom p = _ from ended]
        at answered recorded
      rw [List.append_assoc, List.self_eq_append_right, List.append_eq_nil_iff] at recorded
      exact absurd recorded.2
        (account_ne_nil_of_failed proposal prompt _ (Nat.zero_lt_of_lt several) answered)
  · intro none
    exact ⟨.noTarget target, rfl, select_none proposal prompt p (carried.trans none)⟩
  · intro device one
    exact select_one proposal prompt p tells (carried.trans one)
  · intro several
    obtain ⟨answered, recorded⟩ := asks several
    refine ⟨recorded, answered, ?_, ?_⟩
    · intro i device listed given
      exact Answered.of_listed (given ▸ answered) listed
    · intro given
      have inside := proposal.offered_lt (Nat.zero_lt_of_lt several)
      have listed := List.getElem?_eq_getElem inside
      exact ⟨_, listed, Answered.of_listed (given ▸ answered) listed⟩

theorem select_second_of_two :
    let device (identifier address : String) : Device :=
      { identifier, address, connectable := true }
    let devices := [device "SHB1000" "AA", device "other" "BB", device "SHB1000" "CC"]
    let answer : Prompt Unit := .custom fun _ _ => .pure (some 1)
    let ready : Progress Unit Unit := { env := (), own := () }
    ((select "SHB1000" .last answer (.custom fun _ => .pure ()) devices).runFrom ready).1 =
      .ok (device "SHB1000" "CC") := by
  intro device devices answer ready
  have lawful := @select_lawful Unit Unit "SHB1000" .last answer (.custom fun _ => .pure ()) devices
    ready fun _ _ _ => nofun
  exact (lawful.2.2 (by decide)).2.2.1 1 (device "SHB1000" "CC") (by decide) rfl

end

end BezelStream
