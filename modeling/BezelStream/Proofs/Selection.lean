import BezelStream.Proofs.Interaction.Writing
import BezelStream.Selection

/-! # What is selected

Whatever the user answers, a device that is selected is one of the candidates. A selection
writes nothing but what it tells and asks the user.
-/

namespace BezelStream

variable {σ ρ : Type} {target : CodePoints} {proposal : Proposal} {prompt : Prompt σ}
  {notifier : Notifier σ} {devices : List Device} {device : Device}

theorem mem_candidates : device ∈ candidates target devices ↔
    device ∈ devices ∧ (device.identifier : CodePoints) = target := by
  simp [candidates]

theorem mem_of_chosen {answer : Option Int} (chosen : chosen? devices answer = some device) :
    device ∈ devices := by
  unfold chosen? at chosen
  split at chosen
  · exact List.mem_of_getElem? chosen
  · cases chosen

theorem candidate_of_select {p q : Progress σ ρ}
    (selected : (select target proposal prompt notifier devices).runFrom p = (.ok device, q)) :
    device ∈ candidates target devices := by
  unfold select at selected
  split at selected
  case h_1 => cases selected
  case h_2 one only =>
    obtain ⟨_, told, -, given⟩ := Op.ok_of_bind selected
    cases given
    rw [only]
    exact List.mem_singleton_self device
  case h_3 =>
    obtain ⟨_, _, -, selected⟩ := Op.ok_of_bind selected
    obtain ⟨_, _, -, selected⟩ := Op.ok_of_bind selected
    obtain ⟨answer, _, -, selected⟩ := Op.ok_of_bind selected
    split at selected
    case h_1 i other chosen =>
      obtain ⟨_, _, -, given⟩ := Op.ok_of_bind selected
      cases given
      exact mem_of_chosen chosen
    case h_2 => cases selected

/-- The texts that a selection tells. -/
inductive Selecting (target : CodePoints) : String → Prop where
  | only : Selecting target ("One " ++ target.printed ++ " device found. Auto-selecting it.")
  | heading : Selecting target "Simionic G1000 devices:"
  | entry (i : Nat) (device : Device) :
      Selecting target ("[" ++ toString i ++ "] " ++ device.identifier ++ " [" ++
        device.address ++ "]")

theorem selecting_listing (target : CodePoints) (start : Nat) (devices : List Device) :
    ∀ text ∈ listing start devices, Selecting target text := by
  induction devices generalizing start with
  | nil => exact List.forall_mem_nil _
  | cons device rest ih =>
      rintro text (_ | ⟨_, member⟩)
      · exact .entry start device
      · exact ih (start + 1) text member

open Op

/-- A selection goes abreast with itself if telling and asking the user does. -/
theorem Op.Alike.select {R : Progress σ ρ → Progress σ ρ → Prop} (alike : Alike R)
    (conveys : ∀ {text}, Selecting target text → Conveys R text)
    (asks : ∀ text proposed, Journals R (.prompt text proposed)) :
    Abreast R (select target proposal prompt notifier devices)
      (select target proposal prompt notifier devices) := by
  unfold BezelStream.select
  split
  case h_1 => exact .throw _
  case h_2 => exact .bind (alike.tell notifier (conveys .only)) fun _ => .pure _
  case h_3 =>
    refine .bind (alike.tell notifier (conveys .heading)) fun _ => ?_
    refine .bind (alike.tellAll notifier fun text member =>
      conveys (selecting_listing target 0 _ text member)) fun _ => ?_
    refine .bind (alike.ask prompt (asks _ _)) fun answer => ?_
    split
    · exact .bind (alike.log _ _ nofun) fun _ => .pure _
    · exact .throw _

/-- An event that a selection writes. -/
inductive Event.OfSelection (target : CodePoints) : Event → Prop where
  | aside {event : Event} (aside : event.Aside) : OfSelection target event
  | tells {text : String} (worded : Selecting target text) : OfSelection target (.notice text)
  | records {text : String} (worded : Selecting target text) :
      OfSelection target (.log .info .service text)
  | asks (text : String) (proposed : Nat) : OfSelection target (.prompt text proposed)
  | told (text : String) (fault : Option Fault) : OfSelection target (.ended (.notice text) fault)
  | asked (text : String) (proposed : Nat) (fault : Option Fault) :
      OfSelection target (.ended (.prompt text proposed) fault)

theorem admits_ofSelection (target : CodePoints) : Admits (Event.OfSelection target) :=
  fun _ aside => .aside aside

theorem select_writes (target : CodePoints) (proposal : Proposal) (prompt : Prompt σ)
    (notifier : Notifier σ) (devices : List Device) :
    Writes (ρ := ρ) (Event.OfSelection target) (select target proposal prompt notifier devices) := by
  refine .of_abreast fun journal => ((admits_ofSelection target).alike journal).select ?_ ?_
  · intro text worded
    exact ⟨⟨notes_since (.tells worded) journal, fun fault => notes_since (.told text fault) journal⟩,
      notes_since (.records worded) journal⟩
  · intro text proposed
    exact ⟨notes_since (.asks text proposed) journal, fun fault =>
      notes_since (.asked text proposed fault) journal⟩

end BezelStream
