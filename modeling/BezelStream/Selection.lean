import BezelStream.Interaction.Collaborator
import BezelStream.Number.Numeral
import BezelStream.Text.Blank

/-! # Selection of a device

The devices that carry the target identifier are the candidates. One candidate is
taken without a question; several are listed, and an index is asked for.
-/

namespace BezelStream

/-- Which candidate is proposed. -/
inductive Proposal where
  | last
  | first
  deriving Repr, DecidableEq

namespace Proposal

def word : Proposal → String
  | .last => "last"
  | .first => "first"

def ofWord? : String → Option Proposal
  | "last" => some .last
  | "first" => some .first
  | _ => none

def index (count : Int) : Proposal → Int
  | .first => 0
  | .last => count - 1

end Proposal

/-- The devices with the identifier, in order. -/
def candidates (target : CodePoints) (devices : List Device) : List Device :=
  devices.filter fun d => (d.identifier : CodePoints) == target

/-- The lines that list candidates, counted from `start`. -/
def listing : (start : Nat) → List Device → List String
  | _, [] => []
  | i, d :: rest =>
    ("[" ++ toString i ++ "] " ++ d.identifier ++ " [" ++ d.address ++ "]") :: listing (i + 1) rest

/-- The integer that an answer to the prompt writes, if it writes one. -/
def readIndex (answer : String) : Option Int :=
  Numeral.int? 10 (Text.trim answer.toList)

/-- The candidate at an index, if the answer is one. -/
def chosen? (devices : List Device) : Option Int → Option Device
  | some (.ofNat i) => devices[i]?
  | _ => none

def select {σ ρ : Type} (target : CodePoints) (proposal : Proposal) (prompt : Prompt σ)
    (notifier : Notifier σ) (devices : List Device) : Op σ ρ Device := do
  match candidates target devices with
  | [] => throw (.noTarget target)
  | [device] =>
    notifier.tell ("One " ++ target.printed ++ " device found. Auto-selecting it.")
    return device
  | found =>
    notifier.tell "Simionic G1000 devices:"
    notifier.tellAll (listing 0 found)
    let proposed := (proposal.index found.length).toNat
    let answer ← prompt.ask "Select device index" proposed
    match answer, chosen? found answer with
    | some i, some device =>
      Op.log .debug .selection ("User selected index " ++ toString i ++ ": " ++ device.address)
      return device
    | _, _ => throw (.notAnIndex found.length)

end BezelStream
