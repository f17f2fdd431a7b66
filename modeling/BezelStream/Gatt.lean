import BezelStream.Text.Lowercase

/-! # Services and characteristics

The table of a peripheral lists services, and each service its characteristics.
Identifiers are compared without regard to letter case, and the first match in
service-then-characteristic order counts.
-/

namespace BezelStream

/-- A characteristic and the ways in which it can send values on its own. -/
structure Characteristic where
  uuid : String
  canNotify : Bool
  canIndicate : Bool
  deriving Repr, DecidableEq, Inhabited

/-- A service with its characteristics. -/
structure Service where
  uuid : String
  characteristics : List Characteristic
  deriving Repr, DecidableEq, Inhabited

/-- How values are sent. -/
inductive SubscriptionMode where
  | indicate
  /-- Without acknowledgement. -/
  | notify
  deriving Repr, DecidableEq

/-- A subscription that is in force. -/
structure Subscription where
  service : String
  characteristic : String
  mode : SubscriptionMode
  deriving Repr, DecidableEq

def sameUuid (a b : String) : Bool :=
  Text.lowercased a == Text.lowercased b

namespace SubscriptionMode

def word : SubscriptionMode → String
  | .indicate => "indicate"
  | .notify => "notify"

def ofWord? : String → Option SubscriptionMode
  | "indicate" => some .indicate
  | "notify" => some .notify
  | _ => none

def label : SubscriptionMode → String
  | .indicate => "Indication"
  | .notify => "Notification"

end SubscriptionMode

namespace Characteristic

/-- The mode to subscribe in: indications win, because they are acknowledged. -/
def mode? (c : Characteristic) : Option SubscriptionMode :=
  if c.canIndicate then some .indicate
  else if c.canNotify then some .notify
  else none

def line (c : Characteristic) : String :=
  let flag (b : Bool) := if b then "yes" else "no"
  "  Characteristic " ++ c.uuid ++ " notify=" ++ flag c.canNotify ++
    " indicate=" ++ flag c.canIndicate

end Characteristic

namespace Service

def find? (wanted : String) (s : Service) : Option Characteristic :=
  s.characteristics.find? fun c => sameUuid c.uuid wanted

def lines (s : Service) : List String :=
  ("Service " ++ s.uuid) :: s.characteristics.map Characteristic.line

end Service

/-- The first characteristic with the identifier, together with its service. -/
def findCharacteristic? (wanted : String) : List Service → Option (Service × Characteristic)
  | [] => none
  | s :: rest =>
    match s.find? wanted with
    | some c => some (s, c)
    | none => findCharacteristic? wanted rest

def servicesNamed (wanted : String) (services : List Service) : List Service :=
  services.filter fun s => sameUuid s.uuid wanted

def describe (services : List Service) : List String :=
  services.flatMap Service.lines

end BezelStream
