import BezelStream.Scan
import BezelStream.Radio.Advertisement

/-! # The radio of a host

The radio scans through a `Scanner` and holds one client at a time for the connection
to a peripheral. Both are known by how they answer, over the state `τ` of the host.
-/

namespace BezelStream.Radio

/-- A characteristic as the radio lists it. -/
structure GattCharacteristic where
  uuid : String
  properties : List String
  deriving Repr, DecidableEq

/-- A service as the radio lists it. -/
structure GattService where
  uuid : String
  characteristics : List GattCharacteristic
  deriving Repr, DecidableEq

/-- What finds devices. -/
structure Scanner (τ : Type) where
  start : Call τ Unit
  /-- The advertisements of the next so many seconds, in order. -/
  advertisements : Binary64 → τ → List Advertisement × τ
  stop : Call τ Unit

/-- A client: its number, and the address that it was made for. -/
structure Client where
  number : Nat
  address : String
  deriving Repr, DecidableEq

/-- What clients do. -/
structure Central (τ : Type) where
  connect : Client → Call τ Unit
  disconnect : Client → Call τ Unit
  services : Client → Call τ (List GattService)
  startNotify : Client → String → Call τ Unit
  stopNotify : Client → String → Call τ Unit

/-- The host and the client that is held. -/
structure Machine (τ : Type) where
  host : τ
  held : Option Client := none
  made : Nat := 0

/-- A call of the host as a call of the radio, which is remarked on. -/
def onHost {τ α : Type} (event : RadioCall) (call : Call τ α) : Call (Machine τ) α :=
  fun m =>
    let (reply, host) := call.remarked (.radio event) m.host
    (reply, { m with host })

end BezelStream.Radio
