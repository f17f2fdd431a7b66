/-! # Devices -/

namespace BezelStream

/-- A device met by a scan. -/
structure Device where
  /-- The name that the device goes by, empty if it has none. -/
  identifier : String
  address : String
  connectable : Bool
  /-- Whether the radio keeps an object of its own for the device, through which it
      connects; otherwise it connects by address. -/
  hasHandle : Bool := false
  deriving Repr, DecidableEq, Inhabited

end BezelStream
