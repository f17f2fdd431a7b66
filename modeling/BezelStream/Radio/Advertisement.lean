import BezelStream.Device
import BezelStream.Value.Conversion

/-! # Advertisements

What a radio reports of a device that makes itself known. Whether the device accepts
connections is told by the first item of platform data that says anything about it.
-/

namespace BezelStream

/-- The advertisement in an event of a platform. It may lack a type. -/
structure RawAdvertisement where
  type : Option Value
  deriving Repr, Inhabited

/-- An item of what a platform adds to an advertisement. -/
inductive PlatformItem where
  | dictionary (entries : List (String × Value))
  /-- An event, with its advertisement if it has one. -/
  | event (advertisement : Option RawAdvertisement)
  | other
  deriving Repr, Inhabited

/-- An advertisement. -/
structure Advertisement where
  address : String
  name : String
  localName : String
  platformData : List PlatformItem
  deriving Repr, Inhabited

namespace PlatformItem

/-- The key under which a dictionary says whether connections are accepted. -/
def connectableKey : String := "kCBAdvDataIsConnectable"

/-- An event whose advertisement has this type. -/
@[match_pattern] def typed (type : Value) : PlatformItem :=
  .event (some ⟨some type⟩)

/-- The advertisement type that an item carries; a null type is none. -/
def advertisementType? : PlatformItem → Option Value
  | .typed (.scalar .null) => none
  | .typed v => some v
  | _ => none

/-- What a dictionary says under the key, whatever value stands there. -/
def flag? : PlatformItem → Option Bool
  | .dictionary entries => (entries.lookup connectableKey).map Value.isTruthy
  | _ => none

/-- What an item says about connections: nothing, yes, no, or something unreadable. Of
    the advertisement types, the undirected one (0) and the directed one (1) accept them. -/
def verdict? (item : PlatformItem) : Option (Except Mismatch Bool) :=
  match item.flag? with
  | some accepts => some (.ok accepts)
  | none => item.advertisementType?.map fun v => v.toInt.map fun type => type == 0 || type == 1

end PlatformItem

/-- Whether platform data says that connections are accepted: the first item that says
    anything decides, and without one they are. -/
def isConnectable (items : List PlatformItem) : Except Mismatch Bool :=
  (items.findSome? PlatformItem.verdict?).getD (.ok true)

namespace Advertisement

/-- The identifier of the device: the name in the advertisement, or else the one that
    the platform knows. -/
def identifier (a : Advertisement) : String :=
  if a.localName.isEmpty then a.name else a.localName

def device (a : Advertisement) : Except Mismatch Device :=
  (isConnectable a.platformData).map fun connectable =>
    ⟨a.identifier, a.address, connectable, true⟩

end Advertisement

end BezelStream
