/-! # The states of a session -/

namespace BezelStream

/-- How far a session has come. -/
inductive SessionState where
  | idle
  | connected
  | servicesDiscovered
  | characteristicFound
  | subscribed
  | unsubscribing
  | disconnected
  deriving Repr, DecidableEq

namespace SessionState

def word : SessionState → String
  | .idle => "idle"
  | .connected => "connected"
  | .servicesDiscovered => "services_discovered"
  | .characteristicFound => "characteristic_found"
  | .subscribed => "subscribed"
  | .unsubscribing => "unsubscribing"
  | .disconnected => "disconnected"

def all : List SessionState :=
  [.idle, .connected, .servicesDiscovered, .characteristicFound, .subscribed, .unsubscribing,
    .disconnected]

def ofWord? (word : String) : Option SessionState :=
  all.find? fun s => s.word == word

end SessionState

end BezelStream
