import BezelStream.Payload.Pump

/-! # Sessions

A session leads one peripheral through its states:

    idle → connected → servicesDiscovered → characteristicFound
         → subscribed → unsubscribing → disconnected

Each step asks for the state it starts from and changes nothing when it fails. Once
the session is connected, `close` ends it whatever has happened: it unsubscribes if
there is a subscription and disconnects once. `run` takes all steps in order.
-/

namespace BezelStream

/-- A peripheral, known by how it answers. -/
structure Peripheral (σ : Type) where
  address : String
  connect : Call σ Unit
  disconnect : Call σ Unit
  services : Call σ (List Service)
  subscribe : String → String → SubscriptionMode → Call σ Unit
  unsubscribe : String → String → Call σ Unit

/-- How far a session has come. -/
structure Lifecycle where
  state : SessionState := .idle
  subscription : Option Subscription := none
  target : Option (String × String) := none
  pump : Pump := {}
  deriving Repr, DecidableEq

/-- A session with a peripheral. -/
structure Session (σ : Type) where
  peripheral : Peripheral σ
  characteristic : String
  sink : Sink σ
  /-- Whether the table is shown when the characteristic is missing. -/
  diagnostics : Bool
  notifier : Notifier σ

namespace Session

variable {σ α : Type}

abbrev Step (σ α : Type) := Op σ Lifecycle α

def receive (s : Session σ) (frame : Frame) (p : Progress σ Lifecycle) : Progress σ Lifecycle :=
  let (pump, p) := p.own.pump.submit s.sink frame (p.note (.arrived frame))
  { p with own := { p.own with pump } }

def ask (s : Session σ) (call : PeripheralCall) (answer : Call σ α) : Step σ α :=
  Op.called (.peripheral call) (Op.performWith s.receive answer)

def tell (s : Session σ) (text : String) : Step σ Unit :=
  s.notifier.tellWith s.receive text

def tellAll (s : Session σ) (texts : List String) : Step σ Unit :=
  s.notifier.tellAllWith s.receive texts

def moveTo (state : SessionState) : Step σ Unit :=
  Op.updateOwn fun own => { own with state }

def startPump (s : Session σ) : Step σ Unit :=
  Op.update fun p =>
    let (pump, p) := p.own.pump.start s.sink p
    { p with own := { p.own with pump } }

def stopPump (s : Session σ) : Step σ Unit :=
  Op.update fun p =>
    let (pump, p) := p.own.pump.stop s.sink p
    { p with own := { p.own with pump } }

/-- Fails unless the session is in the state. -/
def require (expected : SessionState) : Step σ Unit := do
  let actual := (← Op.own).state
  if actual ≠ expected then throw (.wrongState actual expected)

def connect (s : Session σ) : Step σ Unit := do
  let state := (← Op.own).state
  if state ≠ .idle then throw (.cannotConnect state)
  match ← (s.ask .connect s.peripheral.connect).attempt with
  | .error f => throw (f.asFailure .connectionFailed .connection)
  | .ok () =>
    moveTo .connected
    Op.log .info .session ("Connected to " ++ s.peripheral.address)

def currentServices (s : Session σ) : Step σ (List Service) := do
  match ← (s.ask .services s.peripheral.services).attempt with
  | .error f => throw (f.asFailure .serviceDiscoveryFailed .discovery)
  | .ok services => return services

def discover (s : Session σ) : Step σ (List Service) := do
  require .connected
  let services ← s.currentServices
  moveTo .servicesDiscovered
  Op.log .debug .session ("Discovered " ++ toString services.length ++ " service(s)")
  return services

/-- Finds the wanted characteristic in a table: its service and itself, as spelled
    there. If it is missing, the table is shown where diagnostics are wanted. -/
def locate (s : Session σ) (services : List Service) : Step σ (String × String) := do
  require .servicesDiscovered
  match findCharacteristic? s.characteristic services with
  | some (service, characteristic) =>
    let target := (service.uuid, characteristic.uuid)
    Op.updateOwn fun own => { own with target := some target, state := .characteristicFound }
    Op.log .debug .session
      ("Matched characteristic " ++ characteristic.uuid ++ " in service " ++ service.uuid)
    return target
  | none =>
    if s.diagnostics then
      s.tell "Discovered services and characteristics:"
      s.tellAll (describe services)
    throw (.characteristicMissing s.characteristic)

/-- Subscribes to the characteristic that was located. A table is a snapshot, so how
    the characteristic sends is looked up in a fresh one. -/
def subscribe (s : Session σ) : Step σ Subscription := do
  require .characteristicFound
  match (← Op.own).target with
  | none => throw .nothingLocated
  | some (service, characteristic) =>
    let live ← s.currentServices
    match findCharacteristic? characteristic (servicesNamed service live) with
    | none => throw (.characteristicGone characteristic service)
    | some (_, found) =>
      match found.mode? with
      | none => throw (.sendsNothing characteristic)
      | some mode =>
        s.startPump
        match ← (s.ask (.subscribe service characteristic mode)
            (s.peripheral.subscribe service characteristic mode)).attempt with
        | .error f =>
          if f.isOrdinary then s.stopPump
          throw (f.asFailure .subscriptionFailed .subscription)
        | .ok () =>
          let subscription : Subscription := ⟨service, characteristic, mode⟩
          Op.updateOwn fun own =>
            { own with subscription := some subscription, state := .subscribed }
          Op.log .info .session ("Subscribed to " ++ characteristic ++ " via " ++ mode.word)
          return subscription

/-- Ends a subscription at the peripheral. Failing is reported and not passed on. -/
def unsubscribe (s : Session σ) (subscription : Subscription) : Step σ Unit := do
  let (service, characteristic) := (subscription.service, subscription.characteristic)
  match ← (s.ask (.unsubscribe service characteristic)
      (s.peripheral.unsubscribe service characteristic)).attempt with
  | .ok () => return
  | .error f =>
    if f.isOrdinary then
      let text := "Unsubscribe failed (continuing): " ++
        (f.asFailure .unsubscribeFailed .unsubscription).message
      Op.log .warning .session text
      s.tell text
    else throw f

/-- Ends the subscription if there is one, and stops the pump. -/
def endSubscription (s : Session σ) : Step σ Unit := do
  match (← Op.own).subscription with
  | none => return
  | some subscription =>
    moveTo .unsubscribing
    (s.unsubscribe subscription).ensuring do
      s.stopPump
      Op.updateOwn fun own => { own with subscription := none }

def disconnect (s : Session σ) : Step σ Unit := do
  moveTo .disconnected
  s.ask .disconnect s.peripheral.disconnect
  Op.log .info .session ("Disconnected from " ++ s.peripheral.address)

/-- Ends a session that was connected. Without effect before that and afterwards. -/
def close (s : Session σ) : Step σ Unit := do
  let state := (← Op.own).state
  if state = .idle ∨ state = .disconnected then return
  s.endSubscription.ensuring s.disconnect

/-- Leaves a session after what was done in it ended with the given fault or with none.
    After a fault, a failure of the session to close is only logged. -/
def leave (s : Session σ) (after : Option Fault) : Step σ Unit := do
  match ← s.close.attempt with
  | .ok () => return
  | .error f =>
    if f.isSession && after.isSome then
      Op.log .warning .session ("Cleanup after failure also failed: " ++ f.message)
    else throw f

/-- What is done in a connected session: all steps up to the wait. -/
def body (s : Session σ) (wait : StopWait σ) : Step σ Subscription := do
  let services ← s.discover
  let _ ← s.locate services
  let subscription ← s.subscribe
  s.tell
    (subscription.mode.label ++ " active on characteristic " ++ subscription.characteristic ++ ".")
  Op.called (.wait (← Op.own).state) (wait.run s.receive)
  return subscription

def run (s : Session σ) (wait : StopWait σ) : Step σ Subscription := do
  s.connect
  match ← (s.body wait).attempt with
  | .error f =>
    s.leave (some f)
    throw f
  | .ok subscription =>
    s.leave none
    return subscription

end Session

end BezelStream
