import BezelStream.Radio.Machine

/-! # The link to a peripheral

A link holds a client from a successful connect to the next disconnect. Every failure
of a client becomes the failure of what was asked for, and without a client nothing is
asked of the radio.
-/

namespace BezelStream.Radio

variable {τ α : Type}

/-- A link to a device. -/
structure Link (τ : Type) where
  device : Device
  central : Central τ
  platform : String
  connectTimeout : Binary64

/-- Words for the abilities of a characteristic: whether it can notify and indicate. The
    letter case of the names does not matter. -/
def abilities (properties : List String) : Bool × Bool :=
  let names := properties.map Text.lowercased
  (names.contains "notify", names.contains "indicate")

/-- A characteristic as the radio lists it, described by its abilities. -/
def GattCharacteristic.described (c : GattCharacteristic) : Characteristic :=
  let (canNotify, canIndicate) := abilities c.properties
  ⟨c.uuid, canNotify, canIndicate⟩

/-- A service as the radio lists it, with its characteristics described. -/
def GattService.described (s : GattService) : Service :=
  ⟨s.uuid, s.characteristics.map GattCharacteristic.described⟩

/-- The characteristic with exactly these identifiers: the first of its name in the
    first service of its name. -/
def resolve (table : List GattService) (service characteristic : String) :
    Except Fault GattCharacteristic :=
  match table.find? fun s => s.uuid == service with
  | none => .error (.serviceAbsent service)
  | some s =>
    match s.characteristics.find? fun c => c.uuid == characteristic with
    | none => .error (.characteristicAbsent characteristic service)
    | some c => .ok c

namespace Link

def wrapReply (wrap : Fault → Fault) (reply : Reply α) : Reply α :=
  { reply with result := reply.result.mapError (Fault.wrapped wrap) }

/-- A call that needs the client; without one it is the given failure. -/
def withClient (link : Link τ) (failure : Failure) (call : Client → Call (Machine τ) α) :
    Call (Machine τ) α := fun m =>
  match m.held with
  | some client => call client m
  | none => (⟨[], .error (.notConnected failure link.device.address)⟩, m)

/-- Connects through a new client, which is held if that succeeds. -/
def connect (link : Link τ) : Call (Machine τ) Unit := fun m =>
  let client : Client := ⟨m.made, link.device.address⟩
  let created : Occurrence := .noted (.radio (.client client.number
    (.create link.device.hasHandle link.device.address link.connectTimeout)))
  let (reply, m) := onHost (.client client.number .connect) (link.central.connect client)
    { m with made := m.made + 1 }
  let reply := wrapReply (.linkConnect link.device.address) reply
  let held := match reply.result with
    | .ok () => some client
    | .error _ => m.held
  ({ reply with occurrences := created :: reply.occurrences }, { m with held })

/-- Disconnects the client, which is let go even if that fails. -/
def disconnect (link : Link τ) : Call (Machine τ) Unit := fun m =>
  match m.held with
  | none => (⟨[], .ok ()⟩, m)
  | some client =>
    let (reply, m) := onHost (.client client.number .disconnect)
      (link.central.disconnect client) { m with held := none }
    (wrapReply (.linkDisconnect link.device.address) reply, m)

def table (link : Link τ) (client : Client) : Call (Machine τ) (List GattService) := fun m =>
  let (reply, host) := link.central.services client m.host
  (reply, { m with host })

def services (link : Link τ) : Call (Machine τ) (List Service) :=
  link.withClient .serviceDiscoveryFailed fun client m =>
    let (reply, m) := link.table client m
    (wrapReply .linkServices
      { reply with result := reply.result.map (List.map GattService.described) }, m)

/-- Looks up a characteristic in the table and makes a call with it. -/
def withCharacteristic (link : Link τ) (client : Client) (service characteristic : String)
    (call : String → Call (Machine τ) Unit) : Call (Machine τ) Unit := fun m =>
  let (reply, m) := link.table client m
  match reply.result.bind fun table => resolve table service characteristic with
  | .error f => (⟨reply.occurrences, .error f⟩, m)
  | .ok found =>
    let (next, m) := call found.uuid m
    ({ next with occurrences := reply.occurrences ++ next.occurrences }, m)

/-- Whether a subscription has to insist on indications; other platforms choose them on
    their own where there are no notifications. -/
def insists (link : Link τ) (mode : SubscriptionMode) : Bool :=
  mode == .indicate && link.platform == "win32"

def subscribe (link : Link τ) (service characteristic : String) (mode : SubscriptionMode) :
    Call (Machine τ) Unit :=
  link.withClient .subscriptionFailed fun client m =>
    let (reply, m) := link.withCharacteristic client service characteristic (fun uuid =>
      onHost (.client client.number (.startNotify uuid (link.insists mode)))
        (link.central.startNotify client uuid)) m
    (wrapReply (.linkSubscribe mode characteristic) reply, m)

def unsubscribe (link : Link τ) (service characteristic : String) : Call (Machine τ) Unit :=
  link.withClient .unsubscribeFailed fun client m =>
    let (reply, m) := link.withCharacteristic client service characteristic (fun uuid =>
      onHost (.client client.number (.stopNotify uuid)) (link.central.stopNotify client uuid)) m
    (wrapReply (.linkUnsubscribe characteristic) reply, m)

def peripheral (link : Link τ) : Peripheral (Machine τ) where
  address := link.device.address
  connect := link.connect
  disconnect := link.disconnect
  services := link.services
  subscribe := link.subscribe
  unsubscribe := link.unsubscribe

end Link

end BezelStream.Radio
