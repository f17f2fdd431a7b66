import BezelStream.Proofs.Session.Dealings
import BezelStream.Radio.Link

/-! # Watching the clients

Of a client the host sees every dealing with it, also a look at its table, of which nobody is told.
A host that is `Watched` keeps a log of them. Nothing else changes by that: what a link answers, and
which client it holds, is the same whether or not its clients are watched.
-/

namespace BezelStream

/-- A call of a peripheral by its name, of whose value it is only kept that there is one. -/
def Peripheral.answer {σ : Type} (peripheral : Peripheral σ) : PeripheralCall → Call σ Unit
  | .connect => peripheral.connect
  | .disconnect => peripheral.disconnect
  | .services => fun env =>
    let (reply, env) := peripheral.services env
    ({ reply with result := reply.result.map fun _ => () }, env)
  | .subscribe service characteristic mode => peripheral.subscribe service characteristic mode
  | .unsubscribe service characteristic => peripheral.unsubscribe service characteristic

/-- Calls of a peripheral one after another, added to those that were made before. -/
def Peripheral.follow {σ : Type} (peripheral : Peripheral σ) (calls : List PeripheralCall)
    (now : List Exchange × σ) : List Exchange × σ :=
  calls.foldl (fun (history, env) call =>
    let (reply, env) := peripheral.answer call env
    (history ++ [(call, faultOf? reply.result)], env)) now

namespace Radio

variable {τ α : Type}

/-- What is dealt with a client for. -/
inductive Purpose where
  | connect
  | disconnect
  | services
  | startNotify (uuid : String)
  | stopNotify (uuid : String)
  deriving Repr, DecidableEq

/-- A dealing with the client of a number, with the fault if it failed. -/
structure Handling where
  client : Nat
  purpose : Purpose
  fault : Option Fault
  deriving Repr

/-- A host with a log of all dealings with its clients. -/
structure Watched (τ : Type) where
  host : τ
  log : List Handling := []

/-- A call of a client that is put in the log. -/
def watched (client : Client) (purpose : Purpose) (call : Call τ α) : Call (Watched τ) α :=
  fun w =>
    let (reply, host) := call w.host
    (reply, ⟨host, w.log ++ [⟨client.number, purpose, faultOf? reply.result⟩]⟩)

def Central.watched (central : Central τ) : Central (Watched τ) where
  connect client := Radio.watched client .connect (central.connect client)
  disconnect client := Radio.watched client .disconnect (central.disconnect client)
  services client := Radio.watched client .services (central.services client)
  startNotify client uuid :=
    Radio.watched client (.startNotify uuid) (central.startNotify client uuid)
  stopNotify client uuid :=
    Radio.watched client (.stopNotify uuid) (central.stopNotify client uuid)

def Link.watched (link : Link τ) : Link (Watched τ) where
  device := link.device
  central := link.central.watched
  platform := link.platform
  connectTimeout := link.connectTimeout

def Machine.unwatched (m : Machine (Watched τ)) : Machine τ where
  host := m.host.host
  held := m.held
  made := m.made

/-- The call does the same as another, apart from what it puts in the log. -/
def Mirrors (call : Call (Machine τ) α) (other : Call (Machine (Watched τ)) α) : Prop :=
  ∀ m, call m.unwatched = ((other m).1, (other m).2.unwatched)

namespace Link

variable (link : Link τ)

theorem withClient_mirrors {failure : Failure} {call : Client → Call (Machine τ) α}
    {other : Client → Call (Machine (Watched τ)) α}
    (mirrors : ∀ client, Mirrors (call client) (other client)) :
    Mirrors (link.withClient failure call) (link.watched.withClient failure other) := by
  intro m
  obtain ⟨host, held, made⟩ := m
  cases held with
  | none => rfl
  | some client => exact mirrors client ⟨host, some client, made⟩

theorem table_mirrors (client : Client) : Mirrors (link.table client) (link.watched.table client) :=
  fun _ => rfl

theorem withCharacteristic_mirrors (client : Client) (service characteristic : String)
    (call : String → Call (Machine τ) Unit) (other : String → Call (Machine (Watched τ)) Unit)
    (mirrors : ∀ uuid, Mirrors (call uuid) (other uuid)) :
    Mirrors (link.withCharacteristic client service characteristic call)
      (link.watched.withCharacteristic client service characteristic other) := by
  intro m
  unfold withCharacteristic
  rw [link.table_mirrors client m]
  dsimp only
  cases (link.watched.table client m).1.result.bind fun table =>
      resolve table service characteristic with
  | error f => rfl
  | ok found =>
      dsimp only
      rw [mirrors found.uuid]

theorem connect_mirrors : Mirrors link.connect link.watched.connect :=
  fun _ => rfl

theorem disconnect_mirrors : Mirrors link.disconnect link.watched.disconnect := by
  intro m
  obtain ⟨host, held, made⟩ := m
  cases held <;> rfl

theorem services_mirrors : Mirrors link.services link.watched.services :=
  link.withClient_mirrors fun _ _ => rfl

theorem subscribe_mirrors (service characteristic : String) (mode : SubscriptionMode) :
    Mirrors (link.subscribe service characteristic mode)
      (link.watched.subscribe service characteristic mode) := by
  apply link.withClient_mirrors
  intro client m
  have mirrors := link.withCharacteristic_mirrors client service characteristic
    (fun uuid => onHost (.client client.number (.startNotify uuid (link.insists mode)))
      (link.central.startNotify client uuid))
    (fun uuid => onHost (.client client.number (.startNotify uuid (link.insists mode)))
      (link.watched.central.startNotify client uuid)) (fun _ _ => rfl) m
  dsimp only
  rw [mirrors]
  rfl

theorem unsubscribe_mirrors (service characteristic : String) :
    Mirrors (link.unsubscribe service characteristic)
      (link.watched.unsubscribe service characteristic) := by
  apply link.withClient_mirrors
  intro client m
  have mirrors := link.withCharacteristic_mirrors client service characteristic
    (fun uuid => onHost (.client client.number (.stopNotify uuid))
      (link.central.stopNotify client uuid))
    (fun uuid => onHost (.client client.number (.stopNotify uuid))
      (link.watched.central.stopNotify client uuid)) (fun _ _ => rfl) m
  dsimp only
  rw [mirrors]

theorem answer_mirrors (call : PeripheralCall) :
    Mirrors (link.peripheral.answer call) (link.watched.peripheral.answer call) := by
  cases call with
  | connect => exact link.connect_mirrors
  | disconnect => exact link.disconnect_mirrors
  | services =>
      intro m
      have mirrors := link.services_mirrors m
      simp only [Peripheral.answer, peripheral, mirrors]
  | subscribe service characteristic mode =>
      exact link.subscribe_mirrors service characteristic mode
  | unsubscribe service characteristic => exact link.unsubscribe_mirrors service characteristic

theorem follow_mirrors (calls : List PeripheralCall) (history : List Exchange)
    (m : Machine (Watched τ)) :
    link.peripheral.follow calls (history, m.unwatched) =
      let ended := link.watched.peripheral.follow calls (history, m)
      (ended.1, ended.2.unwatched) := by
  induction calls generalizing history m with
  | nil => rfl
  | cons call rest ih =>
      have mirrors := link.answer_mirrors call m
      simpa only [Peripheral.follow, List.foldl_cons, mirrors] using ih _ _

end Link

end Radio

end BezelStream
