import BezelStream.Proofs.Radio.Air
import BezelStream.Proofs.Radio.Failing
import BezelStream.Proofs.Session.Abreast
import BezelStream.Proofs.Session.Conducting
import BezelStream.Radio.Link

/-! # Calls of a peripheral on the air

What a link makes of a call of its peripheral is put in `Relay`: which calls of the radio are
on the air, and what becomes of the client. From the calls that a run makes of the peripheral
follows then what is on the air of its client, which is `Served`.
-/

namespace BezelStream.Radio

variable {τ : Type}

/-- A client comes into being for a link. -/
def Link.created (link : Link τ) (number : Nat) : Event :=
  .radio (.client number
    (.create link.device.hasHandle link.device.address link.connectTimeout))

/-- What a link makes of a call of its peripheral that ends so. -/
inductive Relay (link : Link τ) : Line → Exchange → List Event → Line → Prop where
  | connected (held : Option Client) (made : Nat) :
      Relay link ⟨held, made⟩ (.connect, none)
        (link.created made :: dialled (.client made .connect) none)
        ⟨some ⟨made, link.device.address⟩, made + 1⟩
  | unconnected (held : Option Client) (made : Nat) (f g : Fault) :
      Relay link ⟨held, made⟩ (.connect, some f)
        (link.created made :: dialled (.client made .connect) (some g)) ⟨held, made + 1⟩
  | disconnected (client : Client) (made : Nat) (fault ended : Option Fault) :
      Relay link ⟨some client, made⟩ (.disconnect, fault)
        (dialled (.client client.number .disconnect) ended) ⟨none, made⟩
  | absent (made : Nat) : Relay link ⟨none, made⟩ (.disconnect, none) [] ⟨none, made⟩
  | queried (line : Line) (fault : Option Fault) : Relay link line (.services, fault) [] line
  /-- Without a client or without the characteristic nothing is asked of the radio. -/
  | unsubscribable (line : Line) (service characteristic : String) (mode : SubscriptionMode)
      (f : Fault) : Relay link line (.subscribe service characteristic mode, some f) [] line
  | subscribed (client : Client) (made : Nat) (service characteristic : String)
      (mode : SubscriptionMode) {fault ended : Option Fault} (alike : fault = none ↔ ended = none) :
      Relay link ⟨some client, made⟩ (.subscribe service characteristic mode, fault)
        (dialled (.client client.number (.startNotify characteristic (link.insists mode))) ended)
        ⟨some client, made⟩
  | unfound (line : Line) (service characteristic : String) (f : Fault) :
      Relay link line (.unsubscribe service characteristic, some f) [] line
  | unsubscribed (client : Client) (made : Nat) (service characteristic : String)
      (fault ended : Option Fault) :
      Relay link ⟨some client, made⟩ (.unsubscribe service characteristic, fault)
        (dialled (.client client.number (.stopNotify characteristic)) ended) ⟨some client, made⟩

theorem uuid_of_resolve {table : List GattService} {service characteristic : String}
    {found : GattCharacteristic} (resolved : resolve table service characteristic = .ok found) :
    found.uuid = characteristic := by
  unfold resolve at resolved
  split at resolved
  · cases resolved
  · split at resolved
    · cases resolved
    case h_2 found listed =>
      cases resolved
      exact eq_of_beq (List.find?_some (p := fun c : GattCharacteristic => c.uuid == characteristic) listed)

theorem faultOf_mapError {α : Type} (wrap : Fault → Fault) (result : Except Fault α) :
    faultOf? (result.mapError wrap) = none ↔ faultOf? result = none := by
  cases result <;> simp [faultOf?, Except.mapError]

namespace Link

variable {link : Link τ} (off : link.central.Each Call.OffAir)

include off

theorem connect_relays (m : Machine τ) :
    Relay link m.line (.connect, faultOf? (link.connect m).1.result)
      (airedBy (link.connect m).1.occurrences) (link.connect m).2.line := by
  obtain ⟨occurrences, host, dials, aired⟩ :=
    onHost_dials (off.connect ⟨m.made, link.device.address⟩) (.client m.made .connect)
      { m with made := m.made + 1 }
  unfold connect
  simp only [dials]
  cases ended : (link.central.connect ⟨m.made, link.device.address⟩ m.host).1.result with
  | ok =>
      rw [ended] at aired
      change Relay link m.line _ (link.created m.made :: airedBy occurrences) _
      rw [aired]
      exact .connected m.held m.made
  | error g =>
      rw [ended] at aired
      change Relay link m.line _ (link.created m.made :: airedBy occurrences) _
      rw [aired]
      exact .unconnected m.held m.made _ g

theorem disconnect_relays (m : Machine τ) :
    Relay link m.line (.disconnect, faultOf? (link.disconnect m).1.result)
      (airedBy (link.disconnect m).1.occurrences) (link.disconnect m).2.line := by
  obtain ⟨host, held, made⟩ := m
  cases held with
  | none => exact .absent made
  | some client =>
      obtain ⟨occurrences, after, dials, aired⟩ := onHost_dials (off.disconnect client)
        (.client client.number .disconnect) ⟨host, none, made⟩
      unfold disconnect
      simp only [dials]
      change Relay link _ _ (airedBy occurrences) _
      rw [aired]
      exact .disconnected client made _ _

theorem services_relays (m : Machine τ) :
    Relay link m.line (.services, faultOf? (link.services m).1.result)
      (airedBy (link.services m).1.occurrences) (link.services m).2.line := by
  obtain ⟨host, held, made⟩ := m
  cases held with
  | none => exact .queried _ _
  | some client =>
      have silent : airedBy (link.services ⟨host, some client, made⟩).1.occurrences = [] :=
        off.services client host
      rw [silent]
      exact .queried _ _

/-- A call with a characteristic is one call of the radio with the one that was named, or has
    failed before. -/
theorem withCharacteristic_dials (client : Client) (service characteristic : String)
    (event : String → RadioCall) {call : String → Call τ Unit} (offAir : ∀ uuid, (call uuid).OffAir)
    (m : Machine τ) :
    let ended := link.withCharacteristic client service characteristic
      (fun uuid => onHost (event uuid) (call uuid)) m
    ended.2.line = m.line ∧
      ((∃ f, ended.1.result = .error f ∧ airedBy ended.1.occurrences = []) ∨
        airedBy ended.1.occurrences =
          dialled (event characteristic) (faultOf? ended.1.result)) := by
  intro ended
  have silent : airedBy (link.table client m).1.occurrences = [] := off.services client m.host
  cases found : (link.table client m).1.result.bind fun table =>
      resolve table service characteristic with
  | error f =>
      have whole : ended = (⟨(link.table client m).1.occurrences, .error f⟩,
          (link.table client m).2) := by
        simp only [ended, withCharacteristic, found]
      rw [whole]
      exact ⟨rfl, .inl ⟨f, rfl, silent⟩⟩
  | ok resolved =>
      have named : resolved.uuid = characteristic := by
        cases listed : (link.table client m).1.result with
        | error f =>
            rw [listed] at found
            cases found
        | ok table =>
            rw [listed] at found
            exact uuid_of_resolve found
      obtain ⟨occurrences, host, dials, aired⟩ := onHost_dials (offAir characteristic)
        (event characteristic) (link.table client m).2
      have whole : ended = (⟨(link.table client m).1.occurrences ++ occurrences,
          (call characteristic (link.table client m).2.host).1.result⟩,
          { (link.table client m).2 with host }) := by
        simp only [ended, withCharacteristic, found, named, dials]
      rw [whole, airedBy_append, silent]
      exact ⟨rfl, .inr aired⟩

theorem subscribe_relays (service characteristic : String) (mode : SubscriptionMode)
    (m : Machine τ) :
    Relay link m.line (.subscribe service characteristic mode,
        faultOf? (link.subscribe service characteristic mode m).1.result)
      (airedBy (link.subscribe service characteristic mode m).1.occurrences)
      (link.subscribe service characteristic mode m).2.line := by
  obtain ⟨host, held, made⟩ := m
  cases held with
  | none => exact .unsubscribable ..
  | some client =>
      have dials := withCharacteristic_dials off client service characteristic
        (fun uuid => .client client.number (.startNotify uuid (link.insists mode)))
        (off.startNotify client) ⟨host, some client, made⟩
      unfold subscribe withClient
      dsimp only at dials ⊢
      generalize link.withCharacteristic client service characteristic _ _ = ended at dials ⊢
      obtain ⟨⟨occurrences, result⟩, later⟩ := ended
      obtain ⟨line, ⟨f, failed, silent⟩ | aired⟩ := dials
      · dsimp only at line failed silent
        subst failed
        change Relay link _ _ (airedBy occurrences) later.line
        rw [silent, line]
        exact .unsubscribable ..
      · change Relay link _ _ (airedBy occurrences) later.line
        rw [aired, line]
        exact .subscribed client made service characteristic mode (faultOf_mapError _ _)

theorem unsubscribe_relays (service characteristic : String) (m : Machine τ) :
    Relay link m.line (.unsubscribe service characteristic,
        faultOf? (link.unsubscribe service characteristic m).1.result)
      (airedBy (link.unsubscribe service characteristic m).1.occurrences)
      (link.unsubscribe service characteristic m).2.line := by
  obtain ⟨host, held, made⟩ := m
  cases held with
  | none => exact .unfound ..
  | some client =>
      have dials := withCharacteristic_dials off client service characteristic
        (fun uuid => .client client.number (.stopNotify uuid)) (off.stopNotify client)
        ⟨host, some client, made⟩
      unfold unsubscribe withClient
      dsimp only at dials ⊢
      generalize link.withCharacteristic client service characteristic _ _ = ended at dials ⊢
      obtain ⟨⟨occurrences, result⟩, later⟩ := ended
      obtain ⟨line, ⟨f, failed, silent⟩ | aired⟩ := dials
      · dsimp only at line failed silent
        subst failed
        change Relay link _ _ (airedBy occurrences) later.line
        rw [silent, line]
        exact .unfound ..
      · change Relay link _ _ (airedBy occurrences) later.line
        rw [aired, line]
        exact .unsubscribed client made service characteristic _ _

/-- A link relays all that a session asks of its peripheral. -/
theorem relays {s : Session (Machine τ)} (linked : s.peripheral = link.peripheral) {α : Type}
    {call : PeripheralCall} {answer : Call (Machine τ) α} (asks : s.Asks call answer)
    (m : Machine τ) :
    Relay link m.line (call, faultOf? (answer m).1.result) (airedBy (answer m).1.occurrences)
      (answer m).2.line := by
  cases asks <;> rw [linked]
  case connect => exact connect_relays off m
  case disconnect => exact disconnect_relays off m
  case services => exact services_relays off m
  case subscribe service characteristic mode =>
    exact subscribe_relays off service characteristic mode m
  case unsubscribe service characteristic => exact unsubscribe_relays off service characteristic m

end Link

/-! ## Whole runs -/

/-- What a link makes of calls of its peripheral in turn. -/
inductive Relays (link : Link τ) : Line → List Exchange → List Event → Line → Prop where
  | nil (line : Line) : Relays link line [] [] line
  | cons {a b c : Line} {x : Exchange} {exchanged : List Exchange} {air more : List Event}
      (relay : Relay link a x air b) (rest : Relays link b exchanged more c) :
      Relays link a (x :: exchanged) (air ++ more) c

/-- What is on the air of a client, from its first call on. -/
inductive Served (number : Nat) : List Event → Prop where
  | unconnected (f : Fault) : Served number (dialled (.client number .connect) (some f))
  | unsubscribed (fault : Option Fault) :
      Served number
        (dialled (.client number .connect) none ++ dialled (.client number .disconnect) fault)
  | refused (uuid : String) (insist : Bool) (f : Fault) (fault : Option Fault) :
      Served number
        (dialled (.client number .connect) none ++
          dialled (.client number (.startNotify uuid insist)) (some f) ++
          dialled (.client number .disconnect) fault)
  /-- What was started is stopped once at most, and nothing else is. -/
  | streamed (uuid : String) (insist : Bool) {stops : List Event}
      (once : stops = [] ∨ ∃ ending, stops = dialled (.client number (.stopNotify uuid)) ending)
      (fault : Option Fault) :
      Served number
        (dialled (.client number .connect) none ++
          dialled (.client number (.startNotify uuid insist)) none ++ stops ++
          dialled (.client number .disconnect) fault)

namespace Relays

variable {link : Link τ} {a b c : Line} {left right : List Exchange} {air more : List Event}

theorem append (first : Relays link a left air b) (rest : Relays link b right more c) :
    Relays link a (left ++ right) (air ++ more) c := by
  induction first with
  | nil => exact rest
  | cons relay _ ih =>
      rw [List.cons_append, List.append_assoc]
      exact .cons relay (ih rest)

theorem single {x : Exchange} (relay : Relay link a x air b) : Relays link a [x] air b := by
  have alone := cons relay (.nil b)
  rwa [List.append_nil] at alone

theorem of_append (relays : Relays link a (left ++ right) air c) :
    ∃ b before after, air = before ++ after ∧ Relays link a left before b ∧
      Relays link b right after c := by
  induction left generalizing a air with
  | nil => exact ⟨a, [], air, rfl, .nil a, relays⟩
  | cons x rest ih =>
      cases relays with
      | cons relay relays =>
          obtain ⟨b, before, after, rfl, first, last⟩ := ih relays
          exact ⟨b, _, after, (List.append_assoc _ _ _).symm, .cons relay first, last⟩

/-- Asking for services is not on the air. -/
theorem of_queries (only : Session.Queries left) (relays : Relays link a left air b) :
    air = [] ∧ b = a := by
  induction relays with
  | nil => exact ⟨rfl, rfl⟩
  | cons relay _ ih =>
      obtain ⟨fault, rfl⟩ := only _ List.mem_cons_self
      obtain ⟨rfl, rfl⟩ := ih fun x member => only x (List.mem_cons_of_mem _ member)
      cases relay
      exact ⟨rfl, rfl⟩

/-- What follows once a run has connected and asked for services. -/
theorem of_connected {queries : List Exchange} {made : Nat} (only : Session.Queries queries)
    (relays : Relays link ⟨none, made⟩ ((.connect, none) :: queries ++ right) air b) :
    ∃ after, air = link.created made :: (dialled (.client made .connect) none ++ after) ∧
      Relays link ⟨some ⟨made, link.device.address⟩, made + 1⟩ right after b := by
  cases relays with
  | cons relay rest =>
      cases relay
      obtain ⟨c, before, after, rfl, asks, rest⟩ := of_append rest
      obtain ⟨rfl, rfl⟩ := of_queries only asks
      exact ⟨after, rfl, rest⟩

theorem of_disconnect {client : Client} {made : Nat} {fault : Option Fault}
    (relays : Relays link ⟨some client, made⟩ [(.disconnect, fault)] air b) :
    ∃ ended, air = dialled (.client client.number .disconnect) ended := by
  cases relays with
  | cons relay rest =>
      cases rest
      cases relay with
      | disconnected _ _ _ ended => exact ⟨ended, List.append_nil _⟩

/-- The calls of a run that begins without a client come to one client, which is made and
    served. -/
theorem served {exchanged : List Exchange} {made : Nat}
    (conducts : Session.Conducts exchanged) (relays : Relays link ⟨none, made⟩ exchanged air b) :
    ∃ life, air = link.created made :: life ∧ Served made life := by
  cases conducts with
  | unconnected f =>
      cases relays with
      | cons relay rest =>
          cases rest
          cases relay with
          | unconnected _ _ _ g => exact ⟨_, rfl, .unconnected g⟩
  | queried only fault =>
      obtain ⟨after, rfl, rest⟩ := of_connected only relays
      obtain ⟨ended, rfl⟩ := of_disconnect rest
      exact ⟨_, rfl, .unsubscribed ended⟩
  | refused only service characteristic mode f fault =>
      obtain ⟨after, rfl, rest⟩ := of_connected only relays
      cases rest with
      | cons relay rest =>
          cases relay with
          | unsubscribable =>
              obtain ⟨ended, rfl⟩ := of_disconnect rest
              exact ⟨_, rfl, .unsubscribed ended⟩
          | @subscribed _ _ _ _ _ _ started alike =>
              obtain ⟨ended, rfl⟩ := of_disconnect rest
              cases started with
              | none => cases alike.mpr rfl
              | some g =>
                  refine ⟨_, rfl, ?_⟩
                  rw [← List.append_assoc]
                  exact .refused characteristic _ g ended
  | streamed only service characteristic mode ending fault =>
      obtain ⟨after, rfl, rest⟩ := of_connected only relays
      cases rest with
      | cons relay rest =>
          cases relay with
          | @subscribed _ _ _ _ _ _ started alike =>
              cases alike.mp rfl
              cases rest with
              | cons relay rest =>
                  refine ⟨_, rfl, ?_⟩
                  rw [← List.append_assoc, ← List.append_assoc]
                  cases relay with
                  | unfound =>
                      obtain ⟨ended, rfl⟩ := of_disconnect rest
                      exact .streamed characteristic _ (.inl rfl) ended
                  | unsubscribed _ _ _ _ _ stopped =>
                      obtain ⟨ended, rfl⟩ := of_disconnect rest
                      exact .streamed characteristic _ (.inr ⟨stopped, rfl⟩) ended

end Relays

end BezelStream.Radio
