import BezelStream.Proofs.Session.Standing

/-! # What the steps of a session can come to

For each step there is a relation between the standing before it, the dealings it adds,
how it ends, and the standing after it, with a constructor for every way it can go. The
relations know nothing of the collaborators, which may answer what they like.
-/

namespace BezelStream.Session

/-- What a step can come to: from a standing, by dealings, with an end, to a standing. -/
abbrev Outcomes (α : Type) := Standing → List Dealing → Except Fault α → Standing → Prop

/-- How something without a value ended. -/
def endedWith : Option Fault → Except Fault Unit
  | none => .ok ()
  | some f => .error f

/-- What a step and the next one come to in turn. A fault of the first is the end. -/
inductive InTurn {α β : Type} (first : Outcomes α) (next : α → Outcomes β) (a : Standing) :
    List Dealing → Except Fault β → Standing → Prop where
  | failed {log : List Dealing} {f : Fault} {b : Standing} (failed : first a log (.error f) b) :
      InTurn first next a log (.error f) b
  | passed {log more : List Dealing} {value : α} {result : Except Fault β} {b c : Standing}
      (passed : first a log (.ok value) b) (ended : next value b more result c) :
      InTurn first next a (log ++ more) result c

/-- A value is given at once. -/
inductive GivesAtOnce {α : Type} (value : α) (a : Standing) :
    List Dealing → Except Fault α → Standing → Prop where
  | given : GivesAtOnce value a [] (.ok value) a

/-- What connecting can come to. -/
inductive Connects (a : Standing) : List Dealing → Except Fault Unit → Standing → Prop where
  | refused (begun : a.state ≠ .idle) :
      Connects a [] (.error (.cannotConnect a.state)) a
  | failed (idle : a.state = .idle) (f : Fault) :
      Connects a [.exchange (.connect, some f)]
        (.error (f.asFailure .connectionFailed .connection)) a
  | connected (idle : a.state = .idle) :
      Connects a [.exchange (.connect, none)] (.ok ()) { a with state := .connected }

/-- What discovering the services can come to. -/
inductive Discovers (a : Standing) :
    List Dealing → Except Fault (List Service) → Standing → Prop where
  | refused (other : a.state ≠ .connected) :
      Discovers a [] (.error (.wrongState a.state .connected)) a
  | failed (ready : a.state = .connected) (f : Fault) :
      Discovers a [.exchange (.services, some f)]
        (.error (f.asFailure .serviceDiscoveryFailed .discovery)) a
  | discovered (ready : a.state = .connected) (services : List Service) :
      Discovers a [.exchange (.services, none)] (.ok services)
        { a with state := .servicesDiscovered }

/-- What locating the characteristic can come to. -/
inductive Locates (wanted : String) (services : List Service) (a : Standing) :
    List Dealing → Except Fault (String × String) → Standing → Prop where
  | refused (other : a.state ≠ .servicesDiscovered) :
      Locates wanted services a [] (.error (.wrongState a.state .servicesDiscovered)) a
  | missed (ready : a.state = .servicesDiscovered)
      (absent : findCharacteristic? wanted services = none) (told : List Dealing)
      (words : ∀ d ∈ told, ∃ text fault, d = .told text fault) (f : Fault) :
      Locates wanted services a told (.error f) a
  | located (ready : a.state = .servicesDiscovered) {service : Service}
      {characteristic : Characteristic}
      (found : findCharacteristic? wanted services = some (service, characteristic)) :
      Locates wanted services a [] (.ok (service.uuid, characteristic.uuid))
        { a with
          state := .characteristicFound
          target := some (service.uuid, characteristic.uuid) }

/-- What subscribing can come to. An interrupt of the peripheral's own subscribing leaves
    the pump running that was started before. -/
inductive Subscribes (a : Standing) :
    List Dealing → Except Fault Subscription → Standing → Prop where
  | refused (other : a.state ≠ .characteristicFound) :
      Subscribes a [] (.error (.wrongState a.state .characteristicFound)) a
  | unlocated (ready : a.state = .characteristicFound) (nothing : a.target = none) :
      Subscribes a [] (.error .nothingLocated) a
  | unlisted (ready : a.state = .characteristicFound) (f : Fault) :
      Subscribes a [.exchange (.services, some f)]
        (.error (f.asFailure .serviceDiscoveryFailed .discovery)) a
  | unfit (ready : a.state = .characteristicFound) (f : Fault) :
      Subscribes a [.exchange (.services, none)] (.error f) a
  | failed (ready : a.state = .characteristicFound) {service characteristic : String}
      (target : a.target = some (service, characteristic)) (mode : SubscriptionMode) (f : Fault) :
      Subscribes a
        [.exchange (.services, none),
          .exchange (.subscribe service characteristic mode, some f)]
        (.error (f.asFailure .subscriptionFailed .subscription))
        { a with running := !f.isOrdinary }
  | subscribed (ready : a.state = .characteristicFound) {service characteristic : String}
      (target : a.target = some (service, characteristic)) (mode : SubscriptionMode) :
      Subscribes a
        [.exchange (.services, none), .exchange (.subscribe service characteristic mode, none)]
        (.ok ⟨service, characteristic, mode⟩)
        { a with
          state := .subscribed
          subscription := some ⟨service, characteristic, mode⟩
          running := true }

/-- What subscribing to a located pair comes to where the peripheral answers so when it is asked
    for its services again: what counts is the first characteristic of its name that is listed
    now, and how that one sends. -/
inductive SubscribesTo (service characteristic : String) (a : Standing) :
    Except Fault (List Service) → List Dealing → Except Fault Subscription → Standing → Prop where
  | unlisted (f : Fault) :
      SubscribesTo service characteristic a (.error f) [.exchange (.services, some f)]
        (.error (f.asFailure .serviceDiscoveryFailed .discovery)) a
  | gone {live : List Service}
      (absent : findCharacteristic? characteristic (servicesNamed service live) = none) :
      SubscribesTo service characteristic a (.ok live) [.exchange (.services, none)]
        (.error (.characteristicGone characteristic service)) a
  | unfit {live : List Service} {s : Service} {c : Characteristic}
      (found : findCharacteristic? characteristic (servicesNamed service live) = some (s, c))
      (silent : c.mode? = none) :
      SubscribesTo service characteristic a (.ok live) [.exchange (.services, none)]
        (.error (.sendsNothing characteristic)) a
  | failed {live : List Service} {s : Service} {c : Characteristic} {mode : SubscriptionMode}
      (found : findCharacteristic? characteristic (servicesNamed service live) = some (s, c))
      (sends : c.mode? = some mode) (f : Fault) :
      SubscribesTo service characteristic a (.ok live)
        [.exchange (.services, none),
          .exchange (.subscribe service characteristic mode, some f)]
        (.error (f.asFailure .subscriptionFailed .subscription))
        { a with running := !f.isOrdinary }
  | subscribed {live : List Service} {s : Service} {c : Characteristic} {mode : SubscriptionMode}
      (found : findCharacteristic? characteristic (servicesNamed service live) = some (s, c))
      (sends : c.mode? = some mode) :
      SubscribesTo service characteristic a (.ok live)
        [.exchange (.services, none), .exchange (.subscribe service characteristic mode, none)]
        (.ok ⟨service, characteristic, mode⟩)
        { a with
          state := .subscribed
          subscription := some ⟨service, characteristic, mode⟩
          running := true }

/-- Whatever the peripheral answers, subscribing comes to one of the outcomes. -/
theorem SubscribesTo.subscribes {a b : Standing} {service characteristic : String}
    {answer : Except Fault (List Service)} {log : List Dealing}
    {result : Except Fault Subscription} (ready : a.state = .characteristicFound)
    (target : a.target = some (service, characteristic))
    (subscribes : SubscribesTo service characteristic a answer log result b) :
    Subscribes a log result b := by
  cases subscribes with
  | unlisted f => exact .unlisted ready f
  | gone | unfit => exact .unfit ready _
  | failed _ _ f => exact .failed ready target _ f
  | subscribed => exact .subscribed ready target _

/-- What telling something can come to: only someone outside can fail to be told. -/
inductive Tells (a : Standing) : List Dealing → Except Fault Unit → Standing → Prop where
  | unheard : Tells a [] (.ok ()) a
  | told (text : String) (result : Except Fault Unit) :
      Tells a [.told text (faultOf? result)] result a

/-- What waiting can come to. -/
inductive Waits (a : Standing) : List Dealing → Except Fault Unit → Standing → Prop where
  | waited (result : Except Fault Unit) : Waits a [.wait a.state] result a

/-- What is told of the end of a subscription, and the fault that is left over: an ordinary
    one is told instead of being passed on, and only telling it can leave a fault then. -/
inductive Reports : Option Fault → List Dealing → Option Fault → Prop where
  | ended : Reports none [] none
  | interrupted {f : Fault} (interrupt : f.isOrdinary = false) : Reports (some f) [] (some f)
  | unheard {f : Fault} (ordinary : f.isOrdinary = true) : Reports (some f) [] none
  | told {f : Fault} (ordinary : f.isOrdinary = true) (fault : Option Fault) :
      Reports (some f)
        [.told ("Unsubscribe failed (continuing): " ++
          (f.asFailure .unsubscribeFailed .unsubscription).message) fault] fault

theorem Reports.words {ending left : Option Fault} {told : List Dealing}
    (reports : Reports ending told left) : ∀ d ∈ told, ∃ text fault, d = .told text fault := by
  cases reports with
  | ended | interrupted | unheard => exact List.forall_mem_nil _
  | told => exact List.forall_mem_singleton.mpr ⟨_, _, rfl⟩

/-- What closing can come to. A fault of disconnecting hides what was left over before. -/
inductive Closes (a : Standing) : List Dealing → Except Fault Unit → Standing → Prop where
  | inert (past : a.Inert) : Closes a [] (.ok ()) a
  | disconnected (live : ¬ a.Inert)
      (bare : a.subscription = none) (fault : Option Fault) :
      Closes a [.exchange (.disconnect, fault)] (endedWith fault)
        { a with state := .disconnected }
  | unsubscribed (live : ¬ a.Inert)
      {subscription : Subscription} (held : a.subscription = some subscription)
      {ending left : Option Fault} {told : List Dealing} (report : Reports ending told left)
      (fault : Option Fault) :
      Closes a
        (.exchange (.unsubscribe subscription.service subscription.characteristic, ending) ::
          told ++ [.exchange (.disconnect, fault)])
        (endedWith (fault <|> left))
        { a with state := .disconnected, subscription := none, running := false }

end BezelStream.Session
