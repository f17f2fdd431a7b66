import BezelStream.Proofs.Radio.Air
import BezelStream.Proofs.Radio.Watching

/-! # Which client is held

A link holds a client from a connect that succeeded to the next disconnect, however that ends. What
can become of a call is put in `Handles`, with all dealings with clients that it comes to. From this
follows by induction what is so after any calls, in whatever order: which client is held, and that a
client that was to disconnect is left alone afterwards.
-/

namespace BezelStream

/-- The kind of failure that each call of a peripheral has for its own. -/
def PeripheralCall.failure : PeripheralCall → Failure
  | .connect | .disconnect => .connectionFailed
  | .services => .serviceDiscoveryFailed
  | .subscribe .. => .subscriptionFailed
  | .unsubscribe .. => .unsubscribeFailed

/-- Whether a client is to be held from now on. -/
def switch? : Exchange → Option Bool
  | (.connect, none) => some true
  | (.disconnect, _) => some false
  | _ => none

/-- A connect has succeeded, and there was no disconnect since. -/
def Connected (history : List Exchange) : Prop :=
  (history.filterMap switch?).getLast? = some true

theorem connected_append_of_none {history : List Exchange} {x : Exchange} (none : switch? x = none) :
    Connected (history ++ [x]) ↔ Connected history := by
  simp [Connected, none]

namespace Radio

variable {τ : Type} {link : Link τ} {call : PeripheralCall} {line next : Line}
  {fault : Option Fault} {log new : List Handling} {history : List Exchange}

/-- What a fault of a client is made of in the course of a call. -/
def Link.wrap (link : Link τ) : PeripheralCall → Fault → Fault
  | .connect => .linkConnect link.device.address
  | .disconnect => .linkDisconnect link.device.address
  | .services => .linkServices
  | .subscribe _ characteristic mode => .linkSubscribe mode characteristic
  | .unsubscribe _ characteristic => .linkUnsubscribe characteristic

theorem Link.failure_wrap (link : Link τ) (call : PeripheralCall) (f : Fault) :
    (link.wrap call f).failure? = some call.failure := by
  cases call <;> rfl

/-- The call is nothing to do without a client. -/
def UsesClient (call : PeripheralCall) : Prop :=
  call ≠ .connect ∧ call ≠ .disconnect

theorem switch_uses (uses : UsesClient call) (fault : Option Fault) : switch? (call, fault) = none := by
  obtain ⟨connect, disconnect⟩ := uses
  cases call with
  | connect => contradiction
  | disconnect => contradiction
  | services | subscribe | unsubscribe => rfl

/-- What can become of a call: the fault if it fails, and the dealings with clients. -/
inductive Handles (link : Link τ) (call : PeripheralCall) :
    Line → Option Fault → List Handling → Line → Prop where
  | connected (held : Option Client) (made : Nat) (connect : call = .connect) :
      Handles link call ⟨held, made⟩ none [⟨made, .connect, none⟩]
        ⟨some ⟨made, link.device.address⟩, made + 1⟩
  | unconnected (held : Option Client) (made : Nat) (f : Fault) (connect : call = .connect) :
      Handles link call ⟨held, made⟩ (some (f.wrapped (link.wrap call)))
        [⟨made, .connect, some f⟩] ⟨held, made + 1⟩
  | absent (made : Nat) (disconnect : call = .disconnect) :
      Handles link call ⟨none, made⟩ none [] ⟨none, made⟩
  | disconnected (client : Client) (made : Nat) (fault : Option Fault)
      (disconnect : call = .disconnect) :
      Handles link call ⟨some client, made⟩ (fault.map (Fault.wrapped (link.wrap call)))
        [⟨client.number, .disconnect, fault⟩] ⟨none, made⟩
  | refused (made : Nat) (uses : UsesClient call) :
      Handles link call ⟨none, made⟩ (some (.notConnected call.failure link.device.address)) []
        ⟨none, made⟩
  /-- The dealings are with the client that is held, and a fault of one of them is that of the
      call. -/
  | used (client : Client) (made : Nat) (fault : Option Fault) (new : List Handling)
      (uses : UsesClient call) (own : ∀ h ∈ new, h.client = client.number ∧ h.purpose ≠ .disconnect)
      (fails : ∀ h ∈ new, ∀ f, h.fault = some f → fault = some (f.wrapped (link.wrap call))) :
      Handles link call ⟨some client, made⟩ fault new ⟨some client, made⟩

/-- A call of a watched link, with what it puts in the log. -/
def Handled (link : Link τ) (call : PeripheralCall) (m : Machine (Watched τ)) : Prop :=
  let ended := link.watched.peripheral.answer call m
  ∃ new, ended.2.host.log = m.host.log ++ new ∧
    Handles link call m.line (faultOf? ended.1.result) new ended.2.line

/-- A call of a client that is watched is the call itself, put in the log. -/
theorem onHost_watched (event : RadioCall) (client : Client) (purpose : Purpose)
    (call : Call τ Unit) (m : Machine (Watched τ)) :
    ∃ reply host, onHost event (watched client purpose call) m =
      (reply, { m with
        host := ⟨host, m.host.log ++ [⟨client.number, purpose, faultOf? reply.result⟩]⟩ }) :=
  ⟨_, _, rfl⟩

/-- Without a client a call that needs one fails in its own way. -/
theorem Link.answer_refused (link : Link τ) {m : Machine τ} (none : m.held = none)
    (uses : UsesClient call) :
    link.peripheral.answer call m =
      (⟨[], .error (.notConnected call.failure link.device.address)⟩, m) := by
  obtain ⟨connect, disconnect⟩ := uses
  cases call with
  | connect => contradiction
  | disconnect => contradiction
  | services | subscribe | unsubscribe =>
      simp [Peripheral.answer, peripheral, services, subscribe, unsubscribe, withClient, none,
        PeripheralCall.failure, Except.map]

theorem Link.answer_absent (link : Link τ) {m : Machine τ} (none : m.held = none) :
    link.peripheral.answer .disconnect m = (⟨[], .ok ()⟩, m) := by
  simp [Peripheral.answer, peripheral, disconnect, none]

theorem faultOf_wrapReply {α : Type} (wrap : Fault → Fault) (reply : Reply α) :
    faultOf? (Link.wrapReply wrap reply).result =
      (faultOf? reply.result).map (Fault.wrapped wrap) := by
  obtain ⟨occurrences, result⟩ := reply
  cases result <;> rfl

theorem faultOf_map {α β : Type} (f : α → β) (result : Except Fault α) :
    faultOf? (result.map f) = faultOf? result := by
  cases result <;> rfl

/-- What lies between two points of a call: dealings with one client, which is not to disconnect.
    A fault in them is the end of it. -/
structure Tended (client : Client) (m : Machine (Watched τ)) (fault : Option Fault)
    (new : List Handling) (after : Machine (Watched τ)) : Prop where
  log : after.host.log = m.host.log ++ new
  line : after.line = m.line
  own : ∀ h ∈ new, h.client = client.number ∧ h.purpose ≠ .disconnect
  fails : ∀ h ∈ new, ∀ f, h.fault = some f → fault = some f

namespace Tended

variable {client : Client} {m after : Machine (Watched τ)}

theorem once (client : Client) {purpose : Purpose} (stays : purpose ≠ .disconnect)
    (fault : Option Fault) (m : Machine (Watched τ)) (host : τ) :
    Tended client m fault [⟨client.number, purpose, fault⟩]
      { m with host := ⟨host, m.host.log ++ [⟨client.number, purpose, fault⟩]⟩ } where
  log := rfl
  line := rfl
  own := by simp [stays]
  fails := by simp

/-- Nothing is dealt with after a fault. -/
theorem trans {between : Machine (Watched τ)} {more : List Handling}
    (first : Tended client m none new between) (rest : Tended client between fault more after) :
    Tended client m fault (new ++ more) after where
  log := by rw [rest.log, first.log, List.append_assoc]
  line := rest.line.trans first.line
  own := List.forall_mem_append.mpr ⟨first.own, rest.own⟩
  fails := by
    refine List.forall_mem_append.mpr ⟨fun h member f failed => ?_, rest.fails⟩
    exact absurd (first.fails h member f failed) nofun

/-- The fault of a call that came to nothing else may have other causes than its dealings. -/
theorem failed {f : Fault} (tended : Tended client m none new after) :
    Tended client m (some f) new after where
  log := tended.log
  line := tended.line
  own := tended.own
  fails h member g fault := absurd (tended.fails h member g fault) nofun

theorem handled {reply : Reply Unit} (tended : Tended client m fault new after)
    (held : m.held = some client) (uses : UsesClient call)
    (ended : link.watched.peripheral.answer call m = (reply, after))
    (wraps : faultOf? reply.result = fault.map (Fault.wrapped (link.wrap call))) :
    Handled link call m := by
  refine ⟨new, ?_, ?_⟩
  · rw [ended]
    exact tended.log
  · rw [ended, tended.line, wraps, Machine.line, held]
    refine .used client m.made _ new uses tended.own fun h member f failed => ?_
    rw [tended.fails h member f failed]
    rfl

end Tended

namespace Link

variable (link : Link τ)

theorem connect_handled (m : Machine (Watched τ)) : Handled link .connect m := by
  let client : Client := ⟨m.made, link.device.address⟩
  obtain ⟨reply, host, calls⟩ := onHost_watched (.client m.made .connect) client .connect
    (link.central.connect client) { m with made := m.made + 1 }
  refine ⟨_, congrArg (fun ended => ended.2.host.log) calls, ?_⟩
  change Handles link _ _ (faultOf? (link.watched.connect m).1.result) _
    (link.watched.connect m).2.line
  simp only [client] at calls
  simp only [connect, watched, Central.watched, calls, wrapReply]
  cases reply.result with
  | ok => exact .connected m.held m.made rfl
  | error f => exact .unconnected m.held m.made f rfl

theorem disconnect_handled (m : Machine (Watched τ)) : Handled link .disconnect m := by
  cases held : m.held with
  | none =>
      refine ⟨[], ?_, ?_⟩
      · simp [link.watched.answer_absent held]
      · rw [link.watched.answer_absent held, Machine.line, held]
        exact .absent m.made rfl
  | some client =>
      obtain ⟨reply, host, calls⟩ := onHost_watched (.client client.number .disconnect) client
        .disconnect (link.central.disconnect client) { m with held := none }
      refine ⟨[⟨client.number, .disconnect, faultOf? reply.result⟩], ?_, ?_⟩ <;>
        simp only [Peripheral.answer, peripheral, disconnect, watched, Central.watched, held, calls]
      rw [faultOf_wrapReply, Machine.line, held]
      exact .disconnected client m.made _ rfl

theorem table_watched (client : Client) (m : Machine (Watched τ)) :
    ∃ reply after, link.watched.table client m = (reply, after) ∧
      Tended client m (faultOf? reply.result) [⟨client.number, .services, faultOf? reply.result⟩]
        after := by
  refine ⟨(link.central.services client m.host.host).1, _, rfl, ?_⟩
  exact .once client Purpose.noConfusion _ m _

theorem withCharacteristic_watched (client : Client) (service characteristic : String)
    (event : String → RadioCall) (purpose : String → Purpose)
    (stays : ∀ uuid, purpose uuid ≠ .disconnect) (call : String → Call τ Unit)
    (m : Machine (Watched τ)) :
    ∃ reply new after, link.watched.withCharacteristic client service characteristic
        (fun uuid => onHost (event uuid) (Radio.watched client (purpose uuid) (call uuid))) m =
          (reply, after) ∧
      Tended client m (faultOf? reply.result) new after := by
  obtain ⟨reply, between, listed, tended⟩ := link.table_watched client m
  cases listing : reply.result with
  | error f =>
      rw [listing] at tended
      refine ⟨⟨reply.occurrences, .error f⟩, _, between, ?_, tended⟩
      simp only [withCharacteristic, listed, listing, Except.bind]
  | ok table =>
      rw [listing] at tended
      cases resolved : resolve table service characteristic with
      | error f =>
          refine ⟨⟨reply.occurrences, .error f⟩, _, between, ?_, tended.failed⟩
          simp only [withCharacteristic, listed, listing, Except.bind, resolved]
      | ok found =>
          obtain ⟨answer, host, calls⟩ := onHost_watched (event found.uuid) client
            (purpose found.uuid) (call found.uuid) between
          refine ⟨⟨reply.occurrences ++ answer.occurrences, answer.result⟩, _, _, ?_,
            tended.trans (.once client (stays found.uuid) (faultOf? answer.result) between host)⟩
          simp only [withCharacteristic, listed, listing, Except.bind, resolved, calls]

theorem services_handled {m : Machine (Watched τ)} {client : Client} (held : m.held = some client) :
    Handled link .services m := by
  obtain ⟨reply, after, listed, tended⟩ := link.table_watched client m
  have uses : UsesClient .services := ⟨nofun, nofun⟩
  apply tended.handled held uses
  · simp only [Peripheral.answer, peripheral, services, withClient, held, listed]
    rfl
  · rw [faultOf_map, faultOf_wrapReply, faultOf_map]
    rfl

/-- A call about a characteristic is handled if it is no more than a dealing with that. -/
theorem characteristic_handled {m : Machine (Watched τ)} {client : Client}
    (held : m.held = some client) (uses : UsesClient call) (service characteristic : String)
    (event : String → RadioCall) (purpose : String → Purpose)
    (stays : ∀ uuid, purpose uuid ≠ .disconnect) (act : String → Call τ Unit)
    (answers : link.watched.peripheral.answer call m =
      let ended := link.watched.withCharacteristic client service characteristic
        (fun uuid => onHost (event uuid) (Radio.watched client (purpose uuid) (act uuid))) m
      (wrapReply (link.wrap call) ended.1, ended.2)) : Handled link call m := by
  obtain ⟨reply, new, after, ended, tended⟩ := link.withCharacteristic_watched client service
    characteristic event purpose stays act m
  apply tended.handled held uses
  · rw [answers, ended]
  · exact faultOf_wrapReply _ reply

theorem subscribe_handled {m : Machine (Watched τ)} {client : Client} (held : m.held = some client)
    (service characteristic : String) (mode : SubscriptionMode) :
    Handled link (.subscribe service characteristic mode) m := by
  have uses : UsesClient (.subscribe service characteristic mode) := ⟨nofun, nofun⟩
  apply link.characteristic_handled held uses service characteristic
    (fun uuid => .client client.number (.startNotify uuid (link.insists mode))) .startNotify
    (fun _ => Purpose.noConfusion) (link.central.startNotify client)
  simp only [Peripheral.answer, peripheral, subscribe, withClient, held]
  rfl

theorem unsubscribe_handled {m : Machine (Watched τ)} {client : Client}
    (held : m.held = some client) (service characteristic : String) :
    Handled link (.unsubscribe service characteristic) m := by
  have uses : UsesClient (.unsubscribe service characteristic) := ⟨nofun, nofun⟩
  apply link.characteristic_handled held uses service characteristic
    (fun uuid => .client client.number (.stopNotify uuid)) .stopNotify
    (fun _ => Purpose.noConfusion) (link.central.stopNotify client)
  simp only [Peripheral.answer, peripheral, unsubscribe, withClient, held]
  rfl

theorem refused_handled {m : Machine (Watched τ)} (none : m.held = none) (uses : UsesClient call) :
    Handled link call m := by
  refine ⟨[], ?_, ?_⟩
  · simp [link.watched.answer_refused none uses]
  · rw [link.watched.answer_refused none uses, Machine.line, none]
    exact .refused m.made uses

/-- A link handles every call, whatever it holds. -/
theorem handled (call : PeripheralCall) (m : Machine (Watched τ)) : Handled link call m := by
  cases call with
  | connect => exact link.connect_handled m
  | disconnect => exact link.disconnect_handled m
  | services =>
      cases held : m.held with
      | none => exact link.refused_handled held ⟨nofun, nofun⟩
      | some client => exact link.services_handled held
  | subscribe service characteristic mode =>
      cases held : m.held with
      | none => exact link.refused_handled held ⟨nofun, nofun⟩
      | some client => exact link.subscribe_handled held service characteristic mode
  | unsubscribe service characteristic =>
      cases held : m.held with
      | none => exact link.refused_handled held ⟨nofun, nofun⟩
      | some client => exact link.unsubscribe_handled held service characteristic

end Link

namespace Handles

variable (handles : Handles link call line fault new next)

include handles

/-- A fault of a client is that of the call, and only a disconnect lets the client go. -/
theorem surfaces {h : Handling} {f : Fault} (member : h ∈ new) (failed : h.fault = some f) :
    fault = some (f.wrapped (link.wrap call)) ∧
      next.held = if call = .disconnect then none else line.held := by
  cases handles with
  | connected => simp_all
  | unconnected => simp_all
  | absent => cases member
  | disconnected => simp_all
  | refused => cases member
  | used client made fault new uses own fails =>
      exact ⟨fails h member f failed, (if_neg uses.2).symm⟩

theorem held_of_unconnected (connect : call = .connect) (failed : fault ≠ none) :
    next.held = line.held := by
  cases handles with
  | connected => contradiction
  | unconnected | absent | refused | used => rfl
  | disconnected client made fault disconnect => cases connect.symm.trans disconnect

end Handles

/-! ## Whole runs -/

/-- Nothing is dealt with a client after it was to disconnect. -/
def Parted (log : List Handling) : Prop :=
  log.Pairwise fun earlier later => earlier.purpose = .disconnect → later.client ≠ earlier.client

/-- A client that was to disconnect was so once. -/
theorem Parted.once (parted : Parted log) (number : Nat) :
    log.countP (fun h => h.client = number ∧ h.purpose = .disconnect) ≤ 1 := by
  induction log with
  | nil => simp
  | cons h rest ih =>
      obtain ⟨later, tail⟩ := List.pairwise_cons.mp parted
      rw [List.countP_cons]
      by_cases ends : h.client = number ∧ h.purpose = .disconnect
      · have none : rest.countP (fun h => h.client = number ∧ h.purpose = .disconnect) = 0 := by
          rw [List.countP_eq_zero]
          intro other member
          have apart := later other member ends.2
          simp [← ends.1, apart]
        simp only [none, if_pos (decide_eq_true ends), Nat.zero_add, Nat.le_refl]
      · rw [if_neg (by simpa using ends)]
        exact ih tail

theorem Parted.append (parted : Parted log) (more : Parted new)
    (apart : ∀ h ∈ log, ∀ other ∈ new, h.client = other.client → h.purpose ≠ .disconnect) :
    Parted (log ++ new) := by
  refine List.pairwise_append.mpr ⟨parted, more, ?_⟩
  intro h member other among ends same
  exact apart h member other among same.symm ends

theorem Parted.of_stays (stays : ∀ h ∈ log, h.purpose ≠ .disconnect) : Parted log := by
  refine List.pairwise_iff_forall_sublist.mpr fun {earlier later} listed ends => ?_
  exact absurd ends (stays earlier (listed.subset List.mem_cons_self))

/-- What is so after some calls: of the client that is held, and of the log. -/
structure Kept (history : List Exchange) (line : Line) (log : List Handling) : Prop where
  connected : line.held.isSome ↔ Connected history
  made : ∀ h ∈ log, h.client < line.made
  held : ∀ client, line.held = some client →
    client.number < line.made ∧
      ∀ h ∈ log, h.client = client.number → h.purpose ≠ .disconnect
  parted : Parted log

namespace Kept

theorem begin (made : Nat) : Kept [] ⟨none, made⟩ [] where
  connected := by simp [Connected]
  made := by simp
  held := by simp
  parted := List.Pairwise.nil

/-- Nothing was dealt yet with the client that is made next. -/
theorem unmade (kept : Kept history line log) {h : Handling} (member : h ∈ log) :
    h.client ≠ line.made :=
  Nat.ne_of_lt (kept.made h member)

/-- The client that is made next begins with a dealing of its own. -/
theorem append_made (kept : Kept history line log) {h : Handling} (own : h.client = line.made)
    (stays : h.purpose ≠ .disconnect) :
    (∀ other ∈ log ++ [h], other.client < line.made + 1) ∧ Parted (log ++ [h]) := by
  constructor
  · refine List.forall_mem_append.mpr ⟨fun other member => ?_, by simp [own]⟩
    exact Nat.lt_succ_of_lt (kept.made other member)
  · refine kept.parted.append (.of_stays (by simpa using stays)) fun earlier member _ last same => ?_
    rw [List.mem_singleton.mp last, own] at same
    exact absurd same (kept.unmade member)

theorem connect {held : Option Client} {made : Nat} (kept : Kept history ⟨held, made⟩ log)
    (address : String) :
    Kept (history ++ [(.connect, none)]) ⟨some ⟨made, address⟩, made + 1⟩
      (log ++ [⟨made, .connect, none⟩]) where
  connected := by simp [Connected, switch?]
  made := (kept.append_made rfl (by simp)).1
  held := by
    -- The client is a new one, so nothing in the log is about it but that it connects.
    rintro _ ⟨⟩
    refine ⟨Nat.lt_succ_self made, List.forall_mem_append.mpr ⟨?_, by simp⟩⟩
    intro h member same
    exact absurd same (kept.unmade member)
  parted := (kept.append_made rfl (by simp)).2

/-- A client that did not connect is never held. -/
theorem fail {held : Option Client} {made : Nat} (kept : Kept history ⟨held, made⟩ log)
    (f g : Fault) :
    Kept (history ++ [(.connect, some g)]) ⟨held, made + 1⟩
      (log ++ [⟨made, .connect, some f⟩]) where
  connected := by simp [kept.connected, Connected, switch?]
  made := (kept.append_made rfl (by simp)).1
  held := by
    intro client own
    obtain ⟨number, stays⟩ := kept.held client own
    exact ⟨Nat.lt_succ_of_lt number, List.forall_mem_append.mpr ⟨stays, by simp⟩⟩
  parted := (kept.append_made rfl (by simp)).2

theorem disconnect {client : Client} {made : Nat} (kept : Kept history ⟨some client, made⟩ log)
    (fault ending : Option Fault) :
    Kept (history ++ [(.disconnect, ending)]) ⟨none, made⟩
      (log ++ [⟨client.number, .disconnect, fault⟩]) := by
  obtain ⟨number, stays⟩ := kept.held client rfl
  constructor
  · simp [Connected, switch?]
  · exact List.forall_mem_append.mpr ⟨kept.made, by simpa using number⟩
  · simp
  · refine kept.parted.append (List.pairwise_singleton _ _) fun h member other among same => ?_
    rw [List.mem_singleton.mp among] at same
    exact stays h member same

theorem rest {made : Nat} (kept : Kept history ⟨none, made⟩ log) (ending : Option Fault) :
    Kept (history ++ [(.disconnect, ending)]) ⟨none, made⟩ (log ++ []) where
  connected := by simp [Connected, switch?]
  made := by simpa using kept.made
  held := by simp
  parted := by simpa using kept.parted

/-- What is done with the client that is held neither lets it go nor takes another one. -/
theorem use (kept : Kept history line log) (uses : UsesClient call) (fault : Option Fault)
    (own : ∀ h ∈ new, ∃ client, line.held = some client ∧ h.client = client.number ∧
      h.purpose ≠ .disconnect) :
    Kept (history ++ [(call, fault)]) line (log ++ new) where
  connected := by rw [kept.connected, connected_append_of_none (switch_uses uses fault)]
  made := by
    refine List.forall_mem_append.mpr ⟨kept.made, fun h member => ?_⟩
    obtain ⟨client, held, same, -⟩ := own h member
    rw [same]
    exact (kept.held client held).1
  held := by
    intro client held
    obtain ⟨number, stays⟩ := kept.held client held
    refine ⟨number, List.forall_mem_append.mpr ⟨stays, fun h member _ => ?_⟩⟩
    obtain ⟨-, -, -, stays⟩ := own h member
    exact stays
  parted := by
    refine kept.parted.append (.of_stays fun h member => ?_) fun h member other among same => ?_
    · obtain ⟨-, -, -, stays⟩ := own h member
      exact stays
    · obtain ⟨client, held, number, -⟩ := own other among
      exact (kept.held client held).2 h member (same.trans number)

theorem step (kept : Kept history line log) (handles : Handles link call line fault new next) :
    Kept (history ++ [(call, fault)]) next (log ++ new) := by
  cases handles with
  | connected held made connect =>
      rw [connect]
      exact kept.connect _
  | unconnected held made f connect =>
      rw [connect]
      exact kept.fail f _
  | absent made disconnect =>
      rw [disconnect]
      exact kept.rest none
  | disconnected client made fault disconnect =>
      rw [disconnect]
      exact kept.disconnect fault _
  | refused made uses => exact kept.use uses _ (List.forall_mem_nil _)
  | used client made fault new uses own =>
      exact kept.use uses fault fun h member => ⟨client, rfl, own h member⟩

theorem follow (link : Link τ) {m : Machine (Watched τ)} (kept : Kept history m.line m.host.log)
    (calls : List PeripheralCall) :
    let ended := link.watched.peripheral.follow calls (history, m)
    Kept ended.1 ended.2.line ended.2.host.log := by
  induction calls generalizing history m with
  | nil => exact kept
  | cons call rest ih =>
      obtain ⟨new, log, handles⟩ := link.handled call m
      have next := kept.step handles
      rw [← log] at next
      exact ih next

end Kept

/-- After any calls, in whatever order and however they ended: a client is held if and only if the
    last connect that succeeded was not followed by a disconnect. A connect that fails leaves held
    what was held. Every client disconnects once at most, and nothing is dealt with it afterwards.
    Without a client a disconnect does nothing and what needs one fails in its own way, without any
    dealing. A fault of a client is what the call fails with, in its own way, and changes what is
    held only if the call is a disconnect. -/
theorem Link.follow_holds (link : Link τ) (calls : List PeripheralCall) (host : τ) (made : Nat) :
    ∃ history m,
      link.watched.peripheral.follow calls ([], ⟨⟨host, []⟩, none, made⟩) = (history, m) ∧
      link.peripheral.follow calls ([], ⟨host, none, made⟩) = (history, m.unwatched) ∧
      (m.held.isSome ↔ Connected history) ∧
      (m.host.log.Pairwise fun earlier later =>
        earlier.purpose = .disconnect → later.client ≠ earlier.client) ∧
      (∀ number, m.host.log.countP
        (fun h => h.client = number ∧ h.purpose = .disconnect) ≤ 1) ∧
      ∀ call,
        let ended := link.watched.peripheral.answer call m
        let fault := faultOf? ended.1.result
        (call = .connect → fault ≠ none → ended.2.held = m.held) ∧
        (m.held = none → call = .disconnect → ended = (⟨[], .ok ()⟩, m)) ∧
        (m.held = none → UsesClient call →
          ∃ f, ended = (⟨[], .error f⟩, m) ∧ f.failure? = some call.failure) ∧
        ∃ new, ended.2.host.log = m.host.log ++ new ∧
          ∀ h ∈ new, ∀ f, h.fault = some f → f.isOrdinary →
            fault = some (link.wrap call f) ∧
            (link.wrap call f).failure? = some call.failure ∧
            ended.2.held = if call = .disconnect then none else m.held := by
  have kept := (Kept.begin made).follow link (m := ⟨⟨host, []⟩, none, made⟩) calls
  have mirrors := link.follow_mirrors calls [] ⟨⟨host, []⟩, none, made⟩
  rcases followed : link.watched.peripheral.follow calls ([], ⟨⟨host, []⟩, none, made⟩) with
    ⟨history, m⟩
  rw [followed] at kept mirrors
  refine ⟨history, m, rfl, mirrors, kept.connected, kept.parted, kept.parted.once, fun call => ?_⟩
  obtain ⟨new, log, handles⟩ := link.handled call m
  refine ⟨handles.held_of_unconnected, ?_, ?_, new, log, ?_⟩
  · rintro none rfl
    exact link.watched.answer_absent none
  · intro none uses
    exact ⟨_, link.watched.answer_refused none uses, rfl⟩
  · intro h member f failed ordinary
    obtain ⟨fails, held⟩ := handles.surfaces member failed
    rw [Fault.wrapped, if_pos ordinary] at fails
    exact ⟨fails, link.failure_wrap call f, held⟩

end Radio

end BezelStream
