import BezelStream.Proofs.Gatt
import BezelStream.Proofs.Session.Conducting

/-! # What a session subscribes to

If a peripheral lists the same services whenever it lists any, a session subscribes to nothing
but the first characteristic of its name there, in a mode in which that one sends.
-/

namespace BezelStream.Session

variable {σ : Type} {listing : List Service}

/-- Whenever the peripheral lists services, it lists these. -/
def ListsOnly (s : Session σ) (listing : List Service) : Prop :=
  ∀ env services, (s.peripheral.services env).1.result = .ok services → services = listing

/-- If a call is one to subscribe, a look at the listing has found its mode. -/
def Sends (listing : List Service) (x : Exchange) : Prop :=
  ∀ service characteristic mode fault, x = (.subscribe service characteristic mode, fault) →
    ∃ s c, findCharacteristic? characteristic (servicesNamed service listing) = some (s, c) ∧
      c.mode? = some mode

/-- If a call is one to subscribe, it is for the first characteristic of a name. -/
def Chooses (wanted : String) (listing : List Service) (x : Exchange) : Prop :=
  ∀ service characteristic mode fault, x = (.subscribe service characteristic mode, fault) →
    ∃ s c, findCharacteristic? wanted listing = some (s, c) ∧ s.uuid = service ∧
      c.uuid = characteristic ∧ c.mode? = some mode

theorem discover_lists {s : Session σ} (only : s.ListsOnly listing) (p : Progress σ Lifecycle) :
    RunEnds s.discover p fun result _ => ∀ services, result = .ok services → services = listing := by
  refine .require_bind (fun _ => nofun) fun _ => .bind ?_
  refine .attempt_bind (.answer fun q _ => ?_)
  cases answered : (s.peripheral.services p.env).1.result with
  | error f => exact .throw nofun
  | ok services =>
      refine .pure (.update_bind (.log_bind (.pure ?_)))
      rintro given ⟨⟩
      exact only p.env services answered

theorem SubscribesTo.sends {a b : Standing} {service characteristic : String}
    {answer : Except Fault (List Service)} {log : List Dealing}
    {result : Except Fault Subscription}
    (subscribes : SubscribesTo service characteristic a answer log result b)
    (only : ∀ live, answer = .ok live → live = listing) :
    ∀ x ∈ exchanges log, Sends listing x := by
  have queried (fault : Option Fault) : Sends listing (.services, fault) := nofun
  cases subscribes with
  | unlisted | gone | unfit => exact List.forall_mem_singleton.mpr (queried _)
  | failed found sends | subscribed found sends =>
      cases only _ rfl
      refine List.forall_mem_cons.mpr ⟨queried _, List.forall_mem_singleton.mpr ?_⟩
      rintro _ _ _ _ ⟨⟩
      exact ⟨_, _, found, sends⟩

theorem subscribe_sends {s : Session σ} (only : s.ListsOnly listing) (p : Progress σ Lifecycle) :
    RunEnds s.subscribe p fun _ q => ∃ log, p.Adds log q ∧ ∀ x ∈ exchanges log, Sends listing x := by
  refine (s.subscribe_cases p).imp fun result q ends => ?_
  obtain ⟨rfl, -⟩ | ⟨_, _, log, -, -, adds, subscribes⟩ := ends
  · exact ⟨[], .refl q, List.forall_mem_nil _⟩
  · exact ⟨log, adds, subscribes.sends (only p.env)⟩

theorem Subscribes.targets {a b : Standing} {log : List Dealing} {result : Except Fault Subscription}
    (subscribes : Subscribes a log result b) {service characteristic : String}
    {mode : SubscriptionMode} {fault : Option Fault}
    (asked : (.subscribe service characteristic mode, fault) ∈ exchanges log) :
    a.target = some (service, characteristic) := by
  cases subscribes with
  | refused | unlocated => cases asked
  | unlisted | unfit => simp [exchanges, Dealing.exchange?] at asked
  | failed _ target | subscribed _ target =>
      simp only [exchanges, List.filterMap_cons, Dealing.exchange?, List.filterMap_nil,
        List.mem_cons, Prod.mk.injEq, reduceCtorEq, false_and, false_or, or_false,
        PeripheralCall.subscribe.injEq, List.not_mem_nil] at asked
      obtain ⟨⟨rfl, rfl, -⟩, -⟩ := asked
      exact target

theorem Chooses.other {wanted : String} {x : Exchange}
    (other : ∀ service characteristic mode, x.1 ≠ .subscribe service characteristic mode) :
    Chooses wanted listing x := by
  rintro service characteristic mode fault rfl
  exact absurd rfl (other service characteristic mode)

/-- What the body of a run does where one table only is listed. -/
abbrev ChoosingBody (wanted : String) (listing : List Service) : Outcomes Subscription :=
  InTurn (fun a log result b => Discovers a log result b ∧
      ∀ services, result = .ok services → services = listing) fun services =>
    InTurn (Locates wanted services) fun _ =>
      InTurn (fun a log result b => Subscribes a log result b ∧
        ∀ x ∈ exchanges log, Sends listing x) Streaming

theorem body_chooses {s : Session σ} (only : s.ListsOnly listing) (wait : StopWait σ) :
    DoesOneOf (s.body wait) (ChoosingBody s.characteristic listing) := by
  have discovers (p : Progress σ Lifecycle) : RunEnds s.discover p (ComesToOne (fun a log result b =>
      Discovers a log result b ∧ ∀ services, result = .ok services → services = listing) p) := by
    refine ((s.discover_does p).both (discover_lists only p)).imp fun result q came => ?_
    obtain ⟨⟨log, adds, discovers⟩, lists⟩ := came
    exact ⟨log, adds, discovers, lists⟩
  have subscribes (p : Progress σ Lifecycle) : RunEnds s.subscribe p (ComesToOne (fun a log result b =>
      Subscribes a log result b ∧ ∀ x ∈ exchanges log, Sends listing x) p) := by
    refine ((s.subscribe_does p).both (subscribe_sends only p)).imp fun result q came => ?_
    obtain ⟨⟨log, adds, subscribes⟩, other, also, sends⟩ := came
    cases adds.unique also
    exact ⟨log, adds, subscribes, sends⟩
  refine fun p => .in_turn (discovers p) fun services => ?_
  refine fun p => .in_turn (s.locate_does services p) fun _ => ?_
  refine fun p => .in_turn (subscribes p) fun subscription => ?_
  refine fun p => .in_turn (tell_does _ _ p) fun _ => ?_
  refine fun p => .own_bind (.in_turn (s.wait_comes wait p) fun _ => ?_)
  exact fun p => .pure ⟨[], .refl p, .given⟩

/-- What was located and has a mode is what was to be found. -/
theorem chooses_of_sends {wanted : String} {s : Service} {c : Characteristic}
    (found : findCharacteristic? wanted listing = some (s, c)) {x : Exchange}
    (sends : Sends listing x)
    (targets : ∀ service characteristic mode fault,
      x = (.subscribe service characteristic mode, fault) →
        (s.uuid, c.uuid) = (service, characteristic)) : Chooses wanted listing x := by
  intro service characteristic mode fault same
  cases targets service characteristic mode fault same
  obtain ⟨t, d, again, mode⟩ := sends _ _ mode fault same
  rw [findCharacteristic_again found] at again
  cases again
  exact ⟨s, c, found, rfl, rfl, mode⟩

theorem chooses_of_body {wanted : String} {a b : Standing} {log : List Dealing}
    {result : Except Fault Subscription} (body : ChoosingBody wanted listing a log result b) :
    ∀ x ∈ exchanges log, Chooses wanted listing x := by
  have queries (f : Option Fault) : Chooses wanted listing (.services, f) := .other nofun
  cases body with
  | failed discovers =>
      cases discovers.1 with
      | refused => exact List.forall_mem_nil _
      | failed _ f => exact List.forall_mem_singleton.mpr (queries (some f))
  | passed discovers rest =>
      obtain ⟨discovers, lists⟩ := discovers
      cases lists _ rfl
      cases discovers with
      | discovered _ services =>
          rw [List.singleton_append, exchanges_exchange]
          refine List.forall_mem_cons.mpr ⟨queries none, ?_⟩
          cases rest with
          | failed locates =>
              rw [exchanges_of_wordless locates.wordless]
              exact List.forall_mem_nil _
          | passed locates rest =>
              rw [exchanges_append, exchanges_of_wordless locates.wordless, List.nil_append]
              cases locates with
              | located _ found =>
                  intro x member
                  cases rest with
                  | failed subscribes =>
                      refine chooses_of_sends found (subscribes.2 x member) ?_
                      rintro service characteristic mode fault rfl
                      exact Option.some.inj (subscribes.1.targets member)
                  | passed subscribes streaming =>
                      rw [exchanges_append, (exchanges_streaming streaming).1, List.append_nil]
                        at member
                      refine chooses_of_sends found (subscribes.2 x member) ?_
                      rintro service characteristic mode fault rfl
                      exact Option.some.inj (subscribes.1.targets member)

theorem chooses_of_closes {wanted : String} {a b : Standing} {log : List Dealing}
    {result : Except Fault Unit} (closes : Closes a log result b) :
    ∀ x ∈ exchanges log, Chooses wanted listing x := by
  have last (f : Option Fault) : Chooses wanted listing (.disconnect, f) := .other nofun
  cases closes with
  | inert => exact List.forall_mem_nil _
  | disconnected _ _ fault => exact List.forall_mem_singleton.mpr (last fault)
  | unsubscribed _ _ report fault =>
      rw [report.exchanged]
      exact List.forall_mem_cons.mpr ⟨.other nofun, List.forall_mem_singleton.mpr (last fault)⟩

/-- A run subscribes to nothing but the first characteristic of its name in the listing, in the
    mode in which that sends. -/
theorem run_chooses {s : Session σ} (only : s.ListsOnly listing) (wait : StopWait σ)
    {p : Progress σ Lifecycle} (fresh : p.own = {}) :
    RunEnds (s.run wait) p fun _ q => ∃ log, p.Adds log q ∧
      ∀ x ∈ exchanges log, Chooses s.characteristic listing x := by
  have idle : p.own.state = .idle := congrArg Lifecycle.state fresh
  have connects (f : Option Fault) : Chooses s.characteristic listing (.connect, f) :=
    .other nofun
  refine .run ((s.connect_ends idle).imp fun result q connected => ?_)
  cases answered : (s.peripheral.connect p.env).1.result with
  | error f =>
      simp only [answered] at connected
      obtain ⟨rfl, stays⟩ := connected
      exact ⟨_, stays.adds, List.forall_mem_singleton.mpr (connects (some f))⟩
  | ok =>
      simp only [answered] at connected
      obtain ⟨rfl, connecting, -⟩ := connected
      refine (body_chooses only wait q).imp fun body r ⟨streamed, streaming, did⟩ => ?_
      refine (s.leave_closes (faultOf? body) r).imp fun left t ⟨_, closing, closes, closed⟩ => ?_
      refine ⟨_, connecting.trans (streaming.trans closes), ?_⟩
      rw [List.singleton_append, exchanges_exchange, exchanges_append]
      refine List.forall_mem_cons.mpr ⟨connects none, fun x member => ?_⟩
      rcases List.mem_append.mp member with before | after
      · exact chooses_of_body did x before
      · exact chooses_of_closes closed x after

end BezelStream.Session
