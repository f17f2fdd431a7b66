import BezelStream.Proofs.Session.Yield

/-! # The calls of a run

All calls that a run makes of its peripheral, each with how it ended: after connecting it asks
for services, subscribes once at most, ends what it subscribed to, and disconnects.
-/

namespace BezelStream.Session

variable {σ : Type}

/-- Nothing but services was asked for. -/
def Queries (exchanged : List Exchange) : Prop :=
  ∀ x ∈ exchanged, ∃ fault, x = (.services, fault)

/-- The calls of the body of a run, and the subscription that is in force after it. -/
inductive Opened : List Exchange → Option Subscription → Prop where
  | queried {queries : List Exchange} (only : Queries queries) : Opened queries none
  | refused {queries : List Exchange} (only : Queries queries) (service characteristic : String)
      (mode : SubscriptionMode) (f : Fault) :
      Opened (queries ++ [(.subscribe service characteristic mode, some f)]) none
  | subscribed {queries : List Exchange} (only : Queries queries) (subscription : Subscription) :
      Opened
        (queries ++ [(.subscribe subscription.service subscription.characteristic
          subscription.mode, none)]) (some subscription)

/-- All calls of a run. -/
inductive Conducts : List Exchange → Prop where
  | unconnected (f : Fault) : Conducts [(.connect, some f)]
  | queried {queries : List Exchange} (only : Queries queries) (fault : Option Fault) :
      Conducts ((.connect, none) :: queries ++ [(.disconnect, fault)])
  | refused {queries : List Exchange} (only : Queries queries) (service characteristic : String)
      (mode : SubscriptionMode) (f : Fault) (fault : Option Fault) :
      Conducts ((.connect, none) :: queries ++
        [(.subscribe service characteristic mode, some f), (.disconnect, fault)])
  | streamed {queries : List Exchange} (only : Queries queries) (service characteristic : String)
      (mode : SubscriptionMode) (ending fault : Option Fault) :
      Conducts ((.connect, none) :: queries ++
        [(.subscribe service characteristic mode, none),
          (.unsubscribe service characteristic, ending), (.disconnect, fault)])

theorem Queries.nil : Queries [] :=
  List.forall_mem_nil _

theorem Queries.single (fault : Option Fault) : Queries [(.services, fault)] :=
  List.forall_mem_singleton.mpr ⟨fault, rfl⟩

theorem Opened.after {exchanged : List Exchange} {held : Option Subscription}
    (opened : Opened exchanged held) (fault : Option Fault) :
    Opened ((.services, fault) :: exchanged) held := by
  have longer {queries : List Exchange} (only : Queries queries) :
      Queries ((.services, fault) :: queries) := by
    rintro x (_ | ⟨_, member⟩)
    · exact ⟨fault, rfl⟩
    · exact only x member
  cases opened with
  | queried only => exact .queried (longer only)
  | refused only service characteristic mode f =>
      exact .refused (longer only) service characteristic mode f
  | subscribed only subscription => exact .subscribed (longer only) subscription

theorem exchanges_of_wordless {log : List Dealing} (wordless : deeds log = []) :
    exchanges log = [] := by
  rw [← exchanges_deeds, wordless, exchanges_nil]

/-- Once a session has subscribed, nothing is asked of the peripheral until it is closed. -/
theorem exchanges_streaming {subscription : Subscription} {a b : Standing} {log : List Dealing}
    {result : Except Fault Subscription} (streaming : Streaming subscription a log result b) :
    exchanges log = [] ∧ b = a := by
  obtain ⟨waits, same⟩ := waits_once streaming
  refine ⟨?_, same⟩
  rw [← exchanges_deeds]
  rcases waits with waits | waits <;> rw [waits] <;> rfl

theorem opened_of_subscribes {a b : Standing} {log : List Dealing}
    {result : Except Fault Subscription} (bare : a.subscription = none)
    (ended : InTurn Subscribes Streaming a log result b) :
    Opened (exchanges log) b.subscription := by
  cases ended with
  | failed subscribes =>
      cases subscribes with
      | refused | unlocated => exact bare ▸ .queried .nil
      | unlisted _ f => exact bare ▸ .queried (.single (some f))
      | unfit => exact bare ▸ .queried (.single none)
      | failed _ _ mode f => exact bare ▸ .refused (.single none) _ _ mode f
  | passed subscribes streaming =>
      obtain ⟨silent, rfl⟩ := exchanges_streaming streaming
      rw [exchanges_append, silent, List.append_nil]
      cases subscribes with
      | @subscribed _ service characteristic _ mode =>
          exact .subscribed (.single none) ⟨service, characteristic, mode⟩

theorem opened_of_body {wanted : String} {a b : Standing} {log : List Dealing}
    {result : Except Fault Subscription} (bare : a.subscription = none)
    (body : Body wanted a log result b) : Opened (exchanges log) b.subscription := by
  cases body with
  | failed discovers =>
      cases discovers with
      | refused => exact bare ▸ .queried .nil
      | failed _ f => exact bare ▸ .queried (.single (some f))
  | passed discovers rest =>
      cases discovers with
      | discovered _ services =>
          rw [List.singleton_append, exchanges_exchange]
          refine .after ?_ none
          cases rest with
          | failed locates =>
              rw [exchanges_of_wordless locates.wordless]
              cases locates <;> exact bare ▸ .queried .nil
          | passed locates rest =>
              rw [exchanges_append, exchanges_of_wordless locates.wordless, List.nil_append]
              cases locates with
              | located =>
                  refine opened_of_subscribes ?_ rest
                  exact bare

/-- Closing after the body makes up the calls of a run. -/
theorem conducts_of_closes {b c : Standing} {opening : List Exchange} {closing : List Dealing}
    {result : Except Fault Unit} (opened : Opened opening b.subscription) (live : ¬ b.Inert)
    (closes : Closes b closing result c) :
    Conducts ((.connect, none) :: (opening ++ exchanges closing)) := by
  generalize held : b.subscription = subscription at opened
  cases closes with
  | inert past => exact absurd past live
  | disconnected _ bare fault =>
      cases opened with
      | queried only => exact .queried only fault
      | refused only service characteristic mode f =>
          rw [List.append_assoc]
          exact .refused only service characteristic mode f fault
      | subscribed =>
          rw [bare] at held
          cases held
  | unsubscribed _ also report fault =>
      rw [report.exchanged]
      cases opened with
      | queried | refused =>
          rw [also] at held
          cases held
      | subscribed only =>
          rw [also] at held
          cases held
          rw [List.append_assoc]
          exact .streamed only _ _ _ _ fault

/-- Whatever becomes of a run, these are the calls that it makes. -/
theorem run_conducts (s : Session σ) (wait : StopWait σ) {p : Progress σ Lifecycle}
    (fresh : p.own = {}) :
    RunEnds (s.run wait) p fun _ q => ∃ log, p.Adds log q ∧ Conducts (exchanges log) := by
  have idle : p.own.state = .idle := congrArg Lifecycle.state fresh
  refine .run ((s.connect_ends idle).imp fun result q connected => ?_)
  cases answered : (s.peripheral.connect p.env).1.result with
  | error f =>
      simp only [answered] at connected
      obtain ⟨rfl, stays⟩ := connected
      exact ⟨_, stays.adds, .unconnected f⟩
  | ok =>
      simp only [answered] at connected
      obtain ⟨rfl, connecting, standing⟩ := connected
      have state : q.own.standing.state = .connected := congrArg Standing.state standing
      have bare : q.own.standing.subscription = none := by
        rw [standing, fresh]
        rfl
      refine (s.body_does wait q).imp fun body r ⟨streamed, streaming, did⟩ => ?_
      refine (s.leave_closes (faultOf? body) r).imp fun left t ⟨_, closing, closes, closed⟩ => ?_
      refine ⟨_, connecting.trans (streaming.trans closes), ?_⟩
      rw [List.singleton_append, exchanges_exchange, exchanges_append]
      refine conducts_of_closes (opened_of_body bare did) ?_ closed
      cases streams_of_body state bare did with
      | unsubscribed _ live => exact live
      | streamed _ _ _ state => simp [Standing.Inert, state]

end BezelStream.Session
