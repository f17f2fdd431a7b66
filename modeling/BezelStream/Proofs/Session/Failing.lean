import BezelStream.Proofs.Interaction.Failing
import BezelStream.Session

/-! # How sessions fail

A session wraps the ordinary faults of its peripheral, so that it fails only by failures of
sessions. Disconnecting is not wrapped: there the peripheral has to fail so by itself.
-/

namespace BezelStream

theorem Fault.isOrdinary_of_isSession {f : Fault} (session : f.isSession) : f.isOrdinary := by
  cases f with
  | interrupt => cases session
  | _ => rfl

/-- An ordinary fault, taken as a failure of sessions, is one of them. -/
theorem Fault.isSession_asFailure {f : Fault} {failure : Failure} {wrap : Fault → Fault}
    (ordinary : f.isOrdinary) (own : failure.isSession) (wraps : (wrap f).isSession) :
    (f.asFailure failure wrap).isSession := by
  unfold asFailure
  split
  case isTrue kept =>
    have already : f.failure? = some failure := by simpa [ordinary] using kept
    rw [isSession, already]
    exact own
  case isFalse => exact wraps

/-- All calls of a peripheral but that to disconnect fail by ordinary faults only, and that one
    only by failures of sessions. -/
structure Peripheral.FailsPlainly {σ : Type} (peripheral : Peripheral σ) : Prop where
  connect : peripheral.connect.FailsOnly (·.isOrdinary)
  disconnect : peripheral.disconnect.FailsOnly (·.isSession)
  services : peripheral.services.FailsOnly (·.isOrdinary)
  subscribe : ∀ service characteristic mode,
    (peripheral.subscribe service characteristic mode).FailsOnly (·.isOrdinary)
  unsubscribe : ∀ service characteristic,
    (peripheral.unsubscribe service characteristic).FailsOnly (·.isOrdinary)

namespace Session

open Op

variable {σ α : Type} (s : Session σ)

/-- A step that fails by failures of sessions only. -/
abbrev FailsAsSession (x : Step σ α) : Prop :=
  x.FailsOnly (·.isSession)

theorem ask_fails {kind : Fault → Prop} (call : PeripheralCall) {answer : Call σ α}
    (fails : answer.FailsOnly kind) : (s.ask call answer).FailsOnly kind :=
  .called _ (.performWith fails s.receive)

theorem require_fails (expected : SessionState) : FailsAsSession (σ := σ) (require expected) :=
  .bind (.read _) fun _ => .ite (fun _ => .throw rfl) fun _ => .pure _

variable {s} (plain : s.peripheral.FailsPlainly)

section

include plain

theorem connect_fails : FailsAsSession s.connect := by
  refine .bind (.read _) fun own => .ite (fun _ => .throw_bind ?_ _) fun _ => ?_
  · rfl
  · refine .handled (s.ask_fails _ plain.connect) (fun f ordinary => .throw ?_) fun _ => ?_
    · exact Fault.isSession_asFailure ordinary rfl rfl
    · exact .bind (.update _) fun _ => .update _

theorem currentServices_fails : FailsAsSession s.currentServices := by
  refine .handled (s.ask_fails _ plain.services) (fun f ordinary => .throw ?_) fun _ => .pure _
  exact Fault.isSession_asFailure ordinary rfl rfl

theorem discover_fails : FailsAsSession s.discover := by
  refine .bind (require_fails _) fun _ => .bind (currentServices_fails plain) fun services => ?_
  exact .bind (.update _) fun _ => .bind (.update _) fun _ => .pure _

theorem disconnect_fails : FailsAsSession s.disconnect :=
  .bind (.update _) fun _ => .bind (s.ask_fails _ plain.disconnect) fun _ => .update _

theorem subscription_fails : FailsAsSession s.subscribe := by
  unfold Session.subscribe
  refine .bind (require_fails _) fun _ => .bind (.read _) fun own => ?_
  cases own.target with
  | none => exact .throw rfl
  | some pair =>
      obtain ⟨service, characteristic⟩ := pair
      refine .bind (currentServices_fails plain) fun live => ?_
      dsimp only
      split
      · exact .throw rfl
      · split
        · exact .throw rfl
        · refine .bind (.update _) fun _ => ?_
          refine .handled (s.ask_fails _ (plain.subscribe _ _ _)) (fun f ordinary => ?_) fun _ => ?_
          · have fails : (f.asFailure .subscriptionFailed .subscription).isSession :=
              Fault.isSession_asFailure ordinary rfl rfl
            refine .ite (fun _ => ?_) fun _ => .throw fails
            exact .bind (.update _) fun _ => .throw fails
          · exact .bind (.update _) fun _ => .bind (.update _) fun _ => .pure _

end

variable (tells : s.notifier.Each Call.NeverFails)

include tells

theorem tell_never (text : String) : NeverFails (s.tell text) :=
  .tellWith tells text

theorem locate_fails (services : List Service) : FailsAsSession (s.locate services) := by
  unfold Session.locate
  refine .bind (require_fails _) fun _ => ?_
  split
  · exact .bind (.update _) fun _ => .bind (.update _) fun _ => .pure _
  · refine .ite (fun _ => ?_) fun _ => .throw rfl
    refine .bind (.of_never (tell_never tells _)) fun _ => ?_
    exact .bind (.of_never (.tellAllWith tells _)) fun _ => .throw rfl

include plain

/-- Ending a subscription fails by interrupts only, for other faults are reported. -/
theorem unsubscribe_never (subscription : Subscription) :
    NeverFails (s.unsubscribe subscription) := by
  refine .handled (s.ask_fails _ (plain.unsubscribe _ _)) (fun f ordinary => ?_) fun _ => .pure _
  refine .ite (fun _ => ?_) fun other => absurd ordinary other
  exact .bind (.update _) fun _ => tell_never tells _

theorem endSubscription_never : NeverFails s.endSubscription := by
  refine .bind (.read _) fun own => ?_
  cases own.subscription with
  | none => exact .pure _
  | some subscription =>
      refine .bind (.update _) fun _ => .ensuring (unsubscribe_never plain tells subscription) ?_
      exact .bind (.update _) fun _ => .update _

theorem close_fails : FailsAsSession s.close := by
  refine .bind (.read _) fun own => .ite (fun _ => .pure _) fun _ => ?_
  exact .ensuring (.of_never (endSubscription_never plain tells)) (disconnect_fails plain)

theorem leave_fails (after : Option Fault) : FailsAsSession (s.leave after) := by
  refine .handled (close_fails plain tells) (fun f session => ?_) fun _ => .pure _
  exact .ite (fun _ => .update _) fun _ => .throw session

variable {wait : StopWait σ} (waits : wait.Each Call.NeverFails)

include waits

theorem body_fails : FailsAsSession (s.body wait) := by
  refine .bind (discover_fails plain) fun services => ?_
  refine .bind (locate_fails tells services) fun _ => .bind (subscription_fails plain) fun _ => ?_
  refine .bind (.of_never (tell_never tells _)) fun _ => .bind (.read _) fun own => ?_
  exact .bind (.of_never (.called _ (.waitWith waits))) fun _ => .pure _

/-- A run fails only by failures of sessions, whatever its body and its end came to. -/
theorem run_fails : FailsAsSession (s.run wait) := by
  refine .bind (connect_fails plain) fun _ => ?_
  refine .handled (body_fails plain tells waits) (fun f session => ?_) fun _ => ?_
  · exact .bind (leave_fails plain tells _) fun _ => .throw session
  · exact .bind (leave_fails plain tells _) fun _ => .pure _

end Session

end BezelStream
