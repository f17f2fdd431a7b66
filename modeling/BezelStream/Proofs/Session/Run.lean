import BezelStream.Proofs.Session.Conduct

/-! # Runs

A run connects, goes through its body, and leaves. `RunEnds.run` follows it through these
parts. What the body of a connected session comes to is put in `Streams`: either nothing
was subscribed to, or one subscription is in force and was waited for once at most.
-/

namespace BezelStream

/-- Whether a dealing is more than words: an exchange or a wait. -/
def Dealing.isDeed : Dealing → Bool
  | .told .. => false
  | .exchange _ | .wait _ => true

/-- What is done among dealings, leaving out what is only told. -/
def deeds (log : List Dealing) : List Dealing :=
  log.filter Dealing.isDeed

@[simp] theorem deeds_append (left right : List Dealing) :
    deeds (left ++ right) = deeds left ++ deeds right :=
  List.filter_append left right

@[simp] theorem deeds_nil : deeds [] = [] :=
  rfl

@[simp] theorem deeds_exchange (exchange : Exchange) (log : List Dealing) :
    deeds (.exchange exchange :: log) = .exchange exchange :: deeds log :=
  rfl

theorem deeds_words {log : List Dealing} (words : ∀ d ∈ log, ∃ text fault, d = .told text fault) :
    deeds log = [] := by
  refine List.filter_eq_nil_iff.mpr fun d member => ?_
  obtain ⟨text, fault, rfl⟩ := words d member
  exact Bool.false_ne_true

/-- What a connected session may do before it has subscribed. -/
inductive Dealing.Opens : Dealing → Prop where
  | services (fault : Option Fault) : Opens (.exchange (.services, fault))
  | subscribe (service characteristic : String) (mode : SubscriptionMode) (f : Fault) :
      Opens (.exchange (.subscribe service characteristic mode, some f))

namespace Session

variable {σ : Type}

/-- What the body of a run comes to, begun in a connected session. -/
inductive Streams : List Dealing → Except Fault Subscription → Standing → Prop where
  | unsubscribed {log : List Dealing} {b : Standing} (opening : ∀ d ∈ deeds log, d.Opens)
      (live : ¬ b.Inert) (bare : b.subscription = none)
      (f : Fault) :
      Streams log (.error f) b
  | streamed {log opening waits : List Dealing} {b : Standing} {subscription : Subscription}
      (deeds : deeds log = opening ++
        .exchange (.subscribe subscription.service subscription.characteristic subscription.mode,
          none) :: waits)
      (opens : ∀ d ∈ opening, d.Opens) (once : waits = [] ∨ waits = [.wait .subscribed])
      (state : b.state = .subscribed) (held : b.subscription = some subscription)
      (result : Except Fault Subscription) :
      Streams log result b

namespace RunEnds

variable {s : Session σ} {p : Progress σ Lifecycle}

/-- A session is left as it closes, unless a failure of that is only logged. -/
theorem leave {after : Option Fault} {post : Except Fault Unit → Progress σ Lifecycle → Prop}
    (ends : RunEnds s.close p fun
      | .ok (), q => post (.ok ()) q
      | .error f, q =>
          if f.isSession && after.isSome then
            post (.ok ())
              (q.note (.log .warning .session ("Cleanup after failure also failed: " ++ f.message)))
          else post (.error f) q) :
    RunEnds (s.leave after) p post := by
  refine attempt_bind (ends.imp fun result q closed => ?_)
  cases result with
  | ok => exact pure closed
  | error f =>
      dsimp only at closed ⊢
      split at closed
      case isTrue logged =>
        rw [if_pos logged]
        exact log closed
      case isFalse raised =>
        rw [if_neg raised]
        exact throw closed

/-- A run that connected goes through its body and leaves, whatever the body came to. -/
theorem run {wait : StopWait σ} {post : Except Fault Subscription → Progress σ Lifecycle → Prop}
    (ends : RunEnds s.connect p fun
      | .error f, q => post (.error f) q
      | .ok (), q => RunEnds (s.body wait) q fun result r =>
          RunEnds (s.leave (faultOf? result)) r fun left t => post (left.bind fun _ => result) t) :
    RunEnds (s.run wait) p post := by
  refine bind (ends.imp fun result q connected => ?_)
  cases result with
  | error f => exact connected
  | ok =>
      refine attempt_bind (RunEnds.imp connected fun body r leaving => ?_)
      cases body with
      | error f =>
          refine bind (RunEnds.imp leaving fun left t closed => ?_)
          cases left with
          | error f => exact closed
          | ok => exact throw closed
      | ok subscription =>
          refine bind (RunEnds.imp leaving fun left t closed => ?_)
          cases left with
          | error f => exact closed
          | ok => exact pure closed

end RunEnds

/-- Whatever a session is left after, it is closed. -/
theorem leave_closes (s : Session σ) (after : Option Fault) (p : Progress σ Lifecycle) :
    RunEnds (s.leave after) p fun _ q => ∃ result, ComesToOne Closes p result q := by
  refine .leave ((s.close_does p).imp fun result q closed => ?_)
  cases result with
  | ok => exact ⟨_, closed⟩
  | error f =>
      dsimp only
      split
      · obtain ⟨log, adds, outcome⟩ := closed
        exact ⟨_, log, adds.noted ⟨rfl, rfl⟩, outcome⟩
      · exact ⟨_, closed⟩

/-- What is done once a session has subscribed. -/
abbrev Streaming (subscription : Subscription) : Outcomes Subscription :=
  InTurn Tells fun _ => InTurn Waits fun _ => GivesAtOnce subscription

/-- What the body of a run does, step by step. -/
abbrev Body (wanted : String) : Outcomes Subscription :=
  InTurn Discovers fun services =>
    InTurn (Locates wanted services) fun _ => InTurn Subscribes Streaming

theorem body_does (s : Session σ) (wait : StopWait σ) :
    DoesOneOf (s.body wait) (Body s.characteristic) := by
  refine fun p => .in_turn (s.discover_does p) fun services => ?_
  refine fun p => .in_turn (s.locate_does services p) fun _ => ?_
  refine fun p => .in_turn (s.subscribe_does p) fun subscription => ?_
  refine fun p => .in_turn (tell_does _ _ p) fun _ => ?_
  refine fun p => .own_bind (.in_turn (s.wait_comes wait p) fun _ => ?_)
  exact fun p => .pure ⟨[], .refl p, .given⟩

theorem Tells.wordless {a b : Standing} {log : List Dealing} {result : Except Fault Unit}
    (tells : Tells a log result b) : deeds log = [] ∧ b = a := by
  cases tells with
  | unheard => exact ⟨rfl, rfl⟩
  | told => exact ⟨rfl, rfl⟩

theorem Locates.wordless {wanted : String} {services : List Service} {a b : Standing}
    {log : List Dealing} {result : Except Fault (String × String)}
    (locates : Locates wanted services a log result b) : deeds log = [] := by
  cases locates with
  | refused => rfl
  | missed _ _ _ words => exact deeds_words words
  | located => rfl

/-- Streaming waits once at most, and leaves the session where it stood. -/
theorem waits_once {subscription : Subscription} {a b : Standing} {log : List Dealing}
    {result : Except Fault Subscription} (streaming : Streaming subscription a log result b) :
    (deeds log = [] ∨ deeds log = [.wait a.state]) ∧ b = a := by
  cases streaming with
  | failed tells =>
      obtain ⟨wordless, rfl⟩ := tells.wordless
      exact ⟨.inl wordless, rfl⟩
  | passed tells ended =>
      obtain ⟨wordless, rfl⟩ := tells.wordless
      rw [deeds_append, wordless, List.nil_append]
      cases ended with
      | failed waits =>
          cases waits with
          | waited => exact ⟨.inr rfl, rfl⟩
      | passed waits gives =>
          cases waits with
          | waited =>
              cases gives with
              | given => exact ⟨.inr rfl, rfl⟩

/-- What opens the session may have been done before. -/
theorem Streams.after {before log : List Dealing} {b : Standing}
    {result : Except Fault Subscription} (opening : ∀ d ∈ deeds before, d.Opens)
    (streams : Streams log result b) : Streams (before ++ log) result b := by
  cases streams with
  | unsubscribed rest live bare f =>
      refine .unsubscribed (fun d member => ?_) live bare f
      rw [deeds_append] at member
      exact (List.mem_append.mp member).elim (opening d) (rest d)
  | streamed shape rest once state held =>
      have longer := congrArg (deeds before ++ ·) shape
      rw [← deeds_append, ← List.append_assoc] at longer
      refine .streamed longer (fun d member => ?_) once state held result
      exact (List.mem_append.mp member).elim (opening d) (rest d)

theorem Streams.exchanged {exchange : Exchange} {log : List Dealing} {b : Standing}
    {result : Except Fault Subscription} (opens : (Dealing.exchange exchange).Opens)
    (streams : Streams log result b) : Streams (.exchange exchange :: log) result b := by
  have opening : ∀ d ∈ deeds [.exchange exchange], d.Opens := by simpa using opens
  exact .after opening streams

theorem streams_of_subscribes {a b : Standing} {log : List Dealing}
    {result : Except Fault Subscription} (state : a.state = .characteristicFound)
    (bare : a.subscription = none) (ended : InTurn Subscribes Streaming a log result b) :
    Streams log result b := by
  have live : ¬ a.Inert := by simp [Standing.Inert, state]
  cases ended with
  | failed subscribes =>
      refine .unsubscribed ?_ ?_ ?_ _
      · cases subscribes <;> simp [Dealing.Opens.services, Dealing.Opens.subscribe]
      · cases subscribes <;> exact live
      · cases subscribes <;> exact bare
  | passed subscribes streaming =>
      obtain ⟨waits, rfl⟩ := waits_once streaming
      cases subscribes with
      | subscribed =>
          refine .exchanged (.services none) ?_
          refine .streamed ?_ (List.forall_mem_nil _) waits rfl rfl result
          rfl

theorem streams_of_body {wanted : String} {a b : Standing} {log : List Dealing}
    {result : Except Fault Subscription} (state : a.state = .connected)
    (bare : a.subscription = none) (body : Body wanted a log result b) :
    Streams log result b := by
  have live : ¬ a.Inert := by simp [Standing.Inert, state]
  cases body with
  | failed discovers =>
      cases discovers with
      | refused other => exact absurd state other
      | failed _ f => exact .unsubscribed (by simp [Dealing.Opens.services]) live bare _
  | passed discovers rest =>
      cases discovers with
      | discovered _ services =>
          -- Looking up the characteristic is no deed, whether it is found or not.
          refine .exchanged (.services none) ?_
          cases rest with
          | failed locates =>
              refine .unsubscribed (by simp [locates.wordless]) ?_ ?_ _
              · cases locates <;> simp [Standing.Inert]
              · cases locates <;> exact bare
          | passed locates rest =>
              cases locates with
              | located =>
                  refine streams_of_subscribes ?_ ?_ rest
                  · rfl
                  · exact bare

end Session

end BezelStream
