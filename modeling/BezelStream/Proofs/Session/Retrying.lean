import BezelStream.Proofs.Session.Invariant

/-! # Steps that fail

Each step of a session asks for a state. In any other state it is refused, and then nothing happens
at all. A step that fails leaves the session where it stood, but for the pump, so the step may be
tried again and the session may be closed as if it had not been tried.
-/

namespace BezelStream

/-- The standings differ in nothing but whether the pump runs. -/
def Standing.AsFar (a b : Standing) : Prop :=
  b = { a with running := b.running }

namespace Session

variable {σ α : Type} {a b : Standing} {log : List Dealing} {f : Fault}

/-! ## The steps one by one -/

theorem Connects.failed_asFar {result : Except Fault Unit} (connects : Connects a log result b)
    (failed : result = .error f) : a.AsFar b := by
  cases connects with
  | refused | failed => rfl
  | connected => cases failed

theorem Discovers.failed_asFar {result : Except Fault (List Service)}
    (discovers : Discovers a log result b) (failed : result = .error f) : a.AsFar b := by
  cases discovers with
  | refused | failed => rfl
  | discovered => cases failed

theorem Locates.failed_asFar {wanted : String} {services : List Service}
    {result : Except Fault (String × String)} (locates : Locates wanted services a log result b)
    (failed : result = .error f) : a.AsFar b := by
  cases locates with
  | refused | missed => rfl
  | located => cases failed

theorem Subscribes.failed_asFar {result : Except Fault Subscription}
    (subscribes : Subscribes a log result b) (failed : result = .error f) : a.AsFar b := by
  cases subscribes with
  | refused | unlocated | unlisted | unfit | failed => rfl
  | subscribed => cases failed

theorem Connects.dealt {result : Except Fault Unit} (connects : Connects a log result b)
    (idle : a.state = .idle) : log ≠ [] := by
  cases connects with
  | refused begun => exact absurd idle begun
  | failed | connected => exact List.cons_ne_nil _ _

theorem Discovers.dealt {result : Except Fault (List Service)}
    (discovers : Discovers a log result b) (ready : a.state = .connected) : log ≠ [] := by
  cases discovers with
  | refused other => exact absurd ready other
  | failed | discovered => exact List.cons_ne_nil _ _

theorem Subscribes.dealt {result : Except Fault Subscription} (subscribes : Subscribes a log result b)
    (ready : a.state = .characteristicFound) (target : a.target ≠ none) : log ≠ [] := by
  cases subscribes with
  | refused other => exact absurd ready other
  | unlocated _ nothing => exact absurd nothing target
  | unlisted | unfit | failed | subscribed => exact List.cons_ne_nil _ _

/-- Somebody outside dealt with the session between two points of a run. -/
def DealtBetween (p q : Progress σ Lifecycle) : Prop :=
  ∃ log, log ≠ [] ∧ p.Adds log q

theorem DealtBetween.after {p q r : Progress σ Lifecycle} {log : List Dealing} (adds : p.Adds log q)
    (dealt : DealtBetween q r) : DealtBetween p r := by
  obtain ⟨more, some, later⟩ := dealt
  exact ⟨log ++ more, List.append_ne_nil_of_right_ne_nil _ some, adds.trans later⟩

/-- Only somebody who was told can fail to be told. -/
theorem tellAll_dealt (s : Session σ) (texts : List String) (p : Progress σ Lifecycle) :
    RunEnds (s.tellAll texts) p fun result q => ∀ f, result = .error f → DealtBetween p q := by
  induction texts generalizing p with
  | nil => exact .pure nofun
  | cons text rest ih =>
      refine .bind (.tell (fun q stays => ?_) fun told q stays => ?_)
      · exact (ih q).imp fun _ _ dealt f failed => .after stays.adds (dealt f failed)
      · cases told with
        | error f => exact fun _ _ => ⟨_, List.cons_ne_nil _ _, stays.adds⟩
        | ok => exact (ih q).imp fun _ _ dealt f failed => .after stays.adds (dealt f failed)

/-- Where the characteristic is looked for, it is missing or somebody fails to be told so. -/
theorem locate_dealt (s : Session σ) (services : List Service) {p : Progress σ Lifecycle}
    (ready : p.own.state = .servicesDiscovered) :
    RunEnds (s.locate services) p fun result q => ∀ f, result = .error f →
      f = .characteristicMissing s.characteristic ∨ DealtBetween p q := by
  refine .require_bind (fun other => absurd ready other) fun _ => ?_
  cases findCharacteristic? s.characteristic services with
  | some pair => exact .update_bind (.log_bind (.pure nofun))
  | none =>
      have missing (q : Progress σ Lifecycle) :
          RunEnds (throw (.characteristicMissing s.characteristic)) q
            fun (result : Except Fault (String × String)) q => ∀ f, result = .error f →
              f = .characteristicMissing s.characteristic ∨ DealtBetween p q := by
        refine .throw fun f failed => .inl ?_
        cases failed
        rfl
      dsimp only
      split
      · have lines (q : Progress σ Lifecycle) {log : List Dealing} (adds : p.Adds log q) :
            RunEnds (do
                s.tellAll (describe services)
                throw (.characteristicMissing s.characteristic)) q
              fun (result : Except Fault (String × String)) q => ∀ f, result = .error f →
                f = .characteristicMissing s.characteristic ∨ DealtBetween p q := by
          refine .bind ((s.tellAll_dealt _ q).imp fun told r dealt => ?_)
          cases told with
          | ok => exact missing r
          | error f => exact fun _ _ => .inr (.after adds (dealt f rfl))
        refine .bind (.tell (fun q stays => lines q stays.adds) fun told q stays => ?_)
        cases told with
        | ok => exact lines q stays.adds
        | error f => exact fun _ _ => .inr ⟨_, List.cons_ne_nil _ _, stays.adds⟩
      · exact .bind (.pure (missing p))

/-! ## What a failed step leaves -/

/-- A session that has found the characteristic knows where. -/
def Aimed (a : Standing) (_ : List Dealing) : Prop :=
  a.state = .characteristicFound → a.target ≠ none

theorem aimed_kept : Invariant Aimed where
  connects := by
    intro a log more result b aimed connects
    cases connects with
    | refused | failed => exact aimed
    | connected => exact nofun
  discovers := by
    intro a log more result b aimed discovers
    cases discovers with
    | refused | failed => exact aimed
    | discovered => exact nofun
  locates wanted services := by
    intro a log more result b aimed locates
    cases locates with
    | refused | missed => exact aimed
    | located => exact fun _ => Option.some_ne_none _
  subscribes := by
    intro a log more result b aimed subscribes
    cases subscribes with
    | refused | unlocated | unlisted | unfit | failed => exact aimed
    | subscribed => exact nofun
  tells := by
    intro a log more result b aimed tells
    cases tells with
    | unheard | told => exact aimed
  waits := by
    intro a log more result b aimed waits
    cases waits with
    | waited => exact aimed
  closes := by
    intro a log more result b aimed closes
    cases closes with
    | inert => exact aimed
    | disconnected | unsubscribed => exact nofun

/-- A step is refused: it fails because the session is misused, and nothing has happened. -/
def Refused (x : Step σ α) (p : Progress σ Lifecycle) : Prop :=
  ∃ f, f.failure? = some .session ∧ x.runFrom p = (.error f, p)

theorem DealtBetween.not_refused {x : Step σ α} {p : Progress σ Lifecycle}
    (dealt : DealtBetween p (x.runFrom p).2) : ¬ Refused x p := by
  rintro ⟨f, -, run⟩
  obtain ⟨log, some, adds⟩ := dealt
  rw [run] at adds
  exact some (adds.unique (.refl p))

/-- A step that asks for a state is refused in every other state. -/
theorem refused_of_require {expected : SessionState} {next : Unit → Step σ α}
    {p : Progress σ Lifecycle} (other : p.own.state ≠ expected) :
    Refused (require expected >>= next) p := by
  refine ⟨.wrongState p.own.state expected, rfl, ?_⟩
  have ends : RunEnds (require expected >>= next) p fun result q =>
      (result, q) = (.error (.wrongState p.own.state expected), p) :=
    .require_bind (fun _ => rfl) fun ready => absurd ready other
  exact ends

section

variable (s : Session σ) (p : Progress σ Lifecycle)

theorem connect_refused_iff : Refused s.connect p ↔ p.own.state ≠ .idle := by
  constructor
  · rintro refused idle
    obtain ⟨log, adds, connects⟩ := s.connect_does p
    exact DealtBetween.not_refused ⟨log, connects.dealt idle, adds⟩ refused
  · intro begun
    refine ⟨.cannotConnect p.own.state, rfl, ?_⟩
    have ends : RunEnds s.connect p fun result q =>
        (result, q) = (.error (.cannotConnect p.own.state), p) := by
      refine .own_bind ?_
      rw [if_pos begun]
      exact .bind (.throw rfl)
    exact ends

theorem discover_refused_iff : Refused s.discover p ↔ p.own.state ≠ .connected := by
  refine ⟨fun refused ready => ?_, refused_of_require⟩
  obtain ⟨log, adds, discovers⟩ := s.discover_does p
  exact DealtBetween.not_refused ⟨log, discovers.dealt ready, adds⟩ refused

theorem locate_refused_iff (services : List Service) :
    Refused (s.locate services) p ↔ p.own.state ≠ .servicesDiscovered := by
  refine ⟨fun refused ready => ?_, refused_of_require⟩
  have dealt := s.locate_dealt services ready
  obtain ⟨f, misused, run⟩ := refused
  rcases dealt f (congrArg Prod.fst run) with rfl | dealt
  · cases misused
  · exact dealt.not_refused ⟨f, misused, run⟩

theorem subscribe_refused_iff (aimed : Aimed p.own.standing []) :
    Refused s.subscribe p ↔ p.own.state ≠ .characteristicFound := by
  refine ⟨fun refused ready => ?_, refused_of_require⟩
  obtain ⟨log, adds, subscribes⟩ := s.subscribe_does p
  exact DealtBetween.not_refused ⟨log, subscribes.dealt ready (aimed ready), adds⟩ refused

end

/-- What closing comes to in a session that is connected: it disconnects at last. -/
theorem close_disconnects (s : Session σ) {p : Progress σ Lifecycle}
    (live : ¬ p.own.standing.Inert) :
    RunEnds s.close p fun _ q => q.own.state = .disconnected ∧ q.own.subscription = none ∧
      ∃ log fault, p.Adds (log ++ [.exchange (.disconnect, fault)]) q := by
  refine (s.close_does p).imp fun result q closed => ?_
  obtain ⟨log, adds, closes⟩ := closed
  generalize standing : q.own.standing = b at closes
  cases closes with
  | inert past => exact absurd past live
  | disconnected _ bare fault =>
      refine ⟨congrArg Standing.state standing, ?_, [], fault, adds⟩
      exact (congrArg Standing.subscription standing).trans bare
  | unsubscribed _ held report fault =>
      exact ⟨congrArg Standing.state standing, congrArg Standing.subscription standing, _, fault,
        adds⟩

/-- What a step has left of a session by failing: the session is where it was, the step may be tried
    again as before, and closing the session disconnects it if it was connected. -/
structure Undone (s : Session σ) (x : Step σ α) (p q : Progress σ Lifecycle) : Prop where
  state : q.own.state = p.own.state
  subscription : q.own.subscription = p.own.subscription
  target : q.own.target = p.own.target
  again : Refused x q ↔ Refused x p
  closes : ¬ p.own.standing.Inert → RunEnds s.close q fun _ r =>
    r.own.state = .disconnected ∧ r.own.subscription = none ∧
      ∃ log fault, q.Adds (log ++ [.exchange (.disconnect, fault)]) r

/-- A step that is guarded by a state: it is refused in any other one, and undone if it fails. -/
structure Guarded (s : Session σ) (expected : SessionState) (x : Step σ α)
    (p : Progress σ Lifecycle) : Prop where
  refused : Refused x p ↔ p.own.state ≠ expected
  undone : ∀ f q, x.runFrom p = (.error f, q) → Undone s x p q

theorem Guarded.of_does {s : Session σ} {expected : SessionState} {x : Step σ α}
    {p : Progress σ Lifecycle} {outcomes : Outcomes α} (does : DoesOneOf x outcomes)
    (asFar : ∀ {a log f b}, outcomes a log (.error f) b → a.AsFar b)
    (refused : ∀ q, Aimed q.own.standing [] → (Refused x q ↔ q.own.state ≠ expected))
    (aimed : Aimed p.own.standing []) : Guarded s expected x p := by
  refine ⟨refused p aimed, fun f q run => ?_⟩
  obtain ⟨log, -, outcome⟩ := does p
  rw [run] at outcome
  have same : q.own.standing = { p.own.standing with running := q.own.pump.running } :=
    asFar outcome
  have state : q.own.state = p.own.state := congrArg Standing.state same
  have target : q.own.target = p.own.target := congrArg Standing.target same
  have still : Aimed q.own.standing [] := by rwa [same]
  refine ⟨state, congrArg Standing.subscription same, target, ?_, fun live => ?_⟩
  · rw [refused q still, refused p aimed, state]
  · refine s.close_disconnects ?_
    rw [same]
    exact live

/-- After whatever is done with a session, each of its steps is refused just in the states that it
    does not ask for, and leaves the session as it was if it fails. -/
theorem failed_steps_undone (s : Session σ) (acts : List (Act σ)) (env : σ) (requested : Bool) :
    let p := s.follow acts (.fresh env requested)
    Guarded s .idle s.connect p ∧ Guarded s .connected s.discover p ∧
      (∀ services, Guarded s .servicesDiscovered (s.locate services) p) ∧
      Guarded s .characteristicFound s.subscribe p := by
  intro p
  have aimed : Aimed p.own.standing [] := (aimed_kept.holds_after s nofun acts env requested).1
  refine ⟨?_, ?_, fun services => ?_, ?_⟩
  · exact .of_does s.connect_does (·.failed_asFar rfl) (fun q _ => s.connect_refused_iff q) aimed
  · exact .of_does s.discover_does (·.failed_asFar rfl) (fun q _ => s.discover_refused_iff q) aimed
  · exact .of_does (s.locate_does services) (·.failed_asFar rfl)
      (fun q _ => s.locate_refused_iff q services) aimed
  · exact .of_does s.subscribe_does (·.failed_asFar rfl) (fun q => s.subscribe_refused_iff q) aimed

end Session

end BezelStream
