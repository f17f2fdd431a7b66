import BezelStream.Proofs.Streamer.Stages

/-! # Streams touch what they selected, and release the adapter

Whatever the collaborators do, the adapter that a stream was given is closed once and last,
and the only device that is touched is the selected one.
-/

namespace BezelStream

open Op

variable {σ α : Type}

/-- What has an event for its last that does not follow later is there already. -/
theorem prefix_of_prefix_append {event : Event} {before journal more : List Event}
    (asked : before ++ [event] <+: journal ++ more) (absent : event ∉ more) :
    before ++ [event] <+: journal := by
  rcases List.prefix_or_prefix_of_prefix asked (List.prefix_append journal more) with
    earlier | later
  · exact earlier
  · rcases List.prefix_concat_iff.mp later with same | ⟨between, rfl⟩
    · exact same ▸ List.prefix_rfl
    · rw [List.append_assoc] at asked
      have member := ((List.prefix_append_right_inj journal).mp asked).subset
        (List.mem_append_right between (List.mem_singleton_self event))
      exact absurd member absent

namespace Streamer

variable {s : Streamer σ} {adapter : Adapter σ} {p : Progress σ Unit}

/-! ## What is touched -/

/-- The session with the peripheral created for a device has returned, after that was
    disconnected, and this is the journal. -/
inductive Returned (s : Streamer σ) (adapter : Adapter σ) (device : Device) : List Event → Prop where
  | returned {env : σ} {peripheral : Peripheral σ} {start finish : Progress σ Lifecycle}
      {subscription : Subscription}
      (answered : (adapter.peripheral device env).1.result = .ok peripheral)
      (created : start.journal.getLast? = some (.ended (.adapter (.peripheral device)) none))
      (fresh : start.own = {})
      (ran : ((s.sessionWith peripheral).run s.wait).runFrom start = (.ok subscription, finish))
      (disconnected : (actions finish.journal).getLast? = some (.peripheral .disconnect)) :
      Returned s adapter device finish.journal

/-- The farewell is bidden only where the session has returned. -/
def BidsFarewell (s : Streamer σ) (adapter : Adapter σ) (device : Device)
    (journal : List Event) : Prop :=
  ∀ before event, event.Farewell → before ++ [event] <+: journal →
    s.Returned adapter device before

/-- A stream that ends by a value returns the device and the one subscription made to it. -/
def Returns (device : Device) (result : Except Fault StreamResult) (journal : List Event) : Prop :=
  ∀ streamed, result = .ok streamed → streamed.device = device ∧
    ∀ service characteristic mode,
      (.subscribe service characteristic mode, none) ∈ exchanges (dealings journal) ↔
        streamed.subscription = ⟨service, characteristic, mode⟩

/-- What a stream touches between the scan and the end, if it ends so with such a journal. It
    is nothing only if no device was selected, or the one that was could not be announced. -/
inductive Touches (s : Streamer σ) (adapter : Adapter σ) (p : Progress σ Unit)
    (result : Except Fault StreamResult) (journal : List Event) : List Event → Prop where
  | nothing (failed : ∃ f, result = .error f) (unbidden : Unbidden journal)
      (unannounced : ∀ device chosen, s.Selects adapter p device chosen →
        ∃ f, ((s.notifier.tell (announcement device)).runFrom chosen).1 = .error f) :
      Touches s adapter p result journal []
  | peripheral {device : Device} {chosen : Progress σ Unit} (calls : List PeripheralCall)
      (selects : s.Selects adapter p device chosen)
      (created : ∃ before, chosen.journal <+: before ∧
        before ++ [.adapter (.peripheral device)] <+: journal)
      (returns : Returns device result journal) (bids : s.BidsFarewell adapter device journal) :
      Touches s adapter p result journal (.adapter (.peripheral device) :: calls.map .peripheral)

section BidsFarewell

variable {device : Device} {journal more : List Event}

theorem bids_of_unbidden (unbidden : Unbidden journal) : s.BidsFarewell adapter device journal :=
  fun _ _ bids told => absurd told (unbidden.not_told bids)

theorem BidsFarewell.later (bids : s.BidsFarewell adapter device journal) (unbidden : Unbidden more) :
    s.BidsFarewell adapter device (journal ++ more) := by
  intro before event bidden told
  refine bids before event bidden (prefix_of_prefix_append told fun member => ?_)
  exact unbidden event member bidden

theorem Returned.bids (returned : s.Returned adapter device journal) (silent : Unbidden journal)
    (event : Event) : s.BidsFarewell adapter device (journal ++ [event]) := by
  intro before other bidden told
  rcases List.prefix_concat_iff.mp told with same | earlier
  · obtain ⟨rfl, -⟩ := List.append_inj' same rfl
    exact returned
  · exact absurd earlier (silent.not_told bidden)

end BidsFarewell

/-- What follows may hide the result by a fault, but does not touch anything. -/
theorem Touches.later {result final : Except Fault StreamResult} {journal more touched : List Event}
    (touches : s.Touches adapter p result journal touched)
    (hides : final = result ∨ ∃ f, final = .error f)
    (quiet : ∀ event ∈ more, event.exchange? = none) (unbidden : Unbidden more) :
    s.Touches adapter p final (journal ++ more) touched := by
  cases touches with
  | nothing failed before unannounced =>
      refine .nothing ?_ (before.append unbidden) unannounced
      rcases hides with rfl | hidden
      · exact failed
      · exact hidden
  | peripheral calls selects created returns bids =>
      refine .peripheral calls selects ?_ ?_ (bids.later unbidden)
      · obtain ⟨before, after, began⟩ := created
        exact ⟨before, after, began.trans (List.prefix_append journal more)⟩
      · rintro streamed rfl
        have same : exchanges (dealings (journal ++ more)) = exchanges (dealings journal) := by
          rw [exchanges_dealings, exchanges_dealings, List.filterMap_append,
            List.filterMap_eq_nil_iff.mpr quiet, List.append_nil]
        rw [same]
        rcases hides with same | ⟨f, hidden⟩
        · exact returns streamed same.symm
        · cases hidden

/-! ## Up to the session -/

theorem createPeripheral_since (adapter : Adapter σ) (device : Device) (q : Progress σ Unit) :
    ((createPeripheral adapter device).runFrom q).2.Since Event.Idle
      (q.journal ++ [.adapter (.peripheral device)]) :=
  called_since (.perform (adapter.peripheral device) admits_idle) fun _ => ⟨rfl, rfl, nofun⟩

/-- The run up to a peripheral that was asked for. -/
structure Creates (s : Streamer σ) (adapter : Adapter σ) (p : Progress σ Unit) (device : Device)
    (r : Progress σ Unit) : Prop where
  selected : ∃ chosen before, s.Selects adapter p device chosen ∧ chosen.journal <+: before ∧
    before ++ [.adapter (.peripheral device)] <+: r.journal
  actions : actions r.journal = BezelStream.actions p.journal ++
    [.adapter (.scan s.config.scanTimeout), .adapter (.peripheral device)]
  exchanges : exchanges (dealings r.journal) = BezelStream.exchanges (dealings p.journal)
  unbidden : Unbidden p.journal → Unbidden r.journal

theorem creates_of_approach {device : Device} {q : Progress σ Unit}
    (approached : (s.approach adapter).runFrom p = (.ok device, q)) :
    s.Creates adapter p device ((createPeripheral adapter device).runFrom q).2 := by
  have scanned := s.approach_since adapter p
  rw [approached] at scanned
  have created := createPeripheral_since adapter device q
  obtain ⟨chosen, selects, later⟩ := selects_of_approach approached
  refine ⟨⟨chosen, q.journal, selects, later, created.grows⟩, ?_, ?_, fun unbidden => ?_⟩
  · rw [created.actions, actions_append, scanned.actions, actions_append, List.append_assoc]
    rfl
  · rw [created.exchanges, exchanges_dealings_append, scanned.exchanges,
      exchanges_dealings_append]
    exact (List.append_nil _).trans (List.append_nil _)
  · refine created.unbidden (.append ?_ (unbidden_adapter _))
    exact scanned.unbidden (.append unbidden (unbidden_adapter _))

/-! ## The session -/

section Session

variable {session : Session σ} {wait : StopWait σ} {result : Except Fault Subscription}
  {r t : Progress σ Lifecycle} (ran : (session.run wait).runFrom r = (result, t))

include ran

theorem session_since : t.Since Event.OfSession r.journal := by
  have since := session.run_writes wait r
  rw [ran] at since
  exact since

theorem session_unbidden (unbidden : Unbidden r.journal) : Unbidden t.journal := by
  obtain ⟨more, grown, written⟩ := session_since ran
  rw [grown]
  exact unbidden.append fun event member => (written event member).unbidden

/-- All that a session asks for is calls of its peripheral, which yield what it returns. -/
theorem session_asks (fresh : r.own = {}) :
    ∃ exchanged, actions t.journal =
        actions r.journal ++ (exchanged.map Prod.fst).map .peripheral ∧
      exchanges (dealings t.journal) = exchanges (dealings r.journal) ++ exchanged ∧
      ∀ subscription, result = .ok subscription → Session.Yields subscription exchanged := by
  have yielded := session.run_yields wait fresh
  unfold Session.RunEnds at yielded
  rw [ran] at yielded
  obtain ⟨log, adds, yields⟩ := yielded
  obtain ⟨more, grown, written⟩ := session_since ran
  have called : calls more = (exchanges log).map Prod.fst := by
    have calls := adds.calls
    rw [grown, BezelStream.calls, List.filterMap_append] at calls
    exact List.append_cancel_left calls
  refine ⟨exchanges log, ?_, ?_, yields⟩
  · rw [grown, actions_append, actions_ofSession written, called]
  · rw [adds.dealings, exchanges_append]

end Session

theorem createPeripheral_ends {device : Device} {peripheral : Peripheral σ}
    {q r : Progress σ Unit}
    (created : (createPeripheral adapter device).runFrom q = (.ok peripheral, r)) :
    (adapter.peripheral device q.env).1.result = .ok peripheral ∧
      r.journal.getLast? = some (.ended (.adapter (.peripheral device)) none) := by
  have last := called_last (.adapter (.peripheral device)) (perform (adapter.peripheral device)) q
  rw [← createPeripheral, created] at last
  exact ⟨congrArg Prod.fst created, last⟩

theorem returned_of_run {device : Device} {peripheral : Peripheral σ}
    {subscription : Subscription} {q r : Progress σ Unit} {t : Progress σ Lifecycle}
    (created : (createPeripheral adapter device).runFrom q = (.ok peripheral, r))
    (ran : ((s.sessionWith peripheral).run s.wait).runFrom (r.withOwn {}) = (.ok subscription, t)) :
    s.Returned adapter device t.journal := by
  obtain ⟨answered, ended⟩ := createPeripheral_ends created
  obtain ⟨exchanged, asked, -, yields⟩ := session_asks ran rfl
  obtain ⟨fault, last⟩ := (yields subscription rfl).last
  refine .returned answered ended rfl ran ?_
  rw [asked, List.getLast?_append, List.getLast?_map, List.getLast?_map, last]
  rfl

/-- A stream that has come to its session touches the device that it selected. -/
theorem Creates.touches {device : Device} {r : Progress σ Unit}
    {result : Except Fault StreamResult} {journal : List Event}
    (creates : s.Creates adapter p device r) (grown : r.journal <+: journal)
    (calls : List PeripheralCall) (returns : Returns device result journal)
    (bids : s.BidsFarewell adapter device journal) :
    s.Touches adapter p result journal
      (.adapter (.peripheral device) :: calls.map .peripheral) := by
  obtain ⟨chosen, before, selects, after, began⟩ := creates.selected
  exact .peripheral calls selects ⟨before, after, began.trans grown⟩ returns bids

/-- A stream whose session has returned bids farewell once at most, and only then. -/
theorem Creates.touches_returned {device : Device} {peripheral : Peripheral σ}
    {subscription : Subscription} {q r : Progress σ Unit} {t : Progress σ Lifecycle}
    (creates : s.Creates adapter p device r) (unbidden : Unbidden p.journal)
    (bare : BezelStream.exchanges (dealings p.journal) = [])
    (created : (createPeripheral adapter device).runFrom q = (.ok peripheral, r))
    (ran : ((s.sessionWith peripheral).run s.wait).runFrom (r.withOwn {}) = (.ok subscription, t))
    {told : List Event} (farewells : told = [] ∨ ∃ event, event.Farewell ∧ told = [event]) :
    ∃ touched, BezelStream.actions (t.journal ++ told) =
        BezelStream.actions p.journal ++ .adapter (.scan s.config.scanTimeout) :: touched ∧
      s.Touches adapter p (.ok ⟨device, subscription⟩) (t.journal ++ told) touched := by
  obtain ⟨exchanged, asked, exchanges, yields⟩ := session_asks ran rfl
  have grown := (session_since ran).grows.trans (List.prefix_append t.journal told)
  have silent : Unbidden t.journal := session_unbidden ran (creates.unbidden unbidden)
  -- The farewell itself is neither an action nor a call of the peripheral.
  have still : BezelStream.actions told = [] ∧ BezelStream.exchanges (dealings told) = [] := by
    rcases farewells with rfl | ⟨event, ⟨⟩, rfl⟩ <;> exact ⟨rfl, rfl⟩
  refine ⟨_, ?_, creates.touches grown (exchanged.map Prod.fst) ?_ ?_⟩
  · rw [actions_append, still.1, List.append_nil, asked, creates.actions, List.append_assoc]
    rfl
  · rintro streamed ⟨⟩
    refine ⟨rfl, ?_⟩
    rw [exchanges_dealings_append, still.2, List.append_nil, exchanges, creates.exchanges, bare]
    exact (yields subscription rfl).subscribe_mem_iff
  · rcases farewells with rfl | ⟨event, -, rfl⟩
    · rw [List.append_nil]
      exact bids_of_unbidden silent
    · exact (returned_of_run created ran).bids silent event

theorem StreamGoes.touches {result : Except Fault StreamResult} {q : Progress σ Unit}
    (goes : s.StreamGoes adapter p result q) (unbidden : Unbidden p.journal)
    (bare : exchanges (dealings p.journal) = []) :
    ∃ touched, actions q.journal =
        actions p.journal ++ .adapter (.scan s.config.scanTimeout) :: touched ∧
      s.Touches adapter p result q.journal touched := by
  cases goes with
  | astray approached =>
      have scanned := s.approach_since adapter p
      rw [approached] at scanned
      refine ⟨[], ?_, .nothing ⟨_, rfl⟩ ?_ fun device chosen selects => ?_⟩
      · rw [scanned.actions, actions_append]
        rfl
      · exact scanned.unbidden (.append unbidden (unbidden_adapter _))
      · have announced := approach_of_selects selects
        rw [approached] at announced
        cases told : ((s.notifier.tell (announcement device)).runFrom chosen).1 with
        | error f => exact ⟨f, rfl⟩
        | ok =>
            rw [told] at announced
            cases announced
  | refused approached refused =>
      have creates := creates_of_approach approached
      rw [refused] at creates
      exact ⟨_, creates.actions,
        creates.touches List.prefix_rfl [] nofun (bids_of_unbidden (creates.unbidden unbidden))⟩
  | broken approached created broken =>
      have creates := creates_of_approach approached
      rw [created] at creates
      obtain ⟨exchanged, asked, -, -⟩ := session_asks broken rfl
      have silent := session_unbidden broken (creates.unbidden unbidden)
      refine ⟨_, ?_, creates.touches (session_since broken).grows (exchanged.map Prod.fst) nofun
        (bids_of_unbidden silent)⟩
      rw [asked, creates.actions, List.append_assoc]
      rfl
  | @through device peripheral subscription ending _ r _ t approached created ran told =>
      have creates := creates_of_approach approached
      rw [created] at creates
      obtain ⟨bids, farewells, since⟩ := farewell_since s.notifier (t.withOwn ())
      rw [told] at since
      obtain ⟨touched, asked, touches⟩ :=
        creates.touches_returned unbidden bare created ran farewells
      refine ⟨touched, since.actions.trans asked, ?_⟩
      obtain ⟨more, grown, idle⟩ := since
      rw [grown]
      refine touches.later ?_ (fun event member => (idle event member).exchange)
        fun event member => (idle event member).unbidden
      cases ending with
      | ok => exact .inl rfl
      | error f => exact .inr ⟨f, rfl⟩

/-! ## The adapter -/

/-- Nothing was done but to ask for an adapter, which failed. -/
structure Unlocated (s : Streamer σ) (f : Fault) (ended : Except Fault α × Progress σ Unit) :
    Prop where
  failed : ended.1 = .error f
  alone : ∃ asides, (∀ event ∈ asides, event.Aside) ∧
    ended.2.journal = .adapter (.locate s.config.connectTimeout) :: asides ++
      [.ended (.adapter (.locate s.config.connectTimeout)) (some f)]

theorem withAdapter_unlocated {work : Adapter σ → Op σ Unit α} {env : σ} {requested : Bool}
    {f : Fault} (failed : (s.locate s.config.connectTimeout env).1.result = .error f) :
    s.Unlocated f ((s.withAdapter work).runFrom ⟨env, [], requested, ()⟩) := by
  let start : Progress σ Unit := ⟨env, [], requested, ()⟩
  have located : s.findAdapter.runFrom start = (.error f, (s.findAdapter.runFrom start).2) :=
    Prod.ext failed rfl
  have whole : (s.withAdapter work).runFrom start =
      (.error f, (s.findAdapter.runFrom start).2) := by
    rw [withAdapter, runFrom_bind, located]
  obtain ⟨asides, aside, journal⟩ := called_asides (.adapter (.locate s.config.connectTimeout))
    (s.locate s.config.connectTimeout) start
  rw [failed] at journal
  rw [whole]
  exact ⟨rfl, asides, aside, journal⟩

/-- An adapter that was found is closed after whatever was done with it, and only a failure to
    close it hides how that ended. -/
theorem withAdapter_closes (work : Adapter σ → Op σ Unit α) {q : Progress σ Unit}
    (located : s.findAdapter.runFrom p = (.ok adapter, q)) :
    let worked := (work adapter).runFrom q
    let ended := (s.withAdapter work).runFrom p
    (ended.1 = worked.1 ∨ ∃ f, ended.1 = .error f) ∧
      ended.2.Since Event.Idle (worked.2.journal ++ [.adapter .close]) := by
  intro worked ended
  have closes : ((closeAdapter adapter).runFrom worked.2).2.Since Event.Idle
      (worked.2.journal ++ [.adapter .close]) :=
    called_since (.perform adapter.close admits_idle) fun _ => ⟨rfl, rfl, nofun⟩
  have whole : ended = ((work adapter).ensuring (closeAdapter adapter)).runFrom q := by
    simp only [ended, withAdapter, runFrom_bind, located]
  rw [whole, runFrom_ensuring]
  rcases closed : (closeAdapter adapter).runFrom worked.2 with ⟨f | _, r⟩ <;> rw [closed] at closes
  · exact ⟨.inr ⟨f, rfl⟩, closes⟩
  · exact ⟨.inl rfl, closes⟩

theorem findAdapter_since (s : Streamer σ) (p : Progress σ Unit) :
    (s.findAdapter.runFrom p).2.Since Event.Idle
      (p.journal ++ [.adapter (.locate s.config.connectTimeout)]) :=
  called_since (.perform (s.locate s.config.connectTimeout) admits_idle) fun _ => ⟨rfl, rfl, nofun⟩

/-- Whatever the collaborators do: where no adapter is found, nothing else is done. Otherwise
    the adapter is closed once and last, by a stream as by listing devices; in between, the scan
    aside, a stream touches at most one device, which it selected, and returns what it has
    subscribed to there. -/
theorem stream_touches_selected (s : Streamer σ) (env : σ) (requested : Bool) :
    let start : Progress σ Unit := ⟨env, [], requested, ()⟩
    let streamed := s.stream.runFrom start
    let listed := s.listDevices.runFrom start
    let locates : Event := .adapter (.locate s.config.connectTimeout)
    let scans : Event := .adapter (.scan s.config.scanTimeout)
    match (s.locate s.config.connectTimeout env).1.result with
    | .error f => s.Unlocated f streamed ∧ s.Unlocated f listed
    | .ok adapter =>
        actions listed.2.journal = [locates, scans, .adapter .close] ∧
          ∃ touched, actions streamed.2.journal =
              locates :: scans :: touched ++ [.adapter .close] ∧
            s.Touches adapter (s.findAdapter.runFrom start).2 streamed.1 streamed.2.journal
              touched := by
  intro start streamed listed locates scans
  cases found : (s.locate s.config.connectTimeout env).1.result with
  | error f => exact ⟨withAdapter_unlocated found, withAdapter_unlocated found⟩
  | ok adapter =>
      have since := s.findAdapter_since start
      have located : s.findAdapter.runFrom start =
          (.ok adapter, (s.findAdapter.runFrom start).2) := Prod.ext found rfl
      generalize (s.findAdapter.runFrom start).2 = q at since located ⊢
      have sought : actions q.journal = [locates] := since.actions
      constructor
      · obtain ⟨-, closes⟩ := withAdapter_closes s.scanWith located
        have scanned := s.scan_since adapter q
        refine closes.actions.trans ?_
        rw [actions_append, scanned.actions, actions_append, sought]
        rfl
      · obtain ⟨hides, closes⟩ := withAdapter_closes s.streamWith located
        have unbidden : Unbidden q.journal := since.unbidden (unbidden_adapter _)
        have bare : exchanges (dealings q.journal) = [] := since.exchanges
        obtain ⟨touched, asked, touches⟩ := (s.goes adapter q).touches unbidden bare
        refine ⟨touched, ?_, ?_⟩
        · refine closes.actions.trans ?_
          rw [actions_append, asked, sought]
          rfl
        · obtain ⟨more, grown, idle⟩ := closes
          have closed : streamed.2.journal = ((s.streamWith adapter).runFrom q).2.journal ++
              .adapter .close :: more := grown.trans (List.append_assoc _ _ _)
          rw [closed]
          refine touches.later hides ?_ ?_
          · rintro event (_ | ⟨_, member⟩)
            · rfl
            · exact (idle event member).exchange
          · exact (unbidden_adapter .close).append fun event member => (idle event member).unbidden

end Streamer

end BezelStream
