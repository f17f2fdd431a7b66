import BezelStream.Proofs.Interaction.Dialogue
import BezelStream.Proofs.Scan.Collecting

/-! # Sightings taken in one after another

However a listener fares, the devices that count are those that were the first ones with their
address and accept connections. The listener is told of each of them once, in their order, and
whoever took the device in learns how that ended.
-/

namespace BezelStream

variable {σ : Type}

/-- A device counts after others if it accepts connections and has an address that none of them
    has. -/
def Device.CountsAfter (before : List Device) (device : Device) : Prop :=
  device.address ≠ "" ∧ device.connectable = true ∧
    ∀ other ∈ before, other.address ≠ device.address

instance (before : List Device) (device : Device) : Decidable (device.CountsAfter before) :=
  inferInstanceAs (Decidable (_ ∧ _ ∧ _))

/-- The devices that count where they stand in a list, which follows others. -/
def newcomers (before added : List Device) : List Device :=
  (added.zipIdx.filter fun (device, i) => device.CountsAfter (before ++ added.take i)).map Prod.fst

theorem newcomers_cons (before : List Device) (device : Device) (rest : List Device) :
    newcomers before (device :: rest) =
      (if device.CountsAfter before then [device] else []) ++ newcomers (before ++ [device]) rest := by
  have later (i : Nat) : before ++ (device :: rest).take (i + 1) = before ++ [device] ++ rest.take i := by
    rw [List.take_succ_cons, List.append_assoc]
    rfl
  simp only [newcomers, List.zipIdx_cons', List.filter_cons, List.filter_map, List.take_zero,
    List.append_nil, Function.comp_def, Prod.map_fst, Prod.map_snd, later, decide_eq_true_eq]
  split <;> simp

theorem newcomers_append (before added more : List Device) :
    newcomers before (added ++ more) = newcomers before added ++ newcomers (before ++ added) more := by
  induction added generalizing before with
  | nil => simp [newcomers]
  | cons device rest ih =>
      rw [List.cons_append, newcomers_cons, newcomers_cons, ih, List.append_assoc, List.append_assoc]
      rfl

namespace Sightings

variable {s : Sightings} {before : List Device}

/-- All addresses of these devices were seen, and no others. -/
def Knows (s : Sightings) (before : List Device) : Prop :=
  ∀ address, address ∈ s.seen ↔ address ≠ "" ∧ address ∈ before.map Device.address

/-- Taking in a device tells whether it counts, and its address is known afterwards. -/
theorem Knows.insert (knows : s.Knows before) (device : Device) :
    (s.insert device).1 = decide (device.CountsAfter before) ∧
      (s.insert device).2.Knows (before ++ [device]) := by
  have seen := knows device.address
  by_cases known : device.address = "" ∨ device.address ∈ s.seen
  · rw [s.insert_known known]
    refine ⟨?_, fun address => ?_⟩
    · have old : ¬ device.CountsAfter before := by
        rintro ⟨addressed, -, new⟩
        grind
      exact (decide_eq_false old).symm
    · have := knows address
      grind
  · obtain ⟨addressed, unseen⟩ := not_or.mp known
    rw [s.insert_new addressed unseen]
    refine ⟨?_, fun address => ?_⟩
    · have new : ∀ other ∈ before, other.address ≠ device.address := by grind
      have counts : device.CountsAfter before ↔ device.connectable = true :=
        ⟨fun counts => counts.2.1, fun accepts => ⟨addressed, accepts, new⟩⟩
      simp [counts]
    · have := knows address
      grind

theorem Knows.counting (knows : s.Knows before) (added : List Device) :
    s.counting added = newcomers before added := by
  induction added generalizing s before with
  | nil => rfl
  | cons device rest ih =>
      obtain ⟨counts, knows⟩ := knows.insert device
      rw [counting_cons, newcomers_cons, counts, ih knows]
      simp

theorem knows_nothing : Sightings.Knows {} [] := by
  simp [Knows]

end Sightings

/-- Of the devices that count no two have the same address. -/
theorem nodup_newcomers (added : List Device) :
    ((newcomers [] added).map Device.address).Nodup := by
  rw [← Sightings.knows_nothing.counting]
  exact (nodup_firsts added).sublist ((List.filter_sublist.trans List.filter_sublist).map _)

/-! ## What a listener is told -/

namespace Listener

/-- The events by which a listener is told of a signal, if that ended so. -/
def account : Listener σ → ScanSignal → Option Fault → List Event
  | .silent, _, _ => []
  | .custom _, signal, fault => [.told signal, .ended (.told signal) fault]
  | .inWords notifier, signal, fault => notifier.account (words signal) fault

theorem dialogue_tell {ρ : Type} (listener : Listener σ) (signal : ScanSignal) (p : Progress σ ρ) :
    dialogue ((listener.tell signal).runFrom p).2.journal = dialogue p.journal ++
      listener.account signal (faultOf? ((listener.tell signal).runFrom p).1) := by
  cases listener with
  | silent => exact (List.append_nil _).symm
  | custom hooks => exact dialogue_called _ p rfl fun _ => rfl
  | inWords notifier => exact notifier.dialogue_tell (words signal) p

/-- The events by which a listener is told of some devices. -/
def accounts (listener : Listener σ) (told : List (Device × Option Fault)) : List Event :=
  told.flatMap fun (device, fault) => listener.account (.found device) fault

end Listener

/-! ## One after another -/

/-- Takes in sightings one after another, and gives how each of them ended. A fault of one does not
    keep the next from being taken in. -/
def collectAll (listener : Listener σ) :
    List Device → Progress σ Sightings → List (Except Fault Bool) × Progress σ Sightings
  | [], p => ([], p)
  | device :: rest, p =>
    let ended := (collect listener device).runFrom p
    let others := collectAll listener rest ended.2
    (ended.1 :: others.1, others.2)

/-- How taking in a device ends that counts, if telling the listener of it ended so. -/
def countedWith : Option Fault → Except Fault Bool
  | none => .ok true
  | some f => .error f

/-- How each of some devices was taken in after others, and how telling of those that count ended. -/
inductive TakenIn : (before added : List Device) → List (Except Fault Bool) →
    (told : List (Device × Option Fault)) → Prop where
  | nil {before : List Device} : TakenIn before [] [] []
  | passedOver {before rest : List Device} {device : Device} {results : List (Except Fault Bool)}
      {told : List (Device × Option Fault)} (not : ¬ device.CountsAfter before)
      (others : TakenIn (before ++ [device]) rest results told) :
      TakenIn before (device :: rest) (.ok false :: results) told
  | counted {before rest : List Device} {device : Device} {results : List (Except Fault Bool)}
      {told : List (Device × Option Fault)} (counts : device.CountsAfter before)
      (fault : Option Fault) (others : TakenIn (before ++ [device]) rest results told) :
      TakenIn before (device :: rest) (countedWith fault :: results) ((device, fault) :: told)

theorem TakenIn.told_eq {before added : List Device} {results : List (Except Fault Bool)}
    {told : List (Device × Option Fault)} (taken : TakenIn before added results told) :
    told.map Prod.fst = newcomers before added := by
  induction taken with
  | nil => rfl
  | passedOver not _ ih => rw [newcomers_cons, if_neg not, ih, List.nil_append]
  | counted counts fault _ ih => rw [newcomers_cons, if_pos counts, List.map_cons, ih, List.singleton_append]

section

variable (listener : Listener σ)

/-- A device that does not count changes nothing but what was seen. -/
theorem collect_passedOver {device : Device} {p : Progress σ Sightings}
    (not : (p.own.insert device).1 = false) :
    (collect listener device).runFrom p = (.ok false, { p with own := (p.own.insert device).2 }) := by
  simp only [collect, Op.runFrom_bind, Op.runFrom_own, Op.runFrom_updateOwn, not,
    Bool.false_eq_true, if_false, Op.runFrom_pure]

/-- A device that counts does so whether or not the listener fails, whose fault is passed on. -/
theorem collect_counted {device : Device} {p : Progress σ Sightings}
    (counts : (p.own.insert device).1 = true) :
    ∃ fault, ((collect listener device).runFrom p).1 = countedWith fault ∧
      ((collect listener device).runFrom p).2.own = (p.own.insert device).2 ∧
      dialogue ((collect listener device).runFrom p).2.journal =
        dialogue p.journal ++ listener.account (.found device) fault := by
  let q := Progress.note (recordOf "" (.found device)) { p with own := (p.own.insert device).2 }
  let told := (listener.tell (.found device)).runFrom q
  have run : (collect listener device).runFrom p = (told.1.map fun _ => true, told.2) := by
    simp only [collect, Op.log, Op.runFrom_bind, Op.runFrom_own, Op.runFrom_updateOwn, if_pos counts,
      Op.runFrom_note]
    have same : (listener.tell (.found device)).runFrom q =
        (listener.tell (.found device)).runFrom (Progress.note (.log .debug .scan
          ("Found device " ++ device.identifier ++ " [" ++ device.address ++ "]"))
          { p with own := (p.own.insert device).2 }) := rfl
    rw [← same]
    rcases ended : (listener.tell (.found device)).runFrom q with ⟨f | _, r⟩
    · simp only [told, ended, Except.map]
    · simp only [told, ended, Except.map, counts, Op.runFrom_pure]
  rw [run]
  refine ⟨faultOf? told.1, ?_, listener.tell_own (.found device) q, ?_⟩
  · cases told.1 <;> rfl
  · have noted : dialogue q.journal = dialogue p.journal := dialogue_note rfl _
    rw [listener.dialogue_tell (.found device) q, noted]

theorem collectAll_taken {before : List Device} (added : List Device) {p : Progress σ Sightings}
    (knows : p.own.Knows before) :
    ∃ told, TakenIn before added (collectAll listener added p).1 told ∧
      (collectAll listener added p).2.own.devices = p.own.devices ++ told.map Prod.fst ∧
      dialogue (collectAll listener added p).2.journal =
        dialogue p.journal ++ listener.accounts told := by
  induction added generalizing before p with
  | nil => exact ⟨[], .nil, by simp [collectAll], by simp [collectAll, Listener.accounts]⟩
  | cons device rest ih =>
      obtain ⟨counts, known⟩ := knows.insert device
      have devices := p.own.devices_insert device
      rw [collectAll]
      cases new : (p.own.insert device).1 with
      | false =>
          rw [new] at counts devices
          rw [collect_passedOver listener new]
          obtain ⟨told, taken, given, accounts⟩ := ih (p := { p with own := (p.own.insert device).2 }) known
          refine ⟨told, .passedOver (of_decide_eq_false counts.symm) taken, ?_, accounts⟩
          rw [given, devices]
          simp
      | true =>
          rw [new] at counts devices
          obtain ⟨fault, result, own, account⟩ := collect_counted listener new
          generalize (collect listener device).runFrom p = ended at result own account ⊢
          rw [← own] at known devices
          obtain ⟨told, taken, given, accounts⟩ := ih known
          refine ⟨(device, fault) :: told, ?_, ?_, ?_⟩
          · dsimp only
            rw [result]
            exact .counted (of_decide_eq_true counts.symm) fault taken
          · rw [given, devices, List.append_assoc]
            rfl
          · rw [accounts, account, List.append_assoc]
            rfl

/-- Before anything is sighted. -/
def Progress.unsighted (env : σ) (requested : Bool) : Progress σ Sightings :=
  ⟨env, [], requested, {}⟩

/-- Whatever devices are taken in, and however the listener fares, those that count are those that
    accept connections and are the first with their address. The listener is told of just these,
    once and in order, and every device is taken in as that ended. -/
theorem collectAll_keeps_first (added : List Device) (env : σ) (requested : Bool) :
    let counting (n : Nat) : List Device :=
      (collectAll listener (added.take n) (.unsighted env requested)).2.own.devices
    let run := collectAll listener added (.unsighted env requested)
    run.2.own.devices = newcomers [] added ∧ (run.2.own.devices.map Device.address).Nodup ∧
      (∀ n more, counting n <+: counting (n + more)) ∧
      ∃ told, TakenIn [] added run.1 told ∧ told.map Prod.fst = run.2.own.devices ∧
        dialogue run.2.journal = listener.accounts told := by
  intro counting run
  have devices (some : List Device) :
      (collectAll listener some (.unsighted env requested)).2.own.devices = newcomers [] some := by
    obtain ⟨told, taken, given, -⟩ :=
      collectAll_taken listener some (p := .unsighted env requested) Sightings.knows_nothing
    rw [given, taken.told_eq]
    rfl
  refine ⟨devices added, ?_, fun n more => ?_, ?_⟩
  · rw [devices added]
    exact nodup_newcomers added
  · rw [show counting n = _ from devices _, show counting (n + more) = _ from devices _,
      List.take_add, newcomers_append]
    exact List.prefix_append _ _
  · obtain ⟨told, taken, given, accounts⟩ :=
      collectAll_taken listener added (p := .unsighted env requested) Sightings.knows_nothing
    exact ⟨told, taken, given.symm, accounts⟩

end

end BezelStream
