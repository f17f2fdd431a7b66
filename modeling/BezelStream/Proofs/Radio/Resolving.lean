import BezelStream.Proofs.Radio.Stopping
import BezelStream.Proofs.Session.Choosing

/-! # Where characteristics are looked up

A session takes the first characteristic of its name in a whole table, and a link the first in
the first service of the name that the session goes on with. Both come to the same place in the
table unless an earlier service has that very name. Then the link looks into the wrong service,
which does not have the characteristic, and nothing is subscribed to.
-/

namespace BezelStream

namespace Radio

open Session (RunEnds)

/-- A characteristic where it stands in a table. -/
structure Place (table : List GattService) where
  before : List GattService
  service : GattService
  after : List GattService
  prior : List GattCharacteristic
  characteristic : GattCharacteristic
  later : List GattCharacteristic
  services : table = before ++ service :: after
  characteristics : service.characteristics = prior ++ characteristic :: later

namespace Place

variable {table : List GattService} {wanted : String} (place : Place table)

/-- The place of the first characteristic of a name in the whole table. -/
structure Selected (wanted : String) : Prop where
  fits : sameUuid place.characteristic.uuid wanted = true
  before : ∀ s ∈ place.before, ∀ c ∈ s.characteristics, sameUuid c.uuid wanted = false
  prior : ∀ c ∈ place.prior, sameUuid c.uuid wanted = false

/-- The place of the first characteristic of its own name in the first service of its own. -/
structure Resolved : Prop where
  before : ∀ s ∈ place.before, s.uuid ≠ place.service.uuid
  prior : ∀ c ∈ place.prior, c.uuid ≠ place.characteristic.uuid

end Place

variable {τ : Type} {table : List GattService} {wanted : String}

/-- Describing a table moves nothing: the first of a name there is the description of the first
    here. -/
theorem exists_selected {s : Service} {c : Characteristic}
    (found : findCharacteristic? wanted (table.map GattService.described) = some (s, c)) :
    ∃ place : Place table, place.Selected wanted ∧ s = place.service.described ∧
      c = place.characteristic.described := by
  obtain ⟨⟨before, _, after, prior, _, later, services, characteristics⟩, first, rfl, rfl⟩ :=
    findCharacteristic_eq_some_iff.mp found
  obtain ⟨ahead, rest, rfl, rfl, split⟩ := List.map_eq_append_iff.mp services
  obtain ⟨service, behind, rfl, rfl, rfl⟩ := List.map_eq_cons_iff.mp split
  obtain ⟨earlier, more, shape, rfl, split⟩ := List.map_eq_append_iff.mp characteristics
  obtain ⟨characteristic, others, rfl, rfl, rfl⟩ := List.map_eq_cons_iff.mp split
  refine ⟨⟨ahead, service, behind, earlier, characteristic, others, rfl, shape⟩,
    ⟨first.fits, fun s member c listed => ?_, fun c member => ?_⟩, rfl, rfl⟩
  · have described : c.described ∈ s.described.characteristics := List.mem_map_of_mem listed
    have unfit := first.before s.described (List.mem_map_of_mem member) c.described described
    exact Bool.eq_false_iff.mpr unfit
  · have unfit := first.prior c.described (List.mem_map_of_mem member)
    exact Bool.eq_false_iff.mpr unfit

variable {place : Place table}

/-- A link resolves what was selected to just that, or fails because the characteristic is
    missing from an earlier service of the same name. -/
theorem resolve_selected (selected : place.Selected wanted) :
    (place.Resolved ∧ resolve table place.service.uuid place.characteristic.uuid =
        .ok place.characteristic) ∨
      (∃ s ∈ place.before, s.uuid = place.service.uuid) ∧
        resolve table place.service.uuid place.characteristic.uuid =
          .error (.characteristicAbsent place.characteristic.uuid place.service.uuid) := by
  have others {c : GattCharacteristic} (unfit : sameUuid c.uuid wanted = false) :
      c.uuid ≠ place.characteristic.uuid := by
    rintro same
    rw [same, selected.fits] at unfit
    cases unfit
  cases shadow : place.before.find? fun s => s.uuid == place.service.uuid with
  | some s =>
      have named : s.uuid = place.service.uuid := eq_of_beq (List.find?_some
        (p := fun s : GattService => s.uuid == place.service.uuid) shadow)
      have member : s ∈ place.before := List.mem_of_find?_eq_some shadow
      have absent : (s.characteristics.find? fun c => c.uuid == place.characteristic.uuid) =
          none := by
        refine List.find?_eq_none.mpr fun c listed => ?_
        simpa using others (selected.before s member c listed)
      refine .inr ⟨⟨s, member, named⟩, ?_⟩
      have first : (table.find? fun s => s.uuid == place.service.uuid) = some s := by
        have split := congrArg (List.find? fun s => s.uuid == place.service.uuid) place.services
        rwa [List.find?_append, shadow] at split
      rw [resolve, first]
      dsimp only
      rw [absent]
  | none =>
      have prior (c : GattCharacteristic) (member : c ∈ place.prior) := others (selected.prior c member)
      have before : ∀ s ∈ place.before, s.uuid ≠ place.service.uuid := by
        intro s member
        simpa using List.find?_eq_none.mp shadow s member
      refine .inl ⟨⟨before, prior⟩, ?_⟩
      have first : (table.find? fun s => s.uuid == place.service.uuid) = some place.service := by
        have split := congrArg (List.find? fun s => s.uuid == place.service.uuid) place.services
        rwa [List.find?_append, shadow, List.find?_cons, beq_self_eq_true] at split
      have passed : (place.prior.find? fun c => c.uuid == place.characteristic.uuid) = none := by
        refine List.find?_eq_none.mpr fun c member => ?_
        simpa using prior c member
      have listed : (place.service.characteristics.find? fun c =>
          c.uuid == place.characteristic.uuid) = some place.characteristic := by
        rw [place.characteristics, List.find?_append, passed, List.find?_cons, beq_self_eq_true]
        rfl
      rw [resolve, first]
      dsimp only
      rw [listed]

/-- Whenever the central lists the services of a client, it lists this table. -/
def Central.Lists (central : Central τ) (table : List GattService) : Prop :=
  ∀ client host given, (central.services client host).1.result = .ok given → given = table

variable {link : Link τ} {s : Session (Machine τ)}

theorem lists_described (listed : link.central.Lists table)
    (linked : s.peripheral = link.peripheral) :
    s.ListsOnly (table.map GattService.described) := by
  intro m services given
  rw [linked] at given
  change (link.services m).1.result = .ok services at given
  unfold Link.services Link.withClient at given
  cases held : m.held with
  | none =>
      rw [held] at given
      cases given
  | some client =>
      simp only [held, Link.table, Link.wrapReply] at given
      cases answered : (link.central.services client m.host).1.result with
      | error f =>
          rw [answered] at given
          cases given
      | ok tables =>
          rw [answered] at given
          cases given
          cases listed client m.host tables answered
          rfl

/-- Over a link whose table never changes, a run of a session subscribes to nothing but the first
    characteristic of its name in the whole table, in the mode in which that sends. The link
    resolves it to this very characteristic of this very service, and fails because it is missing
    exactly if an earlier service has the same name. -/
theorem run_resolves (listed : link.central.Lists table) (linked : s.peripheral = link.peripheral)
    (wait : StopWait (Machine τ)) {p : Progress (Machine τ) Lifecycle} (fresh : p.own = {}) :
    RunEnds (s.run wait) p fun _ q => ∃ log, p.Adds log q ∧
      ∀ service characteristic mode fault,
        (.subscribe service characteristic mode, fault) ∈ exchanges log →
        ∃ place : Place table, place.Selected s.characteristic ∧ place.service.uuid = service ∧
          place.characteristic.uuid = characteristic ∧
          place.characteristic.described.mode? = some mode ∧
          ((place.Resolved ∧ resolve table service characteristic = .ok place.characteristic) ∨
            (∃ earlier ∈ place.before, earlier.uuid = service) ∧
              resolve table service characteristic =
                .error (.characteristicAbsent characteristic service)) := by
  refine (Session.run_chooses (lists_described listed linked) wait fresh).imp fun _ _ chosen => ?_
  obtain ⟨log, adds, chooses⟩ := chosen
  refine ⟨log, adds, fun service characteristic mode fault asked => ?_⟩
  obtain ⟨_, _, found, rfl, rfl, sends⟩ := chooses _ asked service characteristic mode fault rfl
  obtain ⟨place, selected, rfl, rfl⟩ := exists_selected found
  exact ⟨place, selected, rfl, rfl, sends, resolve_selected selected⟩

/-- A link to a device with this table. -/
def linkWith (table : List GattService) : Link Unit where
  device := ⟨"SHB1000", "AA", true, true⟩
  central := { crowdedHost.central with services := fun _ => .pure table }
  platform := "darwin"
  connectTimeout := .zero false

/-- A session that looks for `2a37` in this table. -/
def sessionWith (table : List GattService) : Session (Machine Unit) where
  peripheral := (linkWith table).peripheral
  characteristic := "2a37"
  sink := .print
  diagnostics := false
  notifier := .silent

/-- Letter case makes no difference to the session, nor a service of the same name further down
    to the link: values are asked for of the characteristic that was found to notify. -/
theorem run_resolves_first :
    let table : List GattService :=
      [⟨"180D", [⟨"2A37", ["read", "notify"]⟩]⟩, ⟨"180D", [⟨"2a37", ["indicate"]⟩]⟩]
    let p : Progress (Machine Unit) Lifecycle := ⟨⟨(), none, 0⟩, [], false, {}⟩
    let run := ((sessionWith table).run (.custom (.pure ()))).runFrom p
    .subscribe "180D" "2A37" .notify ∈ calls run.2.journal ∧
      ∃ place : Place table, place.Selected "2a37" ∧ place.Resolved ∧
        place.characteristic = ⟨"2A37", ["read", "notify"]⟩ := by
  intro table p run
  have asked : .subscribe "180D" "2A37" .notify ∈ calls run.2.journal := by decide +kernel
  have listed : (linkWith table).central.Lists table := by
    rintro _ _ _ ⟨⟩
    rfl
  obtain ⟨log, adds, agree⟩ := run_resolves (s := sessionWith table) (p := p) listed rfl
    (.custom (.pure ())) rfl
  refine ⟨asked, ?_⟩
  rw [adds.calls] at asked
  obtain ⟨⟨_, fault⟩, exchanged, rfl⟩ := List.mem_map.mp asked
  obtain ⟨place, selected, -, -, -, ⟨resolved, gives⟩ | ⟨-, gives⟩⟩ := agree _ _ _ _ exchanged
  · exact ⟨place, selected, resolved, Except.ok.inj gives.symm⟩
  · cases gives

/-- The session finds its characteristic in the second of two services of one name, and the link
    misses it in the first: values are never asked for. -/
theorem run_unresolved :
    let table : List GattService :=
      [⟨"180d", [⟨"2a38", ["read"]⟩]⟩, ⟨"180d", [⟨"2a37", ["notify"]⟩]⟩]
    let p : Progress (Machine Unit) Lifecycle := ⟨⟨(), none, 0⟩, [], false, {}⟩
    let run := ((sessionWith table).run (.custom (.pure ()))).runFrom p
    let absent : Fault := .characteristicAbsent "2a37" "180d"
    findCharacteristic? "2a37" (table.map GattService.described) =
        some (⟨"180d", [⟨"2a37", true, false⟩]⟩, ⟨"2a37", true, false⟩) ∧
      resolve table "180d" "2a37" = .error absent ∧
      run.1 = .error (.linkSubscribe .notify "2a37" absent) ∧
      radioCalls run.2.journal = [.client 0 (.create true "AA" (.zero false)), .client 0 .connect,
        .client 0 .disconnect] := by
  exact ⟨by decide +kernel, rfl, rfl, by decide +kernel⟩

end Radio

end BezelStream
