import BezelStream.Gatt
import Mathlib.Data.List.Basic

/-! # Where characteristics stand

A `Spot` is a characteristic together with all that stands before and after it in a table, so a
table that lists the same thing twice has two spots for it. Looking a characteristic up gives the
one at the first spot that fits, of the whole table or of the services of a name. What is found so
is found at the very same spot by a look for its own names, for letter case makes no difference
to any comparison.
-/

namespace BezelStream

theorem sameUuid_refl (uuid : String) : sameUuid uuid uuid = true :=
  beq_self_eq_true _

/-- What is the same without regard to letter case is the same for every comparison. -/
theorem sameUuid_congr {a b : String} (same : sameUuid a b = true) (other : String) :
    sameUuid other a = sameUuid other b := by
  unfold sameUuid at same ⊢
  rw [eq_of_beq same]

/-- A list is split in one way only at the first element of a kind. -/
theorem split_unique {α : Type} {kind : α → Prop} {before other after rest : List α} {a b : α}
    (same : before ++ a :: after = other ++ b :: rest) (fits : kind a) (also : kind b)
    (none : ∀ x ∈ before, ¬ kind x) (neither : ∀ x ∈ other, ¬ kind x) :
    before = other ∧ a = b ∧ after = rest := by
  induction before generalizing other with
  | nil =>
      cases other with
      | nil =>
          cases same
          exact ⟨rfl, rfl, rfl⟩
      | cons x other =>
          cases same
          exact absurd fits (neither a List.mem_cons_self)
  | cons y before ih =>
      cases other with
      | nil =>
          cases same
          exact absurd also (none b List.mem_cons_self)
      | cons x other =>
          obtain ⟨rfl, tails⟩ := List.cons.inj same
          obtain ⟨rfl, ends⟩ := ih tails (fun x member => none x (List.mem_cons_of_mem y member))
            fun x member => neither x (List.mem_cons_of_mem y member)
          exact ⟨rfl, ends⟩

/-- A characteristic where it stands in a table. -/
structure Spot (table : List Service) where
  before : List Service
  service : Service
  after : List Service
  prior : List Characteristic
  characteristic : Characteristic
  later : List Characteristic
  services : table = before ++ service :: after
  characteristics : service.characteristics = prior ++ characteristic :: later

/-- A characteristic has the name. -/
abbrev Wanted (wanted : String) (_ : Service) (c : Characteristic) : Prop :=
  sameUuid c.uuid wanted = true

/-- A characteristic has the one name, and its service the other. -/
abbrev WantedIn (service wanted : String) (s : Service) (c : Characteristic) : Prop :=
  sameUuid s.uuid service = true ∧ sameUuid c.uuid wanted = true

namespace Spot

variable {table : List Service} {asked : Service → Characteristic → Prop} {wanted : String}

/-- The spot of the first characteristic that is asked for, services counting before
    characteristics. -/
structure First (spot : Spot table) (asked : Service → Characteristic → Prop) : Prop where
  fits : asked spot.service spot.characteristic
  before : ∀ s ∈ spot.before, ∀ c ∈ s.characteristics, ¬ asked s c
  prior : ∀ c ∈ spot.prior, ¬ asked spot.service c

theorem mem_service (spot : Spot table) : spot.service ∈ table := by
  have member : spot.service ∈ spot.before ++ spot.service :: spot.after :=
    List.mem_append_right _ List.mem_cons_self
  exact (congrArg (spot.service ∈ ·) spot.services).mpr member

theorem mem_characteristic (spot : Spot table) :
    spot.characteristic ∈ spot.service.characteristics := by
  rw [spot.characteristics]
  exact List.mem_append_right _ List.mem_cons_self

theorem First.unique {spot other : Spot table} (first : spot.First asked)
    (also : other.First asked) : spot = other := by
  obtain ⟨before, s, after, prior, c, later, services, characteristics⟩ := spot
  obtain ⟨before', s', after', prior', c', later', services', characteristics'⟩ := other
  let holds (s : Service) : Prop := ∃ c ∈ s.characteristics, asked s c
  have fits : holds s := ⟨c, by simp [characteristics], first.fits⟩
  have fits' : holds s' := ⟨c', by simp [characteristics'], also.fits⟩
  obtain ⟨rfl, rfl, rfl⟩ := split_unique (services.symm.trans services') fits fits'
    (fun t member ⟨d, listed, fit⟩ => first.before t member d listed fit)
    fun t member ⟨d, listed, fit⟩ => also.before t member d listed fit
  obtain ⟨rfl, rfl, rfl⟩ := split_unique (characteristics.symm.trans characteristics')
    first.fits also.fits first.prior also.prior
  rfl

theorem First.iff_eq {spot : Spot table} (first : spot.First asked) (other : Spot table) :
    other.First asked ↔ other = spot :=
  ⟨fun also => also.unique first, fun same => same ▸ first⟩

/-- The spot in a table with one more service ahead. -/
def under (s : Service) (spot : Spot table) : Spot (s :: table) :=
  { spot with before := s :: spot.before, services := congrArg (s :: ·) spot.services }

theorem First.under {spot : Spot table} (first : spot.First asked) {s : Service}
    (none : ∀ c ∈ s.characteristics, ¬ asked s c) : (spot.under s).First asked where
  fits := first.fits
  before := List.forall_mem_cons.mpr ⟨none, first.before⟩
  prior := first.prior

/-- What is found among some of the services is the first of their characteristics that fits. -/
theorem exists_first {keep : Service → Bool} {s : Service} {c : Characteristic}
    (found : findCharacteristic? wanted (table.filter keep) = some (s, c)) :
    ∃ spot : Spot table, spot.First (fun s c => keep s = true ∧ Wanted wanted s c) ∧
      spot.service = s ∧ spot.characteristic = c := by
  induction table with
  | nil => cases found
  | cons head rest ih =>
      rw [List.filter_cons] at found
      by_cases kept : keep head = true
      · rw [if_pos kept, findCharacteristic?] at found
        cases here : head.find? wanted with
        | some d =>
            rw [here] at found
            cases found
            obtain ⟨fits, prior, later, shape, none⟩ := List.find?_eq_some_iff_append.mp here
            refine ⟨⟨[], s, rest, prior, c, later, rfl, shape⟩,
              ⟨⟨kept, fits⟩, List.forall_mem_nil _, fun d member fit => ?_⟩, rfl, rfl⟩
            simpa [fit.2] using none d member
        | none =>
            rw [here] at found
            obtain ⟨spot, first, rfl, rfl⟩ := ih found
            refine ⟨spot.under head, first.under fun c member fit => ?_, rfl, rfl⟩
            exact List.find?_eq_none.mp here c member fit.2
      · rw [if_neg kept] at found
        obtain ⟨spot, first, rfl, rfl⟩ := ih found
        exact ⟨spot.under head, first.under fun _ _ fit => kept fit.1, rfl, rfl⟩

end Spot

section Finding

variable {table : List Service} {wanted : String}

theorem findCharacteristic_eq_none_iff :
    findCharacteristic? wanted table = none ↔
      ∀ s ∈ table, ∀ c ∈ s.characteristics, ¬ Wanted wanted s c := by
  induction table with
  | nil => exact ⟨nofun, fun _ => rfl⟩
  | cons head rest ih =>
      rw [findCharacteristic?, List.forall_mem_cons, ← ih]
      cases here : head.find? wanted with
      | some c =>
          refine ⟨nofun, fun none => ?_⟩
          obtain ⟨fits, prior, later, shape, -⟩ := List.find?_eq_some_iff_append.mp here
          exact absurd fits (none.1 c (by simp [shape]))
      | none => exact ⟨fun rest => ⟨List.find?_eq_none.mp here, rest⟩, And.right⟩

theorem findCharacteristic_eq_some_iff {s : Service} {c : Characteristic} :
    findCharacteristic? wanted table = some (s, c) ↔
      ∃ spot : Spot table, spot.First (Wanted wanted) ∧ spot.service = s ∧
        spot.characteristic = c := by
  have exists_first {s : Service} {c : Characteristic}
      (found : findCharacteristic? wanted table = some (s, c)) :
      ∃ spot : Spot table, spot.First (Wanted wanted) ∧ spot.service = s ∧
        spot.characteristic = c := by
    rw [← List.filter_true table] at found
    obtain ⟨spot, first, same⟩ := Spot.exists_first found
    refine ⟨spot, ⟨first.fits.2, fun s member c listed fit => ?_, fun c member fit => ?_⟩, same⟩
    · exact first.before s member c listed ⟨rfl, fit⟩
    · exact first.prior c member ⟨rfl, fit⟩
  refine ⟨exists_first, ?_⟩
  rintro ⟨spot, first, rfl, rfl⟩
  cases found : findCharacteristic? wanted table with
  | none =>
      have none := findCharacteristic_eq_none_iff.mp found
      exact absurd first.fits (none _ spot.mem_service _ spot.mem_characteristic)
  | some pair =>
      obtain ⟨other, also, same⟩ := exists_first found
      rw [← also.unique first]
      exact congrArg some (Prod.ext same.1.symm same.2.symm)

/-- Among the services of a name the first characteristic of another is found, or there is none. -/
theorem findCharacteristic_named_cases (service wanted : String) (table : List Service) :
    (findCharacteristic? wanted (servicesNamed service table) = none ∧
        ∀ s ∈ table, ∀ c ∈ s.characteristics, ¬ WantedIn service wanted s c) ∨
      ∃ spot : Spot table, spot.First (WantedIn service wanted) ∧
        findCharacteristic? wanted (servicesNamed service table) =
          some (spot.service, spot.characteristic) := by
  cases found : findCharacteristic? wanted (servicesNamed service table) with
  | none =>
      refine .inl ⟨rfl, fun s member c listed fit => ?_⟩
      have named : s ∈ servicesNamed service table := List.mem_filter.mpr ⟨member, fit.1⟩
      exact findCharacteristic_eq_none_iff.mp found s named c listed fit.2
  | some pair =>
      obtain ⟨s, c⟩ := pair
      obtain ⟨spot, first, rfl, rfl⟩ := Spot.exists_first found
      exact .inr ⟨spot, first, rfl⟩

end Finding

/-! ## Looking again -/

namespace Spot

variable {table : List Service} {wanted : String}

/-- The same spot in the table of the services that have the name of its own. -/
def named (spot : Spot table) : Spot (servicesNamed spot.service.uuid table) where
  before := servicesNamed spot.service.uuid spot.before
  service := spot.service
  after := servicesNamed spot.service.uuid spot.after
  prior := spot.prior
  characteristic := spot.characteristic
  later := spot.later
  services := by
    have own : sameUuid spot.service.uuid spot.service.uuid = true := sameUuid_refl _
    have split := congrArg (servicesNamed spot.service.uuid) spot.services
    simpa [servicesNamed, own] using split
  characteristics := spot.characteristics

/-- What stands first of its name stands first of its own name, as it is spelled there, among
    the services of the name of its own. -/
theorem First.named {spot : Spot table} (first : spot.First (Wanted wanted)) :
    spot.named.First (Wanted spot.characteristic.uuid) where
  fits := sameUuid_refl _
  before s member c listed fit := by
    have fits : Wanted wanted s c := (sameUuid_congr first.fits c.uuid).symm.trans fit
    exact first.before s (List.mem_of_mem_filter member) c listed fits
  prior c member fit :=
    first.prior c member ((sameUuid_congr first.fits c.uuid).symm.trans fit)

end Spot

/-- What was found once is found by a fresh look at the same services. -/
theorem findCharacteristic_again {wanted : String} {services : List Service} {s : Service}
    {c : Characteristic} (found : findCharacteristic? wanted services = some (s, c)) :
    findCharacteristic? c.uuid (servicesNamed s.uuid services) = some (s, c) := by
  obtain ⟨spot, first, rfl, rfl⟩ := findCharacteristic_eq_some_iff.mp found
  exact findCharacteristic_eq_some_iff.mpr ⟨spot.named, first.named, rfl, rfl⟩

end BezelStream
