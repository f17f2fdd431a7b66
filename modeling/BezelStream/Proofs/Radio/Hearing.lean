import Mathlib.Data.List.Find
import BezelStream.Proofs.Scan.Sightings
import BezelStream.Radio.Scan

/-! # What is heard

Of each address one advertisement decides: the first that carries a name, or the first of
all if none does. Reporting named devices as they are met and keeping the others back comes
to just that, although a device that was reported may be kept back again later.
-/

namespace BezelStream

namespace Device

def isNamed (device : Device) : Bool :=
  !device.identifier.isEmpty

/-- Whether a device is kept back until its name is known. -/
def waits (device : Device) : Bool :=
  device.identifier.isEmpty && !device.address.isEmpty

end Device

namespace Radio

/-- The devices that advertisements make known. An unreadable one makes none known. -/
def known (heard : List Advertisement) : List Device :=
  heard.filterMap fun a => a.device.toOption

/-- Whether none of the devices of its address carries a name. -/
def neverNamed (devices : List Device) (device : Device) : Bool :=
  devices.all fun other => other.address != device.address || !other.isNamed

theorem neverNamed_iff {devices : List Device} {device : Device} :
    neverNamed devices device = true ↔
      ¬ ∃ other ∈ devices, other.address = device.address ∧ other.isNamed = true := by
  simp only [neverNamed, List.all_eq_true, Bool.or_eq_true, bne_iff_ne, Bool.not_eq_true']
  grind

/-- The device that decides for an address: the first that carries a name, or the first of all. -/
def deciding? (devices : List Device) (address : String) : Option Device :=
  (devices.find? fun device => device.isNamed && device.address == address).or
    (devices.find? fun device => device.address == address)

/-- The devices that are reported as they are met. -/
def reported (devices : List Device) : List Device :=
  devices.filter fun device => !device.waits

/-- The devices that are kept back in the end, if these were kept back before. -/
def kept : List Device → (unnamed : List Device) → List Device
  | [], unnamed => unnamed
  | device :: rest, unnamed =>
    kept rest <|
      if device.waits then keepBack device unnamed
      else unnamed.filter fun other => other.address != device.address

theorem keepBack_firsts {device : Device} (addressed : device.address ≠ "")
    {unnamed : List Device} (distinct : firsts unnamed = unnamed) :
    keepBack device unnamed = firsts (unnamed ++ [device]) := by
  have only : firsts [device] = [device] := by
    rw [firsts_addressed addressed]
    rfl
  rw [firsts_append, distinct, only, keepBack]
  have same : (unnamed.map Device.address).contains device.address =
      unnamed.any fun other => other.address == device.address := by
    rw [Bool.eq_iff_iff]
    simp
  rw [List.filter_cons, Device.addressed, same]
  cases unnamed.any fun other => other.address == device.address with
  | true => exact (List.append_nil _).symm
  | false => rfl

section Hear

variable {τ : Type} {next : List Device → Machine τ → Course (Machine τ)} {a : Advertisement}
  {heard : List Advertisement} {unnamed : List Device} {device : Device}

theorem known_unreadable {flaw : Mismatch} (read : a.device = .error flaw) :
    known (a :: heard) = known heard := by
  simp [known, read, Except.toOption]

theorem known_readable (read : a.device = .ok device) :
    known (a :: heard) = device :: known heard := by
  simp [known, read, Except.toOption]

theorem hear_unreadable {flaw : Mismatch} (read : a.device = .error flaw) :
    hear next (a :: heard) unnamed = hear next heard unnamed := by
  funext m
  rw [hear, read]

theorem hear_waiting (read : a.device = .ok device) (waits : device.waits = true) :
    hear next (a :: heard) unnamed = hear next heard (keepBack device unnamed) := by
  funext m
  rw [hear, read]
  exact if_pos waits

theorem hear_reported (read : a.device = .ok device) (reports : device.waits = false) :
    hear next (a :: heard) unnamed = fun m => .gives [] (.found device) m fun _ =>
      hear next heard (unnamed.filter fun other => other.address != device.address) := by
  funext m
  rw [hear, read]
  exact if_neg (ne_true_of_eq_false reports)

end Hear

/-- What is kept back of addresses of which nothing is reported: their first sightings. -/
theorem filter_kept {accept : String → Bool} {devices : List Device}
    (waiting : ∀ device ∈ devices, accept device.address = true → device.waits = true)
    {unnamed : List Device} (distinct : firsts unnamed = unnamed) :
    (kept devices unnamed).filter (Device.addressed accept) =
      firsts ((unnamed ++ devices).filter (Device.addressed accept)) := by
  induction devices generalizing unnamed with
  | nil => rw [kept, List.append_nil, firsts_filter, distinct]
  | cons device rest ih =>
      have others : ∀ other ∈ rest, accept other.address = true → other.waits = true :=
        fun other member => waiting other (List.mem_cons_of_mem device member)
      rw [kept]
      cases waits : device.waits with
      | true =>
          have addressed : device.address ≠ "" := by
            intro nameless
            simp [Device.waits, nameless] at waits
          rw [if_pos rfl, keepBack_firsts addressed distinct, ih others (firsts_firsts _),
            firsts_filter, firsts_firsts_append, ← firsts_filter, List.append_assoc,
            List.singleton_append]
      | false =>
          -- Then nothing of its address is asked for, so it makes no difference what is dropped.
          have apart : accept device.address = false := by
            have accepted := waiting device List.mem_cons_self
            grind
          have dropped : (unnamed.filter fun other => other.address != device.address).filter
              (Device.addressed accept) = unnamed.filter (Device.addressed accept) := by
            rw [List.filter_filter]
            apply List.filter_congr
            intro other _
            by_cases same : other.address = device.address
            · simp [Device.addressed, same, apart]
            · simp [same]
          have still : firsts (unnamed.filter fun other => other.address != device.address) =
              unnamed.filter fun other => other.address != device.address := by
            rw [firsts_filter (fun address => address != device.address), distinct]
          rw [if_neg Bool.false_ne_true, ih others still, List.filter_append, List.filter_append,
            dropped, List.filter_cons_of_neg]
          simpa using apart

/-- The devices that are reported at once and those reported in the end have the same first
    sightings as the named ones and those that never were. -/
theorem firsts_reported (devices : List Device) :
    firsts (reported devices ++ kept devices []) =
      firsts (devices.filter Device.isNamed) ++ firsts (devices.filter (neverNamed devices)) := by
  have named : firsts (reported devices) = firsts (devices.filter Device.isNamed) := by
    apply firsts_congr
    intro device _ addressed
    simp [Device.waits, Device.isNamed, addressed]
  have unreported : ∀ device ∈ devices,
      (!((reported devices).map Device.address).contains device.address) = true →
        device.waits = true := by
    intro device member unreported
    cases waits : device.waits with
    | true => rfl
    | false =>
        have shown : device ∈ reported devices := by simp [reported, member, waits]
        simp [List.mem_map_of_mem shown] at unreported
  rw [firsts_append, named, ← firsts_filter, filter_kept unreported rfl, firsts_firsts,
    List.nil_append]
  congr 1
  apply firsts_congr
  intro device _ addressed
  -- Whatever is reported of an address that is no empty one is named.
  have shown : (device.address ∈ (reported devices).map Device.address) ↔
      ∃ other ∈ devices, other.address = device.address ∧ other.isNamed = true := by
    simp only [List.mem_map, reported, List.mem_filter, Device.waits, Device.isNamed]
    constructor
    · rintro ⟨other, ⟨member, reports⟩, same⟩
      refine ⟨other, member, same, ?_⟩
      simpa [same, addressed] using reports
    · rintro ⟨other, member, same, named⟩
      refine ⟨other, ⟨member, ?_⟩, same⟩
      simpa [same, addressed] using named
  rw [Bool.eq_iff_iff, neverNamed_iff, ← shown]
  simp

/-- The first sightings of the named devices and of those that never were are the devices that
    decide for their addresses. -/
theorem mem_deciding {device : Device} {devices : List Device} :
    device ∈ firsts (devices.filter Device.isNamed) ++ firsts (devices.filter (neverNamed devices)) ↔
      device.address ≠ "" ∧ deciding? devices device.address = some device := by
  rw [List.mem_append, mem_firsts_filter, mem_firsts_filter, ← and_or_left, deciding?]
  apply and_congr_right
  intro _
  cases named : devices.find? fun other => other.isNamed && other.address == device.address with
  | some first =>
      -- An address with a named device is none of those never named.
      have carries := List.find?_some named
      simp only [Bool.and_eq_true, beq_iff_eq] at carries
      have none : devices.find? (fun other =>
          neverNamed devices other && other.address == device.address) = none := by
        rw [List.find?_eq_none]
        intro other _ both
        simp only [Bool.and_eq_true, beq_iff_eq, neverNamed_iff] at both
        apply both.1
        exact ⟨first, List.mem_of_find?_eq_some named, carries.2.trans both.2.symm, carries.1⟩
      simp [none]
  | none =>
      have never : ∀ other ∈ devices, other.address = device.address →
          neverNamed devices other = true := by
        intro other _ same
        rw [neverNamed_iff, same]
        rintro ⟨first, member, also, carries⟩
        simpa [also, carries] using List.find?_eq_none.mp named first member
      have same : devices.find? (fun other =>
            neverNamed devices other && other.address == device.address) =
          devices.find? fun other => other.address == device.address := by
        apply List.find?_congr
        intro other member
        by_cases same : other.address = device.address
        · simp [never other member same]
        · simp [same]
      simp [same]

end Radio

end BezelStream
