import BezelStream.Scan.Sightings

/-! # First sightings

The first sighting of each address, in order, is all that a list of sightings comes to. The
sightings collected are the first ones among those that accept connections, whatever was
met in between.
-/

namespace BezelStream

/-- The first sighting of each address, in order. Sightings without an address do not count. -/
def firsts : List Device → List Device
  | [] => []
  | device :: rest =>
    if device.address.isEmpty then firsts rest
    else device :: (firsts rest).filter fun other => other.address != device.address

/-- A view of devices that sees nothing but the address. -/
abbrev Device.addressed (accept : String → Bool) (device : Device) : Bool :=
  accept device.address

theorem firsts_nameless {device : Device} (nameless : device.address = "") (rest : List Device) :
    firsts (device :: rest) = firsts rest := by
  simp [firsts, nameless]

theorem firsts_addressed {device : Device} (addressed : device.address ≠ "")
    (rest : List Device) :
    firsts (device :: rest) =
      device :: (firsts rest).filter fun other => other.address != device.address := by
  simp [firsts, addressed]

theorem firsts_filter (accept : String → Bool) (devices : List Device) :
    firsts (devices.filter (Device.addressed accept)) =
      (firsts devices).filter (Device.addressed accept) := by
  induction devices with
  | nil => rfl
  | cons device rest ih =>
      by_cases addressed : device.address = ""
      · rw [firsts_nameless addressed, ← ih]
        cases accepted : accept device.address with
        | true => simp [accepted, firsts_nameless addressed]
        | false => simp [accepted]
      · rw [firsts_addressed addressed]
        cases accepted : accept device.address with
        | true =>
            simp only [List.filter_cons, Device.addressed, accepted, if_true]
            rw [firsts_addressed addressed, ih, List.filter_filter, List.filter_filter]
            simp only [Bool.and_comm]
        | false =>
            simp only [List.filter_cons, Device.addressed, accepted, Bool.false_eq_true, if_false]
            rw [ih, List.filter_filter]
            apply List.filter_congr
            intro other _
            by_cases same : other.address = device.address
            · simp [Device.addressed, same, accepted]
            · simp [same]

theorem firsts_firsts (devices : List Device) : firsts (firsts devices) = firsts devices := by
  induction devices with
  | nil => rfl
  | cons device rest ih =>
      by_cases addressed : device.address = ""
      · rw [firsts_nameless addressed, ih]
      · rw [firsts_addressed addressed, firsts_addressed addressed,
          firsts_filter (fun address => address != device.address), ih]
        simp [List.filter_filter]

/-- Only sightings with an address make a difference. -/
theorem firsts_congr {p q : Device → Bool} (devices : List Device)
    (agree : ∀ device ∈ devices, device.address ≠ "" → p device = q device) :
    firsts (devices.filter p) = firsts (devices.filter q) := by
  induction devices with
  | nil => rfl
  | cons device rest ih =>
      have tail := ih fun other member => agree other (List.mem_cons_of_mem device member)
      by_cases addressed : device.address = ""
      · simp only [List.filter_cons]
        split <;> split <;> simp [firsts_nameless addressed, tail]
      · have same := agree device List.mem_cons_self addressed
        simp only [List.filter_cons, same]
        split
        · rw [firsts_addressed addressed, firsts_addressed addressed, tail]
        · exact tail

theorem mem_firsts {device : Device} {devices : List Device} :
    device ∈ firsts devices ↔ device.address ≠ "" ∧
      devices.find? (fun other => other.address == device.address) = some device := by
  induction devices with
  | nil => simp [firsts]
  | cons other rest ih =>
      by_cases addressed : other.address = ""
      · rw [firsts_nameless addressed, ih]
        grind
      · rw [firsts_addressed addressed]
        grind

theorem mem_firsts_filter {device : Device} {devices : List Device} {accept : Device → Bool} :
    device ∈ firsts (devices.filter accept) ↔ device.address ≠ "" ∧
      devices.find? (fun other => accept other && other.address == device.address) =
        some device := by
  rw [mem_firsts, List.find?_filter]
  simp only [Bool.decide_and, Bool.decide_eq_true]

theorem address_ne_of_mem_firsts {device : Device} {devices : List Device}
    (member : device ∈ firsts devices) : device.address ≠ "" :=
  (mem_firsts.mp member).1

theorem firsts_sublist (devices : List Device) : (firsts devices).Sublist devices := by
  induction devices with
  | nil => exact .slnil
  | cons device rest ih =>
      by_cases addressed : device.address = ""
      · rw [firsts_nameless addressed]
        exact ih.cons device
      · rw [firsts_addressed addressed]
        exact (List.filter_sublist.trans ih).cons_cons device

theorem nodup_firsts (devices : List Device) : ((firsts devices).map Device.address).Nodup := by
  induction devices with
  | nil => exact List.nodup_nil
  | cons device rest ih =>
      by_cases addressed : device.address = ""
      · rw [firsts_nameless addressed]
        exact ih
      · rw [firsts_addressed addressed, List.map_cons, List.nodup_cons]
        constructor
        · simp
        · exact ih.sublist (List.filter_sublist.map _)

theorem firsts_append (left right : List Device) :
    firsts (left ++ right) = firsts left ++
      (firsts right).filter (Device.addressed fun address =>
        !(left.map Device.address).contains address) := by
  induction left with
  | nil =>
      have all : (firsts right).filter (fun _ => true) = firsts right :=
        List.filter_eq_self.mpr fun _ _ => rfl
      exact all.symm
  | cons device rest ih =>
      by_cases addressed : device.address = ""
      · rw [List.cons_append, firsts_nameless addressed, firsts_nameless addressed, ih]
        congr 1
        apply List.filter_congr
        intro other member
        have := address_ne_of_mem_firsts member
        grind
      · rw [List.cons_append, firsts_addressed addressed, firsts_addressed addressed, ih,
          List.filter_append, List.filter_filter, List.cons_append]
        congr 2
        apply List.filter_congr
        grind

theorem mem_map_firsts {address : String} {devices : List Device} :
    address ∈ (firsts devices).map Device.address ↔
      address ≠ "" ∧ address ∈ devices.map Device.address := by
  constructor
  · intro member
    obtain ⟨device, first, rfl⟩ := List.mem_map.mp member
    refine ⟨address_ne_of_mem_firsts first, ?_⟩
    exact List.mem_map_of_mem ((firsts_sublist devices).subset first)
  · rintro ⟨addressed, member⟩
    obtain ⟨device, sighted, rfl⟩ := List.mem_map.mp member
    have found : (devices.find? fun other => other.address == device.address).isSome := by
      rw [List.find?_isSome]
      exact ⟨device, sighted, by simp⟩
    obtain ⟨first, found⟩ := Option.isSome_iff_exists.mp found
    have same : first.address = device.address := by simpa using List.find?_some found
    rw [← same] at addressed found ⊢
    exact List.mem_map_of_mem (mem_firsts.mpr ⟨addressed, found⟩)

/-- Sightings may be reduced to the first ones before others are added. -/
theorem firsts_firsts_append (left right : List Device) :
    firsts (firsts left ++ right) = firsts (left ++ right) := by
  rw [firsts_append, firsts_append, firsts_firsts]
  congr 1
  apply List.filter_congr
  intro device member
  have addressed := address_ne_of_mem_firsts member
  have same : device.address ∈ (firsts left).map Device.address ↔
      device.address ≠ "" ∧ device.address ∈ left.map Device.address := mem_map_firsts
  grind

namespace Sightings

/-- The sightings after a signal of a scan. -/
def after (s : Sightings) : ScanSignal → Sightings
  | .found device => (s.insert device).2
  | .started | .stopped => s

/-- Whether a listener is told of a signal. -/
def tells (s : Sightings) : ScanSignal → Bool
  | .found device => (s.insert device).1
  | .started | .stopped => true

/-- The signals that a listener is told of, out of those that a scan gives. -/
def told : Sightings → List ScanSignal → List ScanSignal
  | _, [] => []
  | s, signal :: rest => (if s.tells signal then [signal] else []) ++ told (s.after signal) rest

/-- The devices that count after some sightings. -/
def counting (s : Sightings) (devices : List Device) : List Device :=
  ((firsts devices).filter (Device.addressed fun address => !s.seen.contains address)).filter
    (·.connectable)

theorem insert_known (s : Sightings) {device : Device}
    (known : device.address = "" ∨ device.address ∈ s.seen) : s.insert device = (false, s) := by
  simp only [insert, Bool.or_eq_true, String.isEmpty_iff, List.contains_iff_mem, if_pos known]

theorem insert_new (s : Sightings) {device : Device} (addressed : device.address ≠ "")
    (new : device.address ∉ s.seen) :
    s.insert device = (device.connectable, ⟨s.seen ++ [device.address],
      s.devices ++ if device.connectable then [device] else []⟩) := by
  simp only [insert, Bool.or_eq_true, String.isEmpty_iff, List.contains_iff_mem,
    if_neg (not_or.mpr ⟨addressed, new⟩)]
  cases device.connectable with
  | true => rfl
  | false => simp

theorem counting_cons (s : Sightings) (device : Device) (rest : List Device) :
    s.counting (device :: rest) =
      (if (s.insert device).1 then [device] else []) ++ (s.insert device).2.counting rest := by
  by_cases addressed : device.address = ""
  · rw [s.insert_known (.inl addressed), counting, firsts_nameless addressed]
    rfl
  · -- Later sightings of the address do not count, whether it was seen before or is seen now.
    have later (seen : List String)
        (grown : ∀ address, address ∈ seen ↔ address ∈ s.seen ∨ address = device.address) :
        ((firsts rest).filter fun other => other.address != device.address).filter
            (Device.addressed fun address => !s.seen.contains address) =
          (firsts rest).filter (Device.addressed fun address => !seen.contains address) := by
      rw [List.filter_filter]
      apply List.filter_congr
      grind
    rw [counting, firsts_addressed addressed, List.filter_cons]
    by_cases seen : device.address ∈ s.seen
    · rw [s.insert_known (.inr seen), later s.seen (by grind)]
      simp [Device.addressed, seen, counting]
    · rw [s.insert_new addressed seen, later (s.seen ++ [device.address]) (by simp)]
      have counts : Device.addressed (fun address => !s.seen.contains address) device = true := by
        simpa using seen
      rw [if_pos counts, List.filter_cons]
      cases device.connectable <;> rfl

theorem devices_insert (s : Sightings) (device : Device) :
    (s.insert device).2.devices =
      s.devices ++ (if (s.insert device).1 then [device] else []) := by
  by_cases known : device.address = "" ∨ device.address ∈ s.seen
  · rw [s.insert_known known]
    simp
  · obtain ⟨addressed, new⟩ := not_or.mp known
    rw [s.insert_new addressed new]

/-- The devices that a scan has found, out of the signals that it gave. -/
def found (signals : List ScanSignal) : List Device :=
  signals.filterMap fun
    | .found device => some device
    | .started | .stopped => none

/-- The devices of a scan that gives them between its start and its end. -/
theorem found_whole (devices : List Device) :
    found (.started :: devices.map .found ++ [.stopped]) = devices := by
  have each : found (devices.map .found ++ [.stopped]) = devices := by
    induction devices with
    | nil => rfl
    | cons device rest ih => exact congrArg (device :: ·) ih
  exact each

theorem devices_foldl_after (s : Sightings) (signals : List ScanSignal) :
    (signals.foldl after s).devices = s.devices ++ s.counting (found signals) := by
  induction signals generalizing s with
  | nil => simp [found, counting, firsts]
  | cons signal rest ih =>
      rw [List.foldl_cons, ih]
      cases signal with
      | found device =>
          have shown : found (.found device :: rest) = device :: found rest := rfl
          rw [shown, counting_cons, after, devices_insert, List.append_assoc]
      | started | stopped => rfl

theorem told_found (s : Sightings) (devices : List Device) (rest : List ScanSignal) :
    s.told (devices.map .found ++ rest) =
      (s.counting devices).map .found ++ ((devices.map .found).foldl after s).told rest := by
  induction devices generalizing s with
  | nil => simp [counting, firsts]
  | cons device others ih =>
      rw [List.map_cons, List.cons_append, told, List.foldl_cons, tells, after, ih, counting_cons]
      cases (s.insert device).1 <;> simp

/-- From the start of a scan to its end, a listener is told of each device that counts. -/
theorem told_whole (devices : List Device) :
    told {} (.started :: devices.map .found ++ [.stopped]) =
      .started :: ((firsts devices).filter (·.connectable)).map .found ++ [.stopped] := by
  have counted : counting {} devices = (firsts devices).filter (·.connectable) := by
    simp [counting]
  rw [List.cons_append, told, tells, after, told_found, counted]
  rfl

end Sightings

end BezelStream
