import BezelStream.Proofs.Config.Loading
import BezelStream.Proofs.Number.Rounding
import BezelStream.Proofs.Uuid

/-! # Well-formed configurations

A loaded configuration has a target and an identifier that a device can have. Its timeouts are
positive, unless the document says that one of them is not a number: neither the schema nor what
reads the timeouts asks about that.
-/

namespace BezelStream.Config

/-- What is expected of a configuration that a run goes by. -/
structure WellFormed (c : Config) : Prop where
  target : c.target ≠ []
  characteristic : Identifier c.characteristic.toList
  scanTimeout : c.scanTimeout.isPositive = true
  connectTimeout : c.connectTimeout.isPositive = true

/-- The document says that the setting is not a number. -/
def IsNan (doc : Document) (name : String) : Prop :=
  Value.lookup? (.text name) doc = some (.scalar (.float .nan))

section

open Schema (Demand)

variable {value : Value} {x : Binary64}

theorem written_ne_nil (kind : (Demand.kind [.text]).isMet value = true)
    (filled : (Demand.atLeast 1).isMet value = true) : value.written ≠ [] := by
  match value, kind with
  | .scalar (.text t), _ => exact List.ne_nil_of_length_pos (of_decide_eq_true filled)

theorem identifier_of_readUuid {context uuid : String} (read : readUuid context value = .ok uuid) :
    Identifier uuid.toList := by
  unfold readUuid at read
  split at read
  · exact identifier_of_normalizeUuid read
  · cases read

/-- A number that is not at most zero is above it, or it is no number. -/
theorem isPositive_iff_of_not_atMostZero (above : (!x.isAtMostZero) = true) :
    x.isPositive = true ↔ x ≠ .nan := by
  cases x with
  | nan => simp [Binary64.isPositive]
  | infinite negative => simpa [Binary64.isPositive, Binary64.isAtMostZero] using above
  | finite negative m e => simpa [Binary64.isPositive, Binary64.isAtMostZero] using above

theorem readSeconds_int {i : Int} :
    readSeconds (.scalar (.int i)) = .ok x ↔ Binary64.ofInt? i = some x := by
  simp only [readSeconds, Value.toFloat]
  cases Binary64.ofInt? i <;> simp [Except.mapError]

theorem readSeconds_isPositive_iff (kind : (Demand.kind [.number]).isMet value = true)
    (above : Demand.positive.isMet value = true) (read : readSeconds value = .ok x) :
    x.isPositive = true ↔ value ≠ .scalar (.float .nan) := by
  match value, kind with
  | .scalar (.int i), _ =>
      have positive : x.isPositive = true :=
        Binary64.isPositive_of_ofInt (of_decide_eq_true above) (readSeconds_int.mp read)
      exact ⟨fun _ => nofun, fun _ => positive⟩
  | .scalar (.float y), _ =>
      cases read
      rw [isPositive_iff_of_not_atMostZero above]
      exact not_congr ⟨congrArg fun y => Value.scalar (.float y), fun same => by cases same; rfl⟩

end

section

variable {σ ρ : Type} {doc : Document} {stack : Stack} {files : Files} {explicit : Option Path}

/-- The packaged timeouts are numbers. -/
theorem setting_ne_nan_iff {name : String} {packed : Value}
    (given : Value.lookup? (.text name) packaged = some packed)
    (number : packed ≠ .scalar (.float .nan)) :
    setting doc name ≠ .scalar (.float .nan) ↔ ¬ IsNan doc name := by
  rw [setting, given, IsNan]
  cases Value.lookup? (.text name) doc with
  | none => simpa using number
  | some value => simp

/-- A loaded configuration has a target and an identifier, and it is well formed exactly if the
    document that it comes from does not say of a timeout that it is not a number. -/
theorem load_sound {loaded : Loaded} {p q : Progress σ ρ}
    (loads : (load stack files explicit).runFrom p = (.ok loaded, q)) :
    loaded.config.target ≠ [] ∧ Identifier loaded.config.characteristic.toList ∧
      ∃ doc, GivenOverlay stack files explicit doc ∧
        (loaded.config.scanTimeout.isPositive = true ↔ ¬ IsNan doc "scan_timeout_s") ∧
        (loaded.config.connectTimeout.isPositive = true ↔ ¬ IsNan doc "connect_timeout_s") ∧
        (WellFormed loaded.config ↔
          ¬ IsNan doc "scan_timeout_s" ∧ ¬ IsNan doc "connect_timeout_s") := by
  obtain ⟨doc, given, admits, keyed, read⟩ := given_of_load loads
  have met := setting_met admits keyed
  have target : loaded.config.target ≠ [] := by
    have demands := met ("target_identifier", [.kind [.text], .atLeast 1]) (by decide)
    rw [read.target]
    exact written_ne_nil (demands _ (by decide)) (demands _ (by decide))
  have characteristic := identifier_of_readUuid read.characteristic
  have scanTimeout : loaded.config.scanTimeout.isPositive = true ↔ ¬ IsNan doc "scan_timeout_s" := by
    have demands := met ("scan_timeout_s", [.kind [.number], .positive]) (by decide)
    rw [readSeconds_isPositive_iff (demands _ (by decide)) (demands _ (by decide)) read.scanTimeout]
    exact setting_ne_nan_iff rfl nofun
  have connectTimeout :
      loaded.config.connectTimeout.isPositive = true ↔ ¬ IsNan doc "connect_timeout_s" := by
    have demands := met ("connect_timeout_s", [.kind [.number], .positive]) (by decide)
    rw [readSeconds_isPositive_iff (demands _ (by decide)) (demands _ (by decide))
      read.connectTimeout]
    exact setting_ne_nan_iff rfl nofun
  refine ⟨target, characteristic, doc, given, scanTimeout, connectTimeout, ?_, ?_⟩
  · intro formed
    exact ⟨scanTimeout.mp formed.scanTimeout, connectTimeout.mp formed.connectTimeout⟩
  · rintro ⟨scan, connect⟩
    exact ⟨target, characteristic, scanTimeout.mpr scan, connectTimeout.mpr connect⟩

/-- A number in another base and an identifier in capitals. -/
theorem load_sound_bases :
    let files := lone "a.yaml"
      (Text.encodeUtf8 "scan_timeout_s: 0x1F\ncharacteristic_uuid: ' 2A37 '\n".toList)
    let p : Progress Unit Unit := ⟨(), [], false, ()⟩
    let config : Config := { scanTimeout := .ofNat 31, characteristic := "2a37" }
    ∃ q, (load .unbounded files (some (.ofText "a.yaml"))).runFrom p =
        (.ok ⟨config, [.packaged, .file "a.yaml"], []⟩, q) ∧ WellFormed config := by
  intro files p config
  obtain ⟨q, loads⟩ := exists_runFrom_of_toOption
    (show ((load .unbounded files (some (.ofText "a.yaml"))).runFrom p).1.toOption =
      some ⟨config, [.packaged, .file "a.yaml"], []⟩ by decide +kernel)
  obtain ⟨-, -, doc, -, scan, connect, formed⟩ := load_sound loads
  exact ⟨q, loads, formed.mpr ⟨scan.mp (by decide +kernel), connect.mp (by decide +kernel)⟩⟩

/-- A timeout that is not a number is accepted. -/
theorem load_accepts_nan :
    let files := lone "a.yaml" (Text.encodeUtf8 "scan_timeout_s: .nan\n".toList)
    let p : Progress Unit Unit := ⟨(), [], false, ()⟩
    ∃ loaded q, (load .unbounded files (some (.ofText "a.yaml"))).runFrom p = (.ok loaded, q) ∧
      ¬ WellFormed loaded.config := by
  intro files p
  obtain ⟨q, loads⟩ := exists_runFrom_of_toOption
    (show ((load .unbounded files (some (.ofText "a.yaml"))).runFrom p).1.toOption =
      some ⟨{ scanTimeout := .nan }, [.packaged, .file "a.yaml"], []⟩ by decide +kernel)
  exact ⟨_, q, loads, fun formed => absurd formed.scanTimeout (by decide)⟩

end

end BezelStream.Config
