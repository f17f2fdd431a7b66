import BezelStream.CommandLine.Run
import BezelStream.Proofs.Config.Loading
import BezelStream.Proofs.Streamer.Settings

/-! # What a command is configured with

A command loads its configuration, tells the warnings, and lets each option take the place of its
own setting, before anything else is done. If loading fails, or a characteristic that an option
gives is no identifier, the failure is told and the command ends without having done anything.
Otherwise the settings are those of the streamer that does the work.
-/

namespace BezelStream.CommandLine

open Config (load Loaded)

/-- The option gives a text. An empty text counts as none. -/
def GivesText (option : Option String) (text : String) : Prop :=
  option = some text ∧ text ≠ ""

/-- Each option takes the place of its own setting where it gives a value, and nothing else is
    changed. -/
structure Overridden (options : Options) (loaded config : Config) : Prop where
  timeout : ∀ seconds, options.timeout = some seconds → config.scanTimeout = seconds
  ownTimeout : options.timeout = none → config.scanTimeout = loaded.scanTimeout
  target : ∀ text, GivesText options.target text → config.target = text
  ownTarget : (∀ text, ¬ GivesText options.target text) → config.target = loaded.target
  characteristic : ∀ text, GivesText options.characteristic text →
    normalizeUuid "--characteristic" text = .ok config.characteristic
  ownCharacteristic : (∀ text, ¬ GivesText options.characteristic text) →
    config.characteristic = loaded.characteristic
  diagnose : ∀ flag, options.diagnose = some flag → config.diagnostics = flag
  ownDiagnose : options.diagnose = none → config.diagnostics = loaded.diagnostics
  proposal : config.proposal = loaded.proposal
  connectTimeout : config.connectTimeout = loaded.connectTimeout

section

variable {options : Options} {loaded config : Config} {option : Option String} {text : String}
  {f : Fault}

theorem nonEmpty_eq_some_iff : nonEmpty option = some text ↔ GivesText option text := by
  rw [nonEmpty, Option.filter_eq_some_iff, GivesText, Bool.not_eq_true', String.isEmpty_eq_false_iff]

theorem nonEmpty_eq_none_iff : nonEmpty option = none ↔ ∀ text, ¬ GivesText option text := by
  rw [Option.eq_none_iff_forall_ne_some]
  exact forall_congr' fun text => not_congr nonEmpty_eq_some_iff

theorem nonEmpty_of_gives (gives : GivesText option text) : nonEmpty option = some text :=
  nonEmpty_eq_some_iff.mpr gives

/-- The characteristic that the options make of the one that was loaded. -/
theorem override_eq_map : override options loaded =
    (match nonEmpty options.characteristic with
      | some text => normalizeUuid "--characteristic" text
      | none => .ok loaded.characteristic).map fun characteristic =>
        { loaded with
          characteristic
          scanTimeout := options.timeout.getD loaded.scanTimeout
          target := ((nonEmpty options.target).map CodePoints.ofString).getD loaded.target
          diagnostics := options.diagnose.getD loaded.diagnostics } := by
  unfold override
  cases nonEmpty options.characteristic with
  | none => rfl
  | some text => cases normalizeUuid "--characteristic" text <;> rfl

theorem overridden_of_override (overrides : override options loaded = .ok config) :
    Overridden options loaded config := by
  rw [override_eq_map] at overrides
  obtain ⟨characteristic, chosen, rfl⟩ := Config.map_eq_ok_iff.mp overrides
  exact {
    timeout := fun seconds given => by rw [given]; rfl
    ownTimeout := fun absent => by rw [absent]; rfl
    target := fun text gives => by rw [nonEmpty_of_gives gives]; rfl
    ownTarget := fun silent => by rw [nonEmpty_eq_none_iff.mpr silent]; rfl
    characteristic := fun text gives => by rwa [nonEmpty_of_gives gives] at chosen
    ownCharacteristic := fun silent => by
      rw [nonEmpty_eq_none_iff.mpr silent] at chosen
      cases chosen
      rfl
    diagnose := fun flag given => by rw [given]; rfl
    ownDiagnose := fun absent => by rw [absent]; rfl
    proposal := rfl
    connectTimeout := rfl }

/-- The options are refused exactly if the characteristic that they give is. -/
theorem override_eq_error_iff : override options loaded = .error f ↔
    ∃ text, GivesText options.characteristic text ∧
      normalizeUuid "--characteristic" text = .error f := by
  rw [override_eq_map, Config.map_eq_error_iff]
  cases given : nonEmpty options.characteristic with
  | none =>
      have silent := nonEmpty_eq_none_iff.mp given
      exact ⟨nofun, fun ⟨text, gives, _⟩ => absurd gives (silent text)⟩
  | some text =>
      have gives := nonEmpty_eq_some_iff.mp given
      refine ⟨fun refused => ⟨text, gives, refused⟩, fun ⟨other, otherGives, refused⟩ => ?_⟩
      obtain rfl := Option.some.inj (gives.1.symm.trans otherGives.1)
      exact refused

end

/-! ## The run -/

/-- The lines that warnings are told in. -/
def warningLines (warnings : List String) : List Event :=
  warnings.map fun warning => .printed .error (plain ("Warning: " ++ warning) ++ "\n")

/-- The line that a failure is told in. -/
def errorLine (f : Fault) : Event :=
  .printed .error (plain ("Error: " ++ f.message) ++ "\n")

section

variable {σ : Type}

/-- How a run ends. -/
def concluded (work : Op σ Unit Unit) : Op σ Unit Ending := do
  match ← work.attempt with
  | .ok () => return { code := 0 }
  | .error f => endingOf f

variable {c : Console σ} {command : Command} {options : Options} {p q : Progress σ Unit} {f : Fault}
  {loaded : Loaded} {config : Config}

theorem echoAll_runs {ρ : Type} (output : Output) (texts : List String) (p : Progress σ ρ) :
    (echoAll output texts).runFrom p =
      (.ok (), p.noteAll (texts.map fun text => .printed output (plain text ++ "\n"))) := by
  induction texts generalizing p with
  | nil => rw [List.map_nil, Progress.noteAll_nil]; rfl
  | cons text rest ih =>
      rw [echoAll, Op.runFrom_bind, echo, Op.runFrom_note]
      dsimp only
      rw [ih, List.map_cons, Progress.noteAll_note]

theorem echoWarnings_runs (warnings : List String) (p : Progress σ Unit) :
    (echoAll .error (warnings.map ("Warning: " ++ ·))).runFrom p =
      (.ok (), p.noteAll (warningLines warnings)) := by
  rw [echoAll_runs, warningLines, List.map_map]
  rfl

/-! Configuring a command ends in one of three ways. -/

theorem configure_unloaded
    (failed : (load c.stack c.files (options.config.map Path.ofText)).runFrom p = (.error f, q)) :
    (configure c options).runFrom p = (.error f, q) := by
  rw [configure, Op.runFrom_bind, failed]

theorem configure_refused
    (loads : (load c.stack c.files (options.config.map Path.ofText)).runFrom p = (.ok loaded, q))
    (refused : override options loaded.config = .error f) :
    (configure c options).runFrom p = (.error f, q.noteAll (warningLines loaded.warnings)) := by
  rw [configure, Op.runFrom_bind, loads]
  dsimp only
  rw [Op.runFrom_bind, echoWarnings_runs]
  dsimp only
  rw [Op.runFrom_bind, Op.runFrom_ofResult, refused]

theorem configure_overridden
    (loads : (load c.stack c.files (options.config.map Path.ofText)).runFrom p = (.ok loaded, q))
    (overrides : override options loaded.config = .ok config) :
    (configure c options).runFrom p =
      (.ok config, (q.noteAll (warningLines loaded.warnings)).noteAll
        (warningLines (Streamer.hostWarnings c.platform c.hasTool))) := by
  rw [configure, Op.runFrom_bind, loads]
  dsimp only
  rw [Op.runFrom_bind, echoWarnings_runs]
  dsimp only
  rw [Op.runFrom_bind, Op.runFrom_ofResult, overrides]
  dsimp only
  rw [Op.runFrom_bind, echoWarnings_runs]
  rfl

theorem execute_configured (command : Command)
    (configured : (configure c options).runFrom p = (.ok config, q)) :
    (execute c (.run command options)).runFrom p =
      (concluded (serve (streamer c config command.notifier) command)).runFrom q := by
  rw [execute, Op.runFrom_bind, Op.runFrom_attempt, runCommand, Op.runFrom_bind, configured]
  rfl

/-- A failure that the program names is told. -/
theorem endingOf_runs (named : f.failure?.isSome = true) (q : Progress σ Unit) :
    (endingOf f).runFrom q = (.ok { code := 1 }, q.note (errorLine f)) := by
  obtain ⟨failure, is⟩ := Option.isSome_iff_exists.mp named
  unfold endingOf
  rw [is]
  rfl

/-- A refused identifier is a failure that the program names. -/
theorem named_of_normalizeUuid {context text : String}
    (refused : normalizeUuid context text = .error f) : f.failure?.isSome = true := by
  unfold normalizeUuid at refused
  dsimp only at refused
  split at refused <;> cases refused
  rfl

/-- The streamer works with the hosts of the console and goes by these settings, also where a
    command lists devices and marks the targets. -/
structure Serves (c : Console σ) (config : Config) (s : Streamer σ) : Prop where
  locates : s.locate = c.locate
  goes : s.GoesBy config
  marks : ∀ {p q : Progress σ Unit} {devices : List Device},
    s.listDevices.runFrom p = (.ok devices, q) → devices ≠ [] →
      (serve s .devices).runFrom p = (.ok (), q.noteAll
        (devices.map fun d => .printed .standard (plain (deviceLine config.target d) ++ "\n")))

theorem streamer_serves (c : Console σ) (config : Config) (notifier : Notifier σ) :
    Serves c config (streamer c config notifier) where
  locates := rfl
  goes := (streamer c config notifier).goesBy
  marks := by
    intro p q devices listed some
    rw [serve, Op.runFrom_bind, listed]
    dsimp only
    split
    · exact absurd rfl some
    · rw [echoAll_runs, List.map_map]
      rfl

theorem echoAll_suits (output : Output) (texts : List String) :
    Op.Writes (ρ := Unit) (σ := σ) (Event.Suits config) (echoAll output texts) := by
  intro p
  rw [echoAll_runs]
  refine ⟨_, rfl, fun event member => ?_⟩
  obtain ⟨text, -, rfl⟩ := List.mem_map.mp member
  trivial

theorem serve_suits (s : Streamer σ) (command : Command) :
    Op.Writes (Event.Suits s.config) (serve s command) := by
  cases command with
  | stream => exact .bind s.stream_suits fun _ => .pure ()
  | devices =>
      refine .bind s.listDevices_suits fun devices => ?_
      split
      · exact .note trivial
      · exact echoAll_suits _ _

theorem endingOf_suits (f : Fault) :
    Op.Writes (σ := σ) (Event.Suits config) (endingOf f) := by
  unfold endingOf
  split
  · exact .bind (.note trivial) fun _ => .pure _
  · exact .pure _
  · exact .bind (.note trivial) fun _ => .pure _
  · exact .pure _

theorem concluded_suits {work : Op σ Unit Unit} (works : Op.Writes (Event.Suits config) work) :
    Op.Writes (Event.Suits config) (concluded work) := by
  refine .bind works.attempt fun ended => ?_
  split
  · exact .pure _
  · exact endingOf_suits _

/-- A command is configured before anything else is done. Up to then it writes only what loading
    writes and the lines that tell the warnings. A failure in it ends the run with the line that
    tells it. Otherwise a streamer does the work of the command that goes by the settings that were
    loaded, but for those that an option gives, and the host and its adapter are asked for nothing
    that these settings do not ask for. -/
theorem execute_overrides (c : Console σ) (command : Command) (options : Options)
    (p : Progress σ Unit) :
    ∃ result told, (load c.stack c.files (options.config.map Path.ofText)).runFrom p =
        (result, p.noteAll told) ∧
      (∀ event ∈ told, ∃ level text, event = .log level .config text) ∧
      (∀ f, result = .error f → f.failure?.isSome = true →
        (execute c (.run command options)).runFrom p =
          (.ok { code := 1 }, (p.noteAll told).note (errorLine f))) ∧
      ∀ loaded, result = .ok loaded →
        (∀ text f, GivesText options.characteristic text →
          normalizeUuid "--characteristic" text = .error f →
            f.failure?.isSome = true ∧ (execute c (.run command options)).runFrom p =
              (.ok { code := 1 },
                ((p.noteAll told).noteAll (warningLines loaded.warnings)).note (errorLine f))) ∧
        ((∀ text f, GivesText options.characteristic text →
          normalizeUuid "--characteristic" text ≠ .error f) →
            ∃ config s q, Overridden options loaded.config config ∧ Serves c config s ∧
              q = ((p.noteAll told).noteAll (warningLines loaded.warnings)).noteAll
                (warningLines (Streamer.hostWarnings c.platform c.hasTool)) ∧
              (execute c (.run command options)).runFrom p =
                (concluded (serve s command)).runFrom q ∧
              ((execute c (.run command options)).runFrom p).2.Since (Event.Suits config)
                q.journal) := by
  obtain ⟨told, tells, logs⟩ := Config.load_logs c.stack c.files (options.config.map Path.ofText) p
  have loads : (load c.stack c.files (options.config.map Path.ofText)).runFrom p =
      (((load c.stack c.files (options.config.map Path.ofText)).runFrom p).1, p.noteAll told) :=
    Prod.ext rfl tells
  refine ⟨_, told, loads, logs, fun f failed named => ?_, fun loaded made => ⟨?_, ?_⟩⟩
  · rw [failed] at loads
    rw [Config.execute_unconfigured (configure_unloaded loads), endingOf_runs named]
  · intro text f gives refused
    rw [made] at loads
    have named := named_of_normalizeUuid refused
    have overrides : override options loaded.config = .error f :=
      override_eq_error_iff.mpr ⟨text, gives, refused⟩
    refine ⟨named, ?_⟩
    rw [Config.execute_unconfigured (configure_refused loads overrides), endingOf_runs named]
  · intro accepted
    rw [made] at loads
    cases overrides : override options loaded.config with
    | error f =>
        obtain ⟨text, gives, refused⟩ := override_eq_error_iff.mp overrides
        exact absurd refused (accepted text f gives)
    | ok config =>
        have serves := streamer_serves c config command.notifier
        have runs := execute_configured command (configure_overridden loads overrides)
        refine ⟨config, _, _, overridden_of_override overrides, serves, rfl, runs, ?_⟩
        rw [runs]
        exact concluded_suits (serve_suits (streamer c config command.notifier) command) _

end

end BezelStream.CommandLine
