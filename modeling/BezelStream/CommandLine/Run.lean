import BezelStream.CommandLine.Options
import BezelStream.CommandLine.Transcript
import BezelStream.Streamer

/-! # Running a command

A command first builds its configuration, from the files and then from the options,
and tells what the user should know. Only then is an adapter looked for.
-/

namespace BezelStream.CommandLine

/-- What a command has to do with. -/
structure Console (σ : Type) where
  stack : Stack := .unbounded
  files : Files
  locate : Binary64 → Call σ (Adapter σ)
  /-- Reads a line that the user types, without its end; none where the input has ended. -/
  readLine : Call σ (Option String)
  platform : String
  hasTool : Bool

/-- How a run of the program ends. -/
structure Ending where
  code : Nat
  /-- The fault that nothing was prepared for. -/
  unexpected : Option Fault := none
  deriving Repr

variable {σ : Type}

namespace Console

/-- Shows a question, reads a line, and goes on with it. -/
def question {α : Type} (c : Console σ) (text : String)
    (next : Except Fault (Option String) → Reply α) : Call σ α := fun env =>
  let (reply, env) := c.readLine env
  let rest := next reply.result
  ({ rest with
    occurrences :=
      .noted (.printed .standard (plain text)) :: reply.occurrences ++ rest.occurrences }, env)

/-- Asks for an index. An empty line takes the one that is proposed. -/
def askIndex (c : Console σ) (text : String) (proposed : Nat) : Call σ (Option Int) :=
  c.question (text ++ " [" ++ toString proposed ++ "]: ") fun
    | .ok (some line) =>
      ⟨[], .ok (if line.isEmpty then some (proposed : Int) else readIndex line)⟩
    | .ok none => ⟨[], .error .inputEnded⟩
    | .error f => ⟨[], .error (if f.isOrdinary then f else .inputEnded)⟩

/-- Waits for a line. The end of the input and an interrupt end the wait as well. -/
def awaitEnter (c : Console σ) : Call σ Unit :=
  c.question "Press Enter to stop..." fun
    | .ok (some _) => ⟨[], .ok ()⟩
    | .ok none => ⟨[.noted (.printed .standard "\n")], .ok ()⟩
    | .error f =>
      if f.isOrdinary then ⟨[], .error f⟩ else ⟨[.noted (.printed .standard "\n")], .ok ()⟩

def notifier : Notifier σ :=
  .custom fun text env =>
    (⟨[.noted (.printed .standard (plain text ++ "\n"))], .ok ()⟩, env)

end Console

/-- A text that an option was given and that is not empty. -/
def nonEmpty (text : Option String) : Option String :=
  text.filter (!·.isEmpty)

/-- The configuration with what the options say; each option changes its own setting, and
    an empty text changes none. -/
def override (options : Options) (config : Config) : Except Fault Config := do
  let characteristic ← match nonEmpty options.characteristic with
    | some text => normalizeUuid "--characteristic" text
    | none => .ok config.characteristic
  return { config with
    characteristic
    scanTimeout := options.timeout.getD config.scanTimeout
    target := ((nonEmpty options.target).map CodePoints.ofString).getD config.target
    diagnostics := options.diagnose.getD config.diagnostics }

/-- Builds the configuration and tells what the user should know. -/
def configure (c : Console σ) (options : Options) : Op σ Unit Config := do
  let loaded ← Config.load c.stack c.files (options.config.map Path.ofText)
  echoAll .error (loaded.warnings.map ("Warning: " ++ ·))
  let config ← Op.ofResult (override options loaded.config)
  echoAll .error ((Streamer.hostWarnings c.platform c.hasTool).map ("Warning: " ++ ·))
  return config

def streamer (c : Console σ) (config : Config) (notifier : Notifier σ) : Streamer σ where
  config := config
  locate := c.locate
  sink := .print
  prompt := .custom c.askIndex
  wait := .custom c.awaitEnter
  notifier := notifier

/-- The line that shows a device in the list; targets are marked. -/
def deviceLine (target : CodePoints) (d : Device) : String :=
  d.address ++ " " ++ (if d.identifier.isEmpty then "<unnamed>" else d.identifier) ++
    (if (d.identifier : CodePoints) = target then " <target>" else "")

/-- What a command tells the user on its way. -/
def Command.notifier : Command → Notifier σ
  | .stream => Console.notifier
  | .devices => .silent

/-- What a command does with a streamer. -/
def serve (s : Streamer σ) : Command → Op σ Unit Unit
  | .stream => do
    let _ ← s.stream
    return
  | .devices => do
    match ← s.listDevices with
    | [] => echo .standard "No connectable peripherals discovered"
    | devices => echoAll .standard (devices.map (deviceLine s.config.target))

def runCommand (c : Console σ) (options : Options) (command : Command) : Op σ Unit Unit := do
  let config ← configure c options
  serve (streamer c config command.notifier) command

/-- How a run ends that ended with a fault: a failure that the program names is told. -/
def endingOf (f : Fault) : Op σ Unit Ending :=
  match f.failure?, f with
  | some _, f => do
    echo .error ("Error: " ++ f.message)
    return { code := 1 }
  | none, .interrupt .. => return { code := 130 }
  | none, .inputEnded => do
    echo .error "Aborted."
    return { code := 1 }
  | none, f => return { code := 1, unexpected := some f }

def usage : List String := [
  "Usage: [OPTIONS] [devices]",
  "Stream indications from a Simionic G1000 bezel (SHB1000) over BLE",
  "  --config PATH              YAML config file to use",
  "  --timeout SECONDS          Scan duration in seconds",
  "  --target TEXT              Device identifier to connect to",
  "  --characteristic TEXT      Characteristic UUID",
  "  --diagnose, --no-diagnose  List services when the target characteristic is missing",
  "  --verbose, -v              Enable debug logging"]

def execute (c : Console σ) : Request → Op σ Unit Ending
  | .refused => return { code := 2 }
  | .help => do
    echoAll .standard usage
    return { code := 0 }
  | .run command options => do
    match ← (runCommand c options command).attempt with
    | .ok () => return { code := 0 }
    | .error f => endingOf f

def Request.isVerbose : Request → Bool
  | .run _ options => options.verbose
  | _ => false

end BezelStream.CommandLine
