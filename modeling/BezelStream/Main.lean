import BezelStream.CommandLine.Run

/-! # The program

Reads the files that a configuration may come from, runs what the command line asks
for, and prints what results. There is no radio here, so no adapter is ever found.
-/

namespace BezelStream

def readEntry (working : List String) (path : Path) : IO (List (List String × Entry)) := do
  try
    let bytes ← IO.FS.readBinFile path.text
    return [((if path.root = "" then working else []) ++ path.parts, .file bytes.toList)]
  catch _ => return []

/-- The files that a request may need. The working directory goes by a name that no path has. -/
def readFiles (request : CommandLine.Request) : IO Files := do
  let working := ["."]
  let bare : Files := {
    entries := []
    working
    home := (← IO.getEnv "HOME").getD "/"
    configHome := ← IO.getEnv "XDG_CONFIG_HOME" }
  let explicit := match request with
    | .run _ options => (options.config.map Path.ofText).toList
    | _ => []
  let paths := explicit ++ ["config.yaml", "config.yml"].map bare.userDirectory.child
  return { bare with entries := (← paths.mapM (readEntry working)).flatten }

end BezelStream

open BezelStream in
def main (args : List String) : IO UInt32 := do
  let request := CommandLine.parse args
  let console : CommandLine.Console Unit := {
    files := ← readFiles request
    locate := fun _ => Call.fail .noAdapter
    readLine := Call.pure none
    platform := "linux"
    hasTool := true }
  let (result, progress) := (CommandLine.execute console request).runFrom ⟨(), [], false, ()⟩
  let text := CommandLine.transcript request.isVerbose
  (← IO.getStdout).putStr (text .standard progress.journal)
  (← IO.getStderr).putStr (text .error progress.journal)
  return match result with
    | .ok ending => UInt32.ofNat ending.code
    | .error _ => 1
