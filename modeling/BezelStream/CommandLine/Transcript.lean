import BezelStream.Interaction.Op

/-! # What a run prints

Lines are printed without the escape sequences that steer a terminal. Log records go to
the output for errors, the weighty ones always and all of them on demand.
-/

namespace BezelStream.CommandLine

/-- The text behind an escape sequence that steers a terminal, if one stands in front:
    escape, bracket, then digits and separators, then a letter. -/
def afterEscape? : List Char → Option (List Char)
  | '\x1B' :: '[' :: rest =>
    match rest.dropWhile fun c => c.isDigit || c = ';' || c = '?' with
    | c :: rest => if c.isAlpha then some rest else none
    | [] => none
  | _ => none

/-- A text without such sequences. The fuel is its length. -/
def dropEscapes : (fuel : Nat) → List Char → List Char
  | 0, cs => cs
  | _ + 1, [] => []
  | fuel + 1, c :: rest =>
    match afterEscape? (c :: rest) with
    | some rest => dropEscapes fuel rest
    | none => c :: dropEscapes fuel rest

def plain (text : String) : String :=
  let cs := text.toList
  String.ofList (dropEscapes cs.length cs)

def echo {σ ρ : Type} (output : Output) (text : String) : Op σ ρ Unit :=
  Op.note (.printed output (plain text ++ "\n"))

def echoAll {σ ρ : Type} (output : Output) : List String → Op σ ρ Unit
  | [] => pure ()
  | text :: rest => do
    echo output text
    echoAll output rest

def isPrinted (verbose : Bool) : Level → Bool
  | .warning | .error => true
  | .debug | .info => verbose

def printedBy? (verbose : Bool) : Event → Option (Output × String)
  | .printed output text => some (output, text)
  | .log level source text =>
    if isPrinted verbose level then
      some (.error, level.name ++ " " ++ source.name ++ ": " ++ text ++ "\n")
    else none
  | _ => none

def transcript (verbose : Bool) (output : Output) (events : List Event) : String :=
  String.join ((events.filterMap (printedBy? verbose)).filterMap fun (target, text) =>
    if target = output then some text else none)

end BezelStream.CommandLine
