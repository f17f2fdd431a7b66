import BezelStream.Number.Numeral

/-! # The words of the command line

Options come first and may be followed by the name of a command. Words are read in two
steps: `Draft` holds what each option was given last, and `parse` says what is asked
for, or refuses.
-/

namespace BezelStream.CommandLine

/-- What the options say. -/
structure Options where
  config : Option String := none
  timeout : Option Binary64 := none
  target : Option String := none
  characteristic : Option String := none
  /-- Whether the table is shown when the characteristic is missing. -/
  diagnose : Option Bool := none
  verbose : Bool := false
  deriving Repr, DecidableEq

/-- What can be done. -/
inductive Command where
  | stream
  | devices
  deriving Repr, DecidableEq

/-- What the words of the command line ask for. -/
inductive Request where
  | run (command : Command) (options : Options)
  | help
  /-- Nothing that can be understood. -/
  | refused
  deriving Repr, DecidableEq

/-- The options as they were given last. -/
structure Draft where
  /-- The values that options were given, by the name of the option. -/
  values : List (String × String) := []
  diagnose : Option Bool := none
  verbose : Bool := false
  help : Bool := false
  deriving Repr, DecidableEq

def valued : List String :=
  ["--config", "--timeout", "--target", "--characteristic"]

namespace Draft

/-- The draft with a flag set, if there is such a flag. -/
def setFlag? (d : Draft) : String → Option Draft
  | "--diagnose" => some { d with diagnose := some true }
  | "--no-diagnose" => some { d with diagnose := some false }
  | "--verbose" => some { d with verbose := true }
  | "--help" => some { d with help := true }
  | _ => none

def setValue (d : Draft) (option value : String) : Draft :=
  { d with values := (option, value) :: d.values }

end Draft

/-- Whether a word is an option and not a name. -/
def isOption (word : String) : Bool :=
  word.startsWith "-" && word != "-"

/-- Splits an option from the value that an equals sign attaches to it. -/
def splitAttached (word : String) : String × Option String :=
  let cs := word.toList
  let name := cs.takeWhile (· != '=')
  match cs.drop name.length with
  | [] => (word, none)
  | _ :: value => (String.ofList name, some (String.ofList value))

/-- Whether a word is one or more short flags, all of which ask for logging. -/
def isVerboseFlags (word : String) : Bool :=
  match word.toList with
  | '-' :: flags => !flags.isEmpty && flags.all (· = 'v')
  | _ => false

/-- Reads the options in front; two dashes end them. -/
def readOptions (d : Draft) : List String → Option (Draft × List String)
  | [] => some (d, [])
  | word :: rest =>
    if word = "--" then some (d, rest)
    else if !isOption word then some (d, word :: rest)
    else if isVerboseFlags word then readOptions { d with verbose := true } rest
    else match splitAttached word with
      | (option, some value) =>
        if valued.contains option then readOptions (d.setValue option value) rest else none
      | (option, none) =>
        if valued.contains option then
          match rest with
          | value :: rest => readOptions (d.setValue option value) rest
          | [] => none
        else match d.setFlag? option with
          | some d => readOptions d rest
          | none => none

/-- The least number of seconds that a scan may be given. -/
def leastTimeout : Binary64 :=
  .ofDecimal false 1 (-1)

/-- Reads a number of seconds; not-a-number passes. -/
def readTimeout (text : String) : Option Binary64 :=
  (Numeral.float? text.toList).filter fun x => !x.below leastTimeout

/-- The options that a draft makes, unless a value of theirs is refused. -/
def Draft.options? (d : Draft) : Option Options := do
  let timeout ← match d.values.lookup "--timeout" with
    | some text => (readTimeout text).map some
    | none => some none
  return {
    config := d.values.lookup "--config"
    timeout
    target := d.values.lookup "--target"
    characteristic := d.values.lookup "--characteristic"
    diagnose := d.diagnose
    verbose := d.verbose }

/-- What the words behind the name of a command ask for; a command takes none itself. -/
def commandRequest (command : Command) (options : Options) (words : List String) : Request :=
  let before := words.takeWhile (· != "--")
  if before.any fun w => isOption w && w != "--help" then .refused
  else if before.contains "--help" then .help
  else if before.isEmpty && words.length ≤ 1 then .run command options
  else .refused

def parse (words : List String) : Request :=
  match readOptions {} words with
  | none => .refused
  | some (draft, rest) =>
    if draft.help then .help
    else match draft.options? with
      | none => .refused
      | some options =>
        match rest with
        | [] => .run .stream options
        | "devices" :: rest => commandRequest .devices options rest
        | _ => .refused

end BezelStream.CommandLine
