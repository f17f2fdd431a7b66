import BezelStream.Radio.Link
import BezelStream.Radio.Scan
import BezelStream.Text.Blank
import BezelStream.Text.Lines
import BezelStream.Text.Split

/-! # The adapters of a host

A Linux host is asked for its list of adapters, and the first one is used. On other
hosts, and where the tool for the list is missing, the default adapter is used, and
its absence shows when a scan begins.
-/

namespace BezelStream.Radio

open Text

/-- The answer of the tool that lists adapters. -/
structure Listing where
  /-- The code with which it ended. -/
  code : Int
  output : String
  errors : String
  deriving Repr, DecidableEq

/-- An adapter of a host. -/
structure Chosen where
  name : String
  address : Option String
  deriving Repr, DecidableEq

/-- A host: its platform, its tool, its scanner and its clients. -/
structure Host (τ : Type) where
  platform : String
  /-- Asks the tool for the list of adapters, if there is the tool. -/
  list : Call τ (Option Listing)
  scanner : Scanner τ
  central : Central τ

/-! ## The list of adapters -/

/-- The text after a word, in any letter case of the word. -/
def afterWord? : (word : List Char) → List Char → Option (List Char)
  | [], cs => some cs
  | _ :: _, [] => none
  | w :: ws, c :: cs => if w.toLower = c.toLower then afterWord? ws cs else none

/-- The text after at least one blank and all that follow it. -/
def afterBlanks? : List Char → Option (List Char)
  | c :: rest => if isBlank c then some (trimStart rest) else none
  | [] => none

/-- Whether characters are an address: six pairs of hexadecimal digits with colons between. -/
def isAddress (cs : List Char) : Bool :=
  let pairs := splitAt ':' cs
  pairs.length = 6 && pairs.all fun pair => pair.length = 2 && pair.all isHexDigit

def defaultMark : List Char :=
  "[default]".toList

/-- A name without the mark of the default adapter and the blanks in front of it. -/
def withoutMark (cs : List Char) : List Char :=
  match afterWord? defaultMark.reverse cs.reverse with
  | some rest => trimEnd rest.reverse
  | none => cs

/-- The address and the name that a line gives for an adapter. The blanks at the ends of
    the line do not count; between its parts there must be some. -/
def controller? (line : List Char) : Option (List Char × List Char) := do
  let rest ← afterBlanks? (← afterWord? "Controller".toList (trim line))
  let address := rest.take 17
  guard (isAddress address)
  let name ← afterBlanks? (rest.drop 17)
  return (address, trim (withoutMark name))

/-- The address and the name of the first adapter of a list. -/
def firstController? (output : String) : Option (String × String) :=
  (lines output.toList).findSome? controller? |>.map fun (address, name) =>
    (asciiUpper (String.ofList address), String.ofList name)

def defaultAdapter : Chosen :=
  ⟨"default", none⟩

/-- What is logged when an adapter is chosen, and the choice. -/
def choose (listing : Option Listing) : List String × Except Fault Chosen :=
  match listing with
  | none =>
    (["bluetoothctl not installed; falling back to default adapter"], .ok defaultAdapter)
  | some l =>
    if l.code ≠ 0 then ([], .error (.adapterQuery (trimmed l.errors)))
    else match firstController? l.output with
      | some (address, name) =>
        (["Using adapter " ++ name ++ " [" ++ address ++ "]"],
          .ok ⟨if name.isEmpty then address else name, some address⟩)
      | none => ([], .error .noAdapter)

namespace Host

variable {τ : Type}

def adapter (host : Host τ) : Call τ Chosen := fun env =>
  if "linux".toList.isPrefixOf host.platform.toList then
    let (reply, env) := host.list.remarked (.command ["bluetoothctl", "list"]) env
    match reply.result with
    | .error f => (⟨reply.occurrences, .error f⟩, env)
    | .ok listing =>
      let (logged, result) := choose listing
      let records := logged.map fun text => Occurrence.noted (.log .debug text)
      (⟨reply.occurrences ++ records, result⟩, env)
  else (⟨[], .ok defaultAdapter⟩, env)

/-- An adapter of the host with its scans and links. -/
def working (host : Host τ) (connectTimeout : Binary64) (chosen : Chosen) :
    Adapter (Machine τ) where
  name := chosen.name
  scan := course host.scanner chosen.name
  peripheral := fun device =>
    let link : Link τ := ⟨device, host.central, host.platform, connectTimeout⟩
    fun m => (⟨[], .ok link.peripheral⟩, { m with held := none })
  close := Call.pure ()

def locate (host : Host τ) (connectTimeout : Binary64) : Call (Machine τ) (Adapter (Machine τ)) :=
  fun m =>
    let (reply, env) := host.adapter m.host
    (⟨reply.occurrences, reply.result.map (host.working connectTimeout)⟩, { m with host := env })

end Host

end BezelStream.Radio
