import BezelStream.Yaml.Token

/-! # From tokens to a tree

`Tree.ofTokens?` reads one document. A tree still holds anchors, aliases and
spelled-out tags; what they stand for is settled when the graph is made of it.
Items and entries that are left out become empty plain scalars. The number of
tokens bounds the recursion.
-/

namespace BezelStream.Yaml

/-- What stands in front of a node. -/
structure Properties where
  /-- The name by which aliases refer to the node. -/
  anchor : Option String := none
  tag : Option String := none
  deriving Repr, DecidableEq

/-- A node as it is written. -/
inductive Tree where
  | alias (name : String)
  | scalar (props : Properties) (text : CodePoints) (plain : Bool)
  | sequence (props : Properties) (items : List Tree)
  /-- A mapping, its entries in the order of the text. -/
  | mapping (props : Properties) (entries : List (Tree × Tree))
  deriving Repr, Inhabited

namespace Tree

def absent : Tree :=
  .scalar {} "" true

abbrev Handles := List (String × String)

def defaultHandles : Handles :=
  [("!", "!"), ("!!", "tag:yaml.org,2002:")]

abbrev Reader (α : Type) := List Token → Except Flaw (α × List Token)

/-- Refuses the tokens, with the flaw of a flawed one if that comes next. -/
def refuse {α : Type} : Reader α
  | .flawed flaw :: _ => .error flaw
  | _ => .error .malformed

def tagOf (handles : Handles) : Option String → String → Except Flaw String
  | none, suffix => .ok suffix
  | some handle, suffix =>
    match handles.lookup handle with
    | some start => .ok (start ++ suffix)
    | none => .error .malformed

def properties (handles : Handles) : Reader Properties
  | .anchor a :: .tag h s :: rest => do return (⟨some a, some (← tagOf handles h s)⟩, rest)
  | .tag h s :: .anchor a :: rest => do return (⟨some a, some (← tagOf handles h s)⟩, rest)
  | .anchor a :: rest => .ok (⟨some a, none⟩, rest)
  | .tag h s :: rest => do return (⟨none, some (← tagOf handles h s)⟩, rest)
  | rest => .ok ({}, rest)

/-- Whether the list begins with a token out of those given. -/
def startsWith (tokens : List Token) (ends : List Token) : Bool :=
  match tokens with
  | t :: _ => ends.contains t
  | [] => false

/-- Where a node stands, which decides what it may be. -/
inductive Context where
  | flow
  | block
  /-- In a block mapping, where a sequence may stand without indentation of its own. -/
  | blockEntry
  deriving Repr, DecidableEq

def comma : List Token → Except Flaw (List Token)
  | .flowEntry :: rest => .ok rest
  | .flawed flaw :: _ => .error flaw
  | _ => .error .malformed

mutual

def node (handles : Handles) (context : Context) : (fuel : Nat) → Reader Tree
  | 0, _ => .error .malformed
  | _ + 1, .alias name :: rest => .ok (.alias name, rest)
  | fuel + 1, tokens => do
    let (props, tokens) ← properties handles tokens
    match tokens with
    | .blockEntry :: _ =>
      if context = .blockEntry then
        let (items, rest) ← plainItems handles fuel tokens
        return (.sequence props items, rest)
      else bare props tokens
    | .scalar text plain :: rest => return (.scalar props text plain, rest)
    | .flowSequenceStart :: rest =>
      let (items, rest) ← flowItems handles true fuel rest
      return (.sequence props items, rest)
    | .flowMappingStart :: rest =>
      let (entries, rest) ← flowEntries handles true fuel rest
      return (.mapping props entries, rest)
    | .blockSequenceStart :: rest =>
      if context = .flow then bare props tokens
      else
        let (items, rest) ← blockItems handles fuel rest
        return (.sequence props items, rest)
    | .blockMappingStart :: rest =>
      if context = .flow then bare props tokens
      else
        let (entries, rest) ← blockEntries handles fuel rest
        return (.mapping props entries, rest)
    | _ => bare props tokens
where
  /-- A node of properties alone, which must be there. -/
  bare (props : Properties) : Reader Tree := fun tokens =>
    if props = {} then refuse tokens else .ok (.scalar props "" true, tokens)

/-- Reads a node unless one of the ends comes next. -/
def nodeOrAbsent (handles : Handles) (context : Context) (ends : List Token) :
    (fuel : Nat) → Reader Tree
  | 0, _ => .error .malformed
  | fuel + 1, tokens =>
    if startsWith tokens ends then .ok (absent, tokens) else node handles context fuel tokens

/-- Reads the items of an indented sequence up to its end. -/
def blockItems (handles : Handles) : (fuel : Nat) → Reader (List Tree)
  | 0, _ => .error .malformed
  | fuel + 1, .blockEntry :: rest => do
    let (item, rest) ← nodeOrAbsent handles .block [.blockEntry, .blockEnd] fuel rest
    let (items, rest) ← blockItems handles fuel rest
    return (item :: items, rest)
  | _ + 1, .blockEnd :: rest => .ok ([], rest)
  | _ + 1, tokens => refuse tokens

/-- Reads the items of a sequence without indentation of its own. -/
def plainItems (handles : Handles) : (fuel : Nat) → Reader (List Tree)
  | 0, _ => .error .malformed
  | fuel + 1, .blockEntry :: rest => do
    let (item, rest) ←
      nodeOrAbsent handles .block [.blockEntry, .key, .value, .blockEnd] fuel rest
    let (items, rest) ← plainItems handles fuel rest
    return (item :: items, rest)
  | _ + 1, tokens => .ok ([], tokens)

/-- Reads the entries of a block mapping up to its end. -/
def blockEntries (handles : Handles) : (fuel : Nat) → Reader (List (Tree × Tree))
  | 0, _ => .error .malformed
  | fuel + 1, .key :: rest => do
    let ends := [.key, .value, .blockEnd]
    let (key, rest) ← nodeOrAbsent handles .blockEntry ends fuel rest
    let (value, rest) ← match rest with
      | .value :: rest => nodeOrAbsent handles .blockEntry ends fuel rest
      | rest => pure (absent, rest)
    let (entries, rest) ← blockEntries handles fuel rest
    return ((key, value) :: entries, rest)
  | _ + 1, .blockEnd :: rest => .ok ([], rest)
  | _ + 1, tokens => refuse tokens

/-- Reads the items of a flow sequence up to its bracket. A single entry of a mapping
    may stand for an item. -/
def flowItems (handles : Handles) (first : Bool) : (fuel : Nat) → Reader (List Tree)
  | 0, _ => .error .malformed
  | _ + 1, .flowSequenceEnd :: rest => .ok ([], rest)
  | fuel + 1, tokens => do
    let tokens ← if first then pure tokens else comma tokens
    match tokens with
    | .flowSequenceEnd :: rest => return ([], rest)
    | .key :: rest =>
      let (key, rest) ←
        nodeOrAbsent handles .flow [.value, .flowEntry, .flowSequenceEnd] fuel rest
      let (value, rest) ← match rest with
        | .value :: rest => nodeOrAbsent handles .flow [.flowEntry, .flowSequenceEnd] fuel rest
        | rest => pure (absent, rest)
      let (items, rest) ← flowItems handles false fuel rest
      return (.mapping {} [(key, value)] :: items, rest)
    | tokens =>
      let (item, rest) ← node handles .flow fuel tokens
      let (items, rest) ← flowItems handles false fuel rest
      return (item :: items, rest)

/-- Reads the entries of a flow mapping up to its brace. -/
def flowEntries (handles : Handles) (first : Bool) : (fuel : Nat) → Reader (List (Tree × Tree))
  | 0, _ => .error .malformed
  | _ + 1, .flowMappingEnd :: rest => .ok ([], rest)
  | fuel + 1, tokens => do
    let tokens ← if first then pure tokens else comma tokens
    match tokens with
    | .flowMappingEnd :: rest => return ([], rest)
    | .key :: rest =>
      let (key, rest) ←
        nodeOrAbsent handles .flow [.value, .flowEntry, .flowMappingEnd] fuel rest
      let (value, rest) ← match rest with
        | .value :: rest => nodeOrAbsent handles .flow [.flowEntry, .flowMappingEnd] fuel rest
        | rest => pure (absent, rest)
      let (entries, rest) ← flowEntries handles false fuel rest
      return ((key, value) :: entries, rest)
    | tokens =>
      let (key, rest) ← node handles .flow fuel tokens
      let (entries, rest) ← flowEntries handles false fuel rest
      return ((key, absent) :: entries, rest)

end

/-- Reads the directives in front of a document. A handle and the version may be set
    once, and the version must be 1. -/
def directives : (version : Bool) → (handles : Handles) → Reader Handles
  | version, handles, .directive (.version major _) :: rest =>
    if version || major != 1 then .error .malformed else directives true handles rest
  | version, handles, .directive (.tag handle start) :: rest =>
    if (handles.lookup handle).isSome then .error .malformed
    else directives version ((handle, start) :: handles) rest
  | version, handles, .directive .other :: rest => directives version handles rest
  | _, handles, rest => .ok (handles ++ defaultHandles, rest)

/-- Reads what stands behind a document: at most one end marker, and further ones where
    nothing but the end of the text follows. -/
def documentEnd : List Token → Except Flaw Unit
  | .documentEnd :: rest => documentEnd rest
  | [.streamEnd] => .ok ()
  | .flawed flaw :: _ => .error flaw
  | _ => .error .malformed

/-- The tree of the only document of a text, `none` if there is no document, as far as names are
    not looked at. -/
def document? (tokens : List Token) : Except Flaw (Option Tree) :=
  let fuel := 4 * tokens.length + 16
  match tokens with
  | [.streamEnd] => .ok none
  | .directive _ :: _ | .documentStart :: _ => do
    let (handles, rest) ← directives false [] tokens
    match rest with
    | .documentStart :: rest =>
      let ends := startsWith rest [.documentStart, .documentEnd, .streamEnd]
      let (tree, rest) ←
        if ends || startsWithDirective rest then pure (absent, rest)
        else node handles .block fuel rest
      documentEnd rest
      return some tree
    | rest => return (← refuse rest).1
  | tokens => do
    let (tree, rest) ← node defaultHandles .block fuel tokens
    documentEnd rest
    return some tree
where
  startsWithDirective : List Token → Bool
    | .directive _ :: _ => true
    | _ => false

/-- Whether aliases refer to earlier anchors and no anchor is used twice. The last anchor does not
    count if its node is a flawed scalar. -/
def namesFit (known : List String) : List Token → Bool
  | .alias name :: rest => known.contains name && namesFit known rest
  | [.anchor _, .flawed _] | [.anchor _, .tag .., .flawed _] => true
  | .anchor name :: rest => !known.contains name && namesFit (name :: known) rest
  | _ :: rest => namesFit known rest
  | [] => true

/-- The tree of the only document of a text, `none` if there is no document. A flaw counts only
    if the names in front of it fit: those are looked at as soon as they are read. -/
def ofTokens? (tokens : List Token) : Except Flaw (Option Tree) :=
  (document? tokens).mapError fun flaw => if namesFit [] tokens then flaw else .malformed

end Tree

end BezelStream.Yaml
