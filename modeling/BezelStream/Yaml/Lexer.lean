import BezelStream.Text.Utf8
import BezelStream.Yaml.ScalarText
import BezelStream.Yaml.Token

/-! # From text to tokens

`tokens` reads a whole text. Two things are not visible at the place where they
belong and are tracked on the way. Indentation: a line further to the left closes
blocks. Keys without an indicator: only the colon behind a node shows that it was
a key, so each node that may be a key is kept as a candidate, and the colon puts
the key token in front of it. A candidate lapses at the end of its line and after
1024 characters.
-/

namespace BezelStream.Yaml

open Text

/-- A node that may turn out to be a key. -/
structure KeyCandidate where
  tokensBefore : Nat
  /-- Whether no reading is left if it is not a key. -/
  required : Bool
  place : Place
  deriving Repr

/-- The state of a reading. -/
structure Lexer where
  source : Source
  tokens : Array Token := #[]
  flowLevel : Nat := 0
  /-- The column of the innermost block, one to the left of all text outside blocks. -/
  indent : Int := -1
  /-- The columns of the blocks around it, innermost first. -/
  outer : List Int := []
  /-- Whether a node may begin here that is a key without an indicator. -/
  allowsKey : Bool := true
  candidates : List (Nat × KeyCandidate) := []

namespace Lexer

def push (x : Lexer) (token : Token) : Lexer :=
  { x with tokens := x.tokens.push token }

def pushMark (x : Lexer) (token : Token) (n : Nat) : Lexer :=
  { x with tokens := x.tokens.push token, source := x.source.skipMany n }

def inFlow (x : Lexer) : Bool :=
  x.flowLevel != 0

/-- Whether a candidate is a key no longer when it is read on from here. -/
def hasLapsed (x : Lexer) (k : KeyCandidate) : Bool :=
  let here := x.source.place
  k.place.line != here.line || here.index - k.place.index > 1024

/-- The number of tokens in front of all candidates. Nothing will be put between them. -/
def settled (x : Lexer) : Nat :=
  x.candidates.foldl (fun least (_, k) =>
    if x.hasLapsed k then least else min least k.tokensBefore) x.tokens.size

/-- Drops the candidates that lapsed; it is an error if one of them was required. -/
def dropLapsed (x : Lexer) : Except Flaw Lexer :=
  let (lapsed, live) := x.candidates.partition fun (_, k) => x.hasLapsed k
  if lapsed.any (fun (_, k) => k.required) then .error .malformed
  else .ok { x with candidates := live }

/-- Drops the candidate of this flow level; it is an error if it was required. -/
def dropCandidate (x : Lexer) : Except Flaw Lexer :=
  match x.candidates.lookup x.flowLevel with
  | some k =>
    if k.required then .error .malformed
    else .ok { x with candidates := x.candidates.filter (fun (level, _) => level != x.flowLevel) }
  | none => .ok x

/-- Makes the node that begins here the candidate of this flow level. -/
def saveCandidate (x : Lexer) : Except Flaw Lexer :=
  if x.allowsKey then do
    let required := !x.inFlow && x.indent = x.source.column
    let x ← x.dropCandidate
    let k : KeyCandidate := ⟨x.tokens.size, required, x.source.place⟩
    return { x with candidates := (x.flowLevel, k) :: x.candidates }
  else .ok x

def closeBlocks (x : Lexer) (column : Int) : Lexer :=
  if x.inFlow then x else go x.outer x
where
  go : List Int → Lexer → Lexer
    | [], x => x
    | around :: rest, x =>
      if x.indent > column then go rest { x.push .blockEnd with indent := around, outer := rest }
      else x

/-- Opens a block at a column to the right of the innermost one: whether it did. -/
def openBlock (x : Lexer) (column : Int) : Bool × Lexer :=
  if x.indent < column then (true, { x with outer := x.indent :: x.outer, indent := column })
  else (false, x)

/-- Goes past blanks, comments and line breaks. Outside flow collections a key may
    begin after a line break. -/
def skipToToken (x : Lexer) : Lexer :=
  let start := if x.source.place.index = 0 && x.source.peek = byteOrderMark then
    x.source.skip else x.source
  let (broken, source) := go start.length start
  { x with source, allowsKey := x.allowsKey || (broken && !x.inFlow) }
where
  /-- Goes past blanks, and tells whether there was a line break among them. -/
  go : Nat → Source → Bool × Source
    | 0, src => (false, src)
    | fuel + 1, src =>
      let src := src.skipComment
      if isBreak src.peek then (true, (go fuel src.lineBreak.2).2) else (false, src)

/-! ## Directives, names and tags -/

def isNameChar (c : Char) : Bool :=
  c.isAlphanum || c = '-' || c = '_'

def isTagChar (c : Char) : Bool :=
  c.isAlphanum || "-;/?:@&=+$,_.!~*'()[]".toList.contains c

def versionNumber (src : Source) : Except Flaw (Nat × Source) :=
  let (digits, rest) := src.span Char.isDigit
  if digits.isEmpty then .error .malformed
  else if Numeral.mostDigits < digits.length then .error (.mismatch .badValue)
  else .ok (digits.foldl (fun n c => n * 10 + (c.toNat - '0'.toNat)) 0, rest)

/-- Reads a tag handle. Between its exclamation marks there may be a name; a single
    mark is a handle only where a space follows it. -/
def tagHandle (src : Source) : Except Flaw (String × Source) :=
  if src.peek != '!' then .error .malformed
  else
    let (name, rest) := src.skip.span isNameChar
    if src.peekAt 1 = ' ' then .ok ("!", src.skip)
    else if rest.peek = '!' then .ok (String.ofList ('!' :: name ++ ['!']), rest.skip)
    else .error .malformed

def tagEscapes : (fuel : Nat) → Source → Except Flaw (List UInt8 × Source)
  | 0, _ => .error .malformed
  | fuel + 1, src =>
    if src.peek = '%' then
      match hexEscape? 2 src.skip with
      | some (byte, rest) => do
        let (more, rest) ← tagEscapes fuel rest
        return (UInt8.ofNat byte :: more, rest)
      | none => .error .malformed
    else .ok ([], src)

/-- Reads the characters of a tag, whose escapes must be UTF-8. -/
def tagChars : (fuel : Nat) → Source → Except Flaw (List Char × Source)
  | 0, _ => .error .malformed
  | fuel + 1, src =>
    if src.peek = '%' then do
      let (bytes, rest) ← tagEscapes src.length src
      match decodeUtf8? bytes with
      | some cs => do
        let (more, rest) ← tagChars fuel rest
        return (cs ++ more, rest)
      | none => .error .malformed
    else
      let (run, rest) := src.span isTagChar
      if run.isEmpty then .ok ([], src)
      else do
        let (more, rest) ← tagChars fuel rest
        return (run ++ more, rest)

/-- Reads the characters of a tag, of which there must be one. -/
def tagUri (src : Source) : Except Flaw (String × Source) :=
  if src.peek = '%' || isTagChar src.peek then do
    let (cs, rest) ← tagChars src.length src
    return (String.ofList cs, rest)
  else .error .malformed

/-- Reads the values of a directive of the given name. -/
def directiveBody (name : String) (src : Source) : Except Flaw (Directive × Source) := do
  if name = "YAML" then
    let (major, src) ← versionNumber (src.skipWhile (· = ' '))
    if src.peek != '.' then .error .malformed
    else
      let (minor, src) ← versionNumber src.skip
      if endsWord src.peek then return (.version major minor, src) else .error .malformed
  else if name = "TAG" then
    let (handle, src) ← tagHandle (src.skipWhile (· = ' '))
    if src.peek != ' ' then .error .malformed
    else
      let (start, src) ← tagUri (src.skipWhile (· = ' '))
      if endsWord src.peek then return (.tag handle start, src) else .error .malformed
  else return (.other, src.skipWhile (fun c => !endsLine c))

def directive (src : Source) : Except Flaw (Directive × Source) := do
  let (name, src) := src.span isNameChar
  if name.isEmpty || !endsWord src.peek then .error .malformed
  else
    let (d, src) ← directiveBody (String.ofList name) src
    let src := src.skipComment
    if endsLine src.peek then return (d, src.lineBreak.2) else .error .malformed

/-- Reads the name of an anchor or alias from after its indicator. -/
def anchorName (src : Source) : Except Flaw (String × Source) :=
  let (name, src) := src.span isNameChar
  if name.isEmpty then .error .malformed
  else if isGap src.peek || "?:,]\x7d%@".toList.contains src.peek || src.peek = Char.ofNat 0x60 then
    .ok (String.ofList name, src)
  else .error .malformed

/-- Whether an exclamation mark comes before the end of the word. -/
def hasSecondMark : Source → Bool
  | [] => false
  | spot :: rest => if endsWord spot.char then false else spot.char = '!' || hasSecondMark rest

def tag (src : Source) : Except Flaw (Token × Source) := do
  let next := src.peekAt 1
  let (token, src) ←
    if next = '<' then do
      let (uri, src) ← tagUri (src.skipMany 2)
      if src.peek = '>' then pure (Token.tag none uri, src.skip) else .error .malformed
    else if isGap next then pure (Token.tag none "!", src.skip)
    else if hasSecondMark src.skip then do
      let (handle, src) ← tagHandle src
      let (suffix, src) ← tagUri src
      pure (Token.tag (some handle) suffix, src)
    else do
      let (suffix, src) ← tagUri src.skip
      pure (Token.tag (some "!") suffix, src)
  if endsWord src.peek then return (token, src) else .error .malformed

/-! ## Steps -/

/-- Reads a document marker or a directive line, which closes all blocks. -/
def atMargin (x : Lexer) : Except Flaw Lexer := do
  let x ← (x.closeBlocks (-1)).dropCandidate
  return { x with allowsKey := false }

/-- Opens a flow collection, which may itself be a key. -/
def openFlow (x : Lexer) (token : Token) : Except Flaw Lexer := do
  let x ← x.saveCandidate
  return { x.pushMark token 1 with flowLevel := x.flowLevel + 1, allowsKey := true }

def closeFlow (x : Lexer) (token : Token) : Except Flaw Lexer := do
  if !x.inFlow then .error .malformed
  else
    let x ← x.dropCandidate
    return { x.pushMark token 1 with flowLevel := x.flowLevel - 1, allowsKey := false }

def separate (x : Lexer) : Except Flaw Lexer := do
  let x ← { x with allowsKey := true }.dropCandidate
  return x.pushMark .flowEntry 1

/-- Opens a block at the current column where an indicator asks for it; outside flow
    collections the indicator needs a place where a key may begin. -/
def startBlock (x : Lexer) (token : Token) : Except Flaw Lexer :=
  if x.inFlow then .ok x
  else if !x.allowsKey then .error .malformed
  else
    let (opened, x) := x.openBlock x.source.column
    .ok (if opened then x.push token else x)

def item (x : Lexer) : Except Flaw Lexer := do
  let x ← x.startBlock .blockSequenceStart
  let x ← { x with allowsKey := true }.dropCandidate
  return x.pushMark .blockEntry 1

def explicitKey (x : Lexer) : Except Flaw Lexer := do
  let x ← x.startBlock .blockMappingStart
  let x ← { x with allowsKey := !x.inFlow }.dropCandidate
  return x.pushMark .key 1

/-- Reads the colon of a value. It makes the candidate of this level a key. -/
def mappingValue (x : Lexer) : Except Flaw Lexer := do
  match x.candidates.lookup x.flowLevel with
  | some k =>
    let x := { x with candidates := x.candidates.filter (fun (level, _) => level != x.flowLevel) }
    let (opened, x) := if x.inFlow then (false, x) else x.openBlock k.place.column
    let inserted := x.tokens.insertIdxIfInBounds k.tokensBefore .key
    let inserted :=
      if opened then inserted.insertIdxIfInBounds k.tokensBefore .blockMappingStart else inserted
    return { x with tokens := inserted, allowsKey := false }.pushMark .value 1
  | none =>
    let x ← x.startBlock .blockMappingStart
    let x ← { x with allowsKey := !x.inFlow }.dropCandidate
    return x.pushMark .value 1

/-- Reads a node that may be a key: the token that `read` gives. -/
def node (x : Lexer) (read : Source → Except Flaw (Token × Source)) : Except Flaw Lexer := do
  let x ← x.saveCandidate
  let (token, source) ← read x.source
  return { x.push token with source, allowsKey := false }

/-- Makes a token of what was read. What is wrong with it alone becomes a token that ends the
    reading. -/
def tokenOf {α : Type} (make : α → Token) : Except Flaw (α × Source) → Except Flaw (Token × Source)
  | .ok (part, src) => .ok (make part, src)
  | .error .malformed => .error .malformed
  | .error flaw => .ok (.flawed flaw, [])

/-- Reads a directive line, which closes all blocks. -/
def directiveLine (x : Lexer) : Except Flaw Lexer := do
  let x ← x.atMargin
  let (token, source) ← tokenOf .directive (directive x.source.skip)
  return { x.push token with source }

def quotedScalar (x : Lexer) (double : Bool) : Except Flaw Lexer :=
  x.node fun src => tokenOf (.scalar · false) (quotedText double src.length src.skip)

/-- Reads a block scalar, which is never a key. -/
def blockScalar (x : Lexer) (folded : Bool) : Except Flaw Lexer := do
  let x ← { x with allowsKey := true }.dropCandidate
  let (token, source) ←
    tokenOf (fun cs => .scalar (.ofChars cs) false) (blockText folded x.indent x.source.skip)
  return { x.push token with source }

/-- Reads a plain scalar. A key may begin after it if it ends behind a line break. -/
def plainScalar (x : Lexer) : Except Flaw Lexer := do
  let x ← x.saveCandidate
  let (cs, broken, source) :=
    plainText x.inFlow (x.indent + 1) x.source.length [] false x.source
  return { x.push (.scalar (.ofChars cs) true) with source, allowsKey := broken }

/-- Whether a plain scalar may begin with `c` in front of `next`. -/
def startsPlain (inFlow : Bool) (c next : Char) : Bool :=
  !(isGap c || "-?:,[]\x7b\x7d#&*!|>'\"%@".toList.contains c || c = Char.ofNat 0x60) ||
    (!isGap next && (c = '-' || (!inFlow && (c = '?' || c = ':'))))

/-- Reads the token that begins at the next character, which is not the end mark. -/
def token (x : Lexer) : Except Flaw Lexer := do
  let c := x.source.peek
  let next := x.source.peekAt 1
  let column := x.source.column
  if c = '%' && column = 0 then x.directiveLine
  else if column = 0 && x.source.isAtMarker '-' then
    return (← x.atMargin).pushMark .documentStart 3
  else if column = 0 && x.source.isAtMarker '.' then
    return (← x.atMargin).pushMark .documentEnd 3
  else if c = '[' then x.openFlow .flowSequenceStart
  else if c = '\x7b' then x.openFlow .flowMappingStart
  else if c = ']' then x.closeFlow .flowSequenceEnd
  else if c = '\x7d' then x.closeFlow .flowMappingEnd
  else if c = ',' then x.separate
  else if c = '-' && isGap next then x.item
  else if c = '?' && (x.inFlow || isGap next) then x.explicitKey
  else if c = ':' && (x.inFlow || isGap next) then x.mappingValue
  else if c = '*' then
    x.node fun src => do let (name, src) ← anchorName src.skip; return (.alias name, src)
  else if c = '&' then
    x.node fun src => do let (name, src) ← anchorName src.skip; return (.anchor name, src)
  else if c = '!' then x.node tag
  else if c = '|' && !x.inFlow then x.blockScalar false
  else if c = '>' && !x.inFlow then x.blockScalar true
  else if c = '\'' then x.quotedScalar false
  else if c = '"' then x.quotedScalar true
  else if startsPlain x.inFlow c next then x.plainScalar
  else .error .malformed

/-- Reads tokens until the text ends or a flawed one is met. The latter stands for all tokens
    that were not settled before it was read. -/
def run : (fuel : Nat) → Lexer → Except Flaw (Array Token)
  | 0, _ => .error .malformed
  | fuel + 1, x => do
    let settled := x.settled
    let x ← x.skipToToken.dropLapsed
    let x := x.closeBlocks x.source.column
    if x.source.peek = endMark then
      let x ← (x.closeBlocks (-1)).dropCandidate
      return x.tokens.push .streamEnd
    else
      let x ← x.token
      match x.source with
      | [] => return x.tokens.take settled ++ x.tokens.drop (x.tokens.size - 1)
      | _ => run fuel x

end Lexer

def tokens (cs : List Char) : Except Flaw (List Token) :=
  if cs.all isAllowed then do
    let source := Source.ofChars cs
    let tokens ← Lexer.run (source.length + 1) { source }
    return tokens.toList
  else .error .malformed

end BezelStream.Yaml
