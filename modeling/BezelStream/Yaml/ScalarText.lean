import BezelStream.Text.Digits
import BezelStream.Yaml.Flaw
import BezelStream.Yaml.Source

/-! # The texts of scalars

Readers for the four spellings of a scalar: between quotes of either kind, as an
indented block, and plain. Each takes the source at the start of the text and
gives the text with what follows it. The lengths of the source bound the loops.
-/

namespace BezelStream.Yaml

open Text

def isSpaceOrTab (c : Char) : Bool :=
  c = ' ' || c = '\t'

/-! ## Quoted scalars -/

/-- The line breaks at the start of quoted lines, with the blanks between them dropped.
    A document marker at the start of a line is refused. -/
def quotedBreaks : (fuel : Nat) → Source → Except Flaw (List Char × Source)
  | 0, _ => .error .malformed
  | fuel + 1, src =>
    if src.isAtAnyMarker then .error .malformed
    else
      let src := src.skipWhile isSpaceOrTab
      if isBreak src.peek then do
        let (here, src) := src.lineBreak
        let (more, src) ← quotedBreaks fuel src
        return (here ++ more, src)
      else .ok ([], src)

/-- Blanks inside a quoted scalar: kept on a line, folded where they hold line breaks. -/
def quotedBlanks (src : Source) : Except Flaw (List Char × Source) := do
  let (blanks, src) := src.span isSpaceOrTab
  if src.peek = endMark then .error .malformed
  else if isBreak src.peek then
    let (first, src) := src.lineBreak
    let (more, src) ← quotedBreaks src.length src
    let folded := if first ≠ ['\n'] then first ++ more else if more.isEmpty then [' '] else more
    return (folded, src)
  else return (blanks, src)

def escaped? (c : Char) : Option Char :=
  [('0', '\x00'), ('a', '\x07'), ('b', '\x08'), ('t', '\t'), ('\t', '\t'), ('n', '\n'),
    ('v', '\x0B'), ('f', '\x0C'), ('r', '\r'), ('e', '\x1B'), (' ', ' '), ('"', '"'),
    ('\\', '\\'), ('/', '/'), ('N', '\x85'), ('_', '\xA0'), ('L', '\u2028'),
    ('P', '\u2029')].lookup c

/-- The number of hexadecimal digits that an escape letter asks for. -/
def escapeWidth? (c : Char) : Option Nat :=
  [('x', 2), ('u', 4), ('U', 8)].lookup c

def hexEscape? (width : Nat) (src : Source) : Option (Nat × Source) :=
  let cs := (src.take width).map Spot.char
  if cs.length = width && cs.all isHexDigit then some (hexNumber cs, src.skipMany width) else none

/-- The code point that an escape with this number spells. -/
def pointOf (code : Nat) : Except Mismatch CodePoint :=
  if code < 0x110000 then .ok (.ofNat code)
  else if code < 0x80000000 then .error .badValue
  else .error .tooLarge

/-- Reads what follows the backslash of an escape. Each escape spells a code point of its own. -/
def escapeSequence (src : Source) : Except Flaw (CodePoints × Source) :=
  match escaped? src.peek, escapeWidth? src.peek with
  | some c, _ => .ok ([.char c], src.skip)
  | none, some width =>
    match hexEscape? width src.skip with
    | none => .error .malformed
    | some (code, rest) =>
      match pointOf code with
      | .ok point => .ok ([point], rest)
      | .error reason => .error (.mismatch reason)
  | none, none =>
    if isBreak src.peek then do
      let (_, src) := src.lineBreak
      let (breaks, src) ← quotedBreaks src.length src
      return (.ofChars breaks, src)
    else .error .malformed

/-- A quoted scalar from after its opening quote to past its closing quote. -/
def quotedText (double : Bool) : (fuel : Nat) → Source → Except Flaw (CodePoints × Source)
  | 0, _ => .error .malformed
  | fuel + 1, src =>
    let c := src.peek
    let continued (part : CodePoints × Source) : Except Flaw (CodePoints × Source) := do
      let (more, src) ← quotedText double fuel part.2
      return (part.1 ++ more, src)
    if isGap c then do
      let (blanks, src) ← quotedBlanks src
      continued (.ofChars blanks, src)
    else if double then
      if c = '"' then .ok ([], src.skip)
      else if c = '\\' then do continued (← escapeSequence src.skip)
      else continued ([.char c], src.skip)
    else if c = '\'' then
      if src.peekAt 1 = '\'' then continued ([.char c], src.skipMany 2) else .ok ([], src.skip)
    else continued ([.char c], src.skip)

/-! ## Block scalars -/

/-- What happens to the line breaks at the end of a block. -/
inductive Chomping where
  | clip
  /-- None is kept. -/
  | strip
  | keep
  deriving Repr, DecidableEq

def chomping? (c : Char) : Option Chomping :=
  if c = '+' then some .keep else if c = '-' then some .strip else none

def increment? (c : Char) : Option Nat :=
  if c.isDigit then some (c.toNat - '0'.toNat) else none

/-- Reads the indicators of a block in either order. An indentation of zero is refused. -/
def blockIndicators (src : Source) : Except Flaw (Chomping × Option Nat × Source) := do
  let (chomping, increment, src) :=
    match chomping? src.peek, increment? src.peek with
    | some chomping, _ =>
      match increment? src.skip.peek with
      | some n => (chomping, some n, src.skipMany 2)
      | none => (chomping, none, src.skip)
    | none, some n =>
      match chomping? src.skip.peek with
      | some chomping => (chomping, some n, src.skipMany 2)
      | none => (.clip, some n, src.skip)
    | none, none => (.clip, none, src)
  if increment = some 0 || !endsWord src.peek then .error .malformed
  else return (chomping, increment, src)

def skipIndentation (indent : Int) : Source → Source
  | [] => []
  | spot :: rest =>
    if spot.char = ' ' && (spot.place.column : Int) < indent then skipIndentation indent rest
    else spot :: rest

/-- The line breaks of empty lines, going past the indentation of the line after them. -/
def blockBreaks (indent : Int) : (fuel : Nat) → Source → List Char × Source
  | 0, src => ([], src)
  | fuel + 1, src =>
    let src := skipIndentation indent src
    if isBreak src.peek then
      let (here, src) := src.lineBreak
      let (more, src) := blockBreaks indent fuel src
      (here ++ more, src)
    else ([], src)

/-- The breaks in front of a block whose indentation is not given, and the greatest
    column that spaces reach there. -/
def blockIndentation : (fuel : Nat) → (greatest : Int) → Source → List Char × Int × Source
  | 0, greatest, src => ([], greatest, src)
  | fuel + 1, greatest, src =>
    if src.peek = ' ' then
      let src := src.skip
      blockIndentation fuel (max greatest src.column) src
    else if isBreak src.peek then
      let (here, src) := src.lineBreak
      let (more, greatest, src) := blockIndentation fuel greatest src
      (here ++ more, greatest, src)
    else ([], greatest, src)

/-- The lines of a block that begin at its indentation: their text, the break after
    the last of them, the breaks after that, and what follows. -/
def blockLines (folded : Bool) (indent : Int) :
    (fuel : Nat) → (breaks : List Char) → Source → List Char × List Char × List Char × Source
  | 0, breaks, src => ([], [], breaks, src)
  | fuel + 1, breaks, src =>
    if src.column = indent && src.peek != endMark then
      let indented := isSpaceOrTab src.peek
      let (run, src) := src.span (fun c => !endsLine c)
      let (lineEnd, src) := src.lineBreak
      let (after, src) := blockBreaks indent src.length src
      if src.column = indent && src.peek != endMark then
        let joint :=
          if folded && lineEnd = ['\n'] && !indented && !isSpaceOrTab src.peek then
            if after.isEmpty then [' '] else []
          else lineEnd
        let (more, lastEnd, rest, src) := blockLines folded indent fuel after src
        (breaks ++ run ++ joint ++ more, lastEnd, rest, src)
      else (breaks ++ run, lineEnd, after, src)
    else ([], [], breaks, src)

/-- A block scalar from after its indicator character. `parent` is the indentation of
    the block that it stands in. -/
def blockText (folded : Bool) (parent : Int) (src : Source) :
    Except Flaw (List Char × Source) := do
  let (chomping, increment, src) ← blockIndicators src
  let src := src.skipComment
  if !endsLine src.peek then .error .malformed
  else
    let (_, src) := src.lineBreak
    let least := max (parent + 1) 1
    let (breaks, indent, src) :=
      match increment with
      | some n =>
        let indent := least + n - 1
        let (breaks, src) := blockBreaks indent src.length src
        (breaks, indent, src)
      | none =>
        let (breaks, greatest, src) := blockIndentation src.length 0 src
        (breaks, max least greatest, src)
    let (lines, lastEnd, rest, src) := blockLines folded indent src.length breaks src
    let ending := match chomping with
      | .strip => []
      | .clip => lastEnd
      | .keep => lastEnd ++ rest
    return (lines ++ ending, src)

/-! ## Plain scalars -/

/-- Whether a plain scalar stops before the character `c` that is followed by `next`. -/
def stopsPlain (inFlow : Bool) (c next : Char) : Bool :=
  isGap c ||
    (c = ':' && (isGap next || (inFlow && [',', '[', ']', '\x7b', '\x7d'].contains next))) ||
    (inFlow && [',', '?', '[', ']', '\x7b', '\x7d'].contains c)

/-- The characters of a plain scalar up to the next gap or indicator. -/
def plainRun (inFlow : Bool) : Source → List Char × Source
  | [] => ([], [])
  | spot :: rest =>
    if stopsPlain inFlow spot.char (Source.peek rest) then ([], spot :: rest)
    else
      let (run, rest) := plainRun inFlow rest
      (spot.char :: run, rest)

/-- The line breaks after the first one between the lines of a plain scalar; `none`
    where a document marker ends it. -/
def plainBreaks : (fuel : Nat) → Source → Option (List Char) × Source
  | 0, src => (none, src)
  | fuel + 1, src =>
    if src.isAtAnyMarker then (none, src)
    else
      let src := src.skipWhile (· = ' ')
      if isBreak src.peek then
        let (here, src) := src.lineBreak
        let (more, src) := plainBreaks fuel src
        (more.map (here ++ ·), src)
      else (some [], src)

/-- The space between two runs of a plain scalar, whether it holds a line break, and
    what follows. No space means that the scalar ends. -/
def plainSpace (src : Source) : List Char × Bool × Source :=
  let (blanks, src) := src.span (· = ' ')
  if isBreak src.peek then
    let (first, src) := src.lineBreak
    match plainBreaks src.length src with
    | (none, src) => ([], true, src)
    | (some more, src) =>
      (if first ≠ ['\n'] then first ++ more else if more.isEmpty then [' '] else more, true, src)
  else (blanks, false, src)

/-- A plain scalar from a run on, with the space before it, and whether its last space
    held a line break. It ends before a comment and, outside flow collections, before a
    line that is not indented enough. -/
def plainText (inFlow : Bool) (indent : Int) :
    (fuel : Nat) → (space : List Char) → (broken : Bool) → Source → List Char × Bool × Source
  | 0, _, broken, src => ([], broken, src)
  | fuel + 1, space, broken, src =>
    if src.peek = '#' then ([], broken, src)
    else
      let (run, rest) := plainRun inFlow src
      if run.isEmpty then ([], broken, src)
      else
        let (next, broken, rest) := plainSpace rest
        if next.isEmpty || Source.peek rest = '#' || (!inFlow && Source.column rest < indent) then
          (space ++ run, broken, rest)
        else
          let (more, broken, rest) := plainText inFlow indent fuel next broken rest
          (space ++ run ++ more, broken, rest)

end BezelStream.Yaml
