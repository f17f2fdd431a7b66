/-! # Source text with places

The text of a document as a list of characters, each with its place, closed by an
end mark. The character of the end mark is NUL, which no document may hold, so
that looking ahead needs no case for the end.
-/

namespace BezelStream.Yaml

/-- Where a character stands. -/
structure Place where
  index : Nat := 0
  line : Nat := 0
  /-- The number of characters before it on its line; byte order marks do not count. -/
  column : Nat := 0
  deriving Repr, DecidableEq

/-- A character with its place. -/
structure Spot where
  char : Char
  place : Place
  deriving Repr, DecidableEq

/-- What is left to read; it ends with the end mark. -/
abbrev Source := List Spot

def endMark : Char := '\x00'

/-- The byte order mark, which takes no column. -/
def byteOrderMark : Char := '\uFEFF'

def isBreak (c : Char) : Bool :=
  c = '\n' || c = '\r' || c = '\x85' || c = '\u2028' || c = '\u2029'

/-- Whether the character is a line break or the end mark. -/
def endsLine (c : Char) : Bool :=
  c = endMark || isBreak c

/-- Whether the character is a space, a line break or the end mark. -/
def endsWord (c : Char) : Bool :=
  c = ' ' || endsLine c

/-- Whether the character is a space, a tab, a line break or the end mark. -/
def isGap (c : Char) : Bool :=
  c = '\t' || endsWord c

def isAllowed (c : Char) : Bool :=
  let n := c.toNat
  n = 0x9 || n = 0xA || n = 0xD || (0x20 ≤ n && n ≤ 0x7E) || n = 0x85 ||
    (0xA0 ≤ n && n ≤ 0xD7FF) || (0xE000 ≤ n && n ≤ 0xFFFD) || 0x10000 ≤ n

namespace Place

/-- The place after the character `c`, where `next` is the character after it. -/
def after (p : Place) (c next : Char) : Place :=
  if c = '\n' || c = '\x85' || c = '\u2028' || c = '\u2029' || (c = '\r' && next != '\n') then
    ⟨p.index + 1, p.line + 1, 0⟩
  else ⟨p.index + 1, p.line, if c = byteOrderMark then p.column else p.column + 1⟩

end Place

namespace Source

def ofCharsAt (p : Place) : List Char → Source
  | [] => [⟨endMark, p⟩]
  | c :: rest => ⟨c, p⟩ :: ofCharsAt (p.after c (rest.headD endMark)) rest

def ofChars (cs : List Char) : Source :=
  ofCharsAt {} cs

def peek : Source → Char
  | [] => endMark
  | spot :: _ => spot.char

def peekAt (src : Source) (n : Nat) : Char :=
  peek (src.drop n)

def place : Source → Place
  | [] => {}
  | spot :: _ => spot.place

def column (src : Source) : Int :=
  src.place.column

/-- Goes past one character, but never past the end mark. -/
def skip : Source → Source
  | [] => []
  | [last] => [last]
  | _ :: rest => rest

def skipMany : Nat → Source → Source
  | 0, src => src
  | n + 1, src => skipMany n src.skip

/-- The longest run of characters of a class, and what follows it. The class must not
    hold the end mark. -/
def span (p : Char → Bool) : Source → List Char × Source
  | [] => ([], [])
  | spot :: rest =>
    if p spot.char then
      let (run, rest) := span p rest
      (spot.char :: run, rest)
    else ([], spot :: rest)

def skipWhile (p : Char → Bool) : Source → Source
  | [] => []
  | spot :: rest => if p spot.char then skipWhile p rest else spot :: rest

/-- Reads one line break: its normal form, nothing if there is none, and what follows. -/
def lineBreak (src : Source) : List Char × Source :=
  match src with
  | ⟨'\r', _⟩ :: ⟨'\n', _⟩ :: rest => (['\n'], rest)
  | spot :: rest =>
    if spot.char = '\u2028' || spot.char = '\u2029' then ([spot.char], rest)
    else if isBreak spot.char then (['\n'], rest)
    else ([], src)
  | [] => ([], [])

/-- Whether the next three characters are a document marker followed by a gap. -/
def isAtMarker (marker : Char) (src : Source) : Bool :=
  src.peek = marker && src.peekAt 1 = marker && src.peekAt 2 = marker && isGap (src.peekAt 3)

def isAtAnyMarker (src : Source) : Bool :=
  src.isAtMarker '-' || src.isAtMarker '.'

def skipComment (src : Source) : Source :=
  let src := src.skipWhile (· = ' ')
  if src.peek = '#' then src.skipWhile (fun c => !endsLine c) else src

end Source

end BezelStream.Yaml
