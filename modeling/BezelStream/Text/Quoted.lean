import BezelStream.Text.CodePoint
import BezelStream.Text.Lowercase
import BezelStream.Text.Printable.Ranges

/-! # Quoted text

`quoted` shows a text between quotes with everything unprintable escaped.
Apostrophes enclose it, unless it holds an apostrophe and no double quote.
`quotedBytes` shows bytes by the same rules after the letter `b`.
-/

namespace BezelStream.Text

/-- Whether a character may stand in a quoted text as it is. -/
def isPrintable (c : Char) : Bool :=
  if c.toNat < 0x80 then 0x20 ≤ c.toNat && c.toNat < 0x7F else !inRanges unprintableRanges c

/-- The quote that encloses a text: the first of the two that the text lacks,
    an apostrophe if it holds both. -/
def enclosingQuote (cs : List Char) : Char :=
  if cs.contains '\'' && !cs.contains '"' then '"' else '\''

/-- The escape of one character inside a text enclosed by `quote`. -/
def escapeChar (quote c : Char) : List Char :=
  if c = '\\' || c = quote then ['\\', c]
  else if c = '\n' then ['\\', 'n']
  else if c = '\r' then ['\\', 'r']
  else if c = '\t' then ['\\', 't']
  else if isPrintable c then [c]
  else if c.toNat < 0x100 then '\\' :: 'x' :: hexDigits 2 c.toNat
  else if c.toNat < 0x10000 then '\\' :: 'u' :: hexDigits 4 c.toNat
  else '\\' :: 'U' :: hexDigits 8 c.toNat

def escapePoint (quote : Char) : CodePoint → List Char
  | .char c => escapeChar quote c
  | .half i => (CodePoint.half i).written

def quoted (t : CodePoints) : String :=
  let quote := enclosingQuote (t.filterMap CodePoint.char?)
  String.ofList (quote :: t.flatMap (escapePoint quote) ++ [quote])

/-- Bytes between quotes, each byte above the ASCII range as an escape. -/
def quotedBytes (bytes : List UInt8) : String :=
  let cs := bytes.map fun b => Char.ofNat b.toNat
  let quote := enclosingQuote cs
  let escape (c : Char) :=
    if c.toNat < 0x80 then escapeChar quote c else '\\' :: 'x' :: hexDigits 2 c.toNat
  String.ofList ('b' :: quote :: cs.flatMap escape ++ [quote])

end BezelStream.Text
