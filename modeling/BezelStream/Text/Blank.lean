/-! # Blank characters and the ends of a text

The blanks are the twenty-nine characters of the Unicode white-space property
together with the four information separators. `trim` removes them at both ends
and nowhere else.
-/

namespace BezelStream.Text

/-- The characters that count as blank when the ends of a text are trimmed. -/
def isBlank (c : Char) : Bool :=
  let n := c.toNat
  (0x9 ≤ n && n ≤ 0xD) || (0x1C ≤ n && n ≤ 0x20) || n == 0x85 || n == 0xA0 || n == 0x1680 ||
    (0x2000 ≤ n && n ≤ 0x200A) || n == 0x2028 || n == 0x2029 || n == 0x202F || n == 0x205F ||
    n == 0x3000

def trimStart (cs : List Char) : List Char :=
  cs.dropWhile isBlank

def trimEnd (cs : List Char) : List Char :=
  (cs.reverse.dropWhile isBlank).reverse

def trim (cs : List Char) : List Char :=
  trimEnd (trimStart cs)

def trimmed (s : String) : String :=
  String.ofList (trim s.toList)

end BezelStream.Text
