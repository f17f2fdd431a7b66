/-! # Lines of a text

`lines` cuts a text after each line end. Carriage return followed by line feed
is one line end; an unfinished last line is a line if it holds a character.
`unifyLineEnds` is the reading of a stored text, in which the three line ends of
the common systems become one line feed each.
-/

namespace BezelStream.Text

def isLineEnd (c : Char) : Bool :=
  let n := c.toNat
  (0xA ≤ n && n ≤ 0xD) || (0x1C ≤ n && n ≤ 0x1E) || n == 0x85 || n == 0x2028 || n == 0x2029

/-- The lines of a text from the point where `line` (latest character first) has
    been read of the current one. -/
def linesFrom : (line : List Char) → List Char → List (List Char)
  | [], [] => []
  | line, [] => [line.reverse]
  | line, '\r' :: '\n' :: rest => line.reverse :: linesFrom [] rest
  | line, c :: rest =>
    if isLineEnd c then line.reverse :: linesFrom [] rest else linesFrom (c :: line) rest

/-- The lines of a text, without their line ends. -/
def lines (cs : List Char) : List (List Char) :=
  linesFrom [] cs

/-- Turns each carriage return, with the line feed after it if there is one, into
    a line feed. -/
def unifyLineEnds : List Char → List Char
  | [] => []
  | '\r' :: '\n' :: rest => '\n' :: unifyLineEnds rest
  | c :: rest => (if c = '\r' then '\n' else c) :: unifyLineEnds rest

end BezelStream.Text
