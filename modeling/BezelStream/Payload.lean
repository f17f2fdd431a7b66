/-! # Payload frames

A frame is the bytes of one notification or indication. `Frame.hex` writes them
as upper-case pairs of digits, and `Frame.line` adds their number.
-/

namespace BezelStream

abbrev Frame := List UInt8

/-- The upper-case hexadecimal digit of a value below sixteen. -/
def upperHexDigit (v : Nat) : Char :=
  if v < 10 then Char.ofNat (0x30 + v) else Char.ofNat (0x41 + (v - 10))

def hexPair (b : UInt8) : List Char :=
  [upperHexDigit (b.toNat / 16), upperHexDigit (b.toNat % 16)]

namespace Frame

/-- The pairs of digits of the bytes, with single spaces between them. -/
def hexChars : Frame → List Char
  | [] => []
  | [b] => hexPair b
  | b :: rest => hexPair b ++ ' ' :: hexChars rest

def hex (frame : Frame) : String :=
  String.ofList (hexChars frame)

/-- The line that shows a frame: its number of bytes and its bytes. -/
def line (frame : Frame) : String :=
  "Indication (" ++ toString frame.length ++ " bytes): " ++ frame.hex

end Frame

end BezelStream
