/-! # Decimal digits of all scripts -/

namespace BezelStream.Text

/-- The digit zero of each script that writes numbers with ten decimal digits. -/
def zeroDigits : List Nat := [
  0x30, 0x660, 0x6F0, 0x7C0, 0x966, 0x9E6, 0xA66, 0xAE6, 0xB66, 0xBE6, 0xC66, 0xCE6, 0xD66, 0xDE6,
  0xE50, 0xED0, 0xF20, 0x1040, 0x1090, 0x17E0, 0x1810, 0x1946, 0x19D0, 0x1A80, 0x1A90, 0x1B50,
  0x1BB0, 0x1C40, 0x1C50, 0xA620, 0xA8D0, 0xA900, 0xA9D0, 0xA9F0, 0xAA50, 0xABF0, 0xFF10, 0x104A0,
  0x10D30, 0x11066, 0x110F0, 0x11136, 0x111D0, 0x112F0, 0x11450, 0x114D0, 0x11650, 0x116C0,
  0x11730, 0x118E0, 0x11950, 0x11C50, 0x11D50, 0x11DA0, 0x16A60, 0x16AC0, 0x16B50, 0x1D7CE,
  0x1D7D8, 0x1D7E2, 0x1D7EC, 0x1D7F6, 0x1E140, 0x1E2F0, 0x1E950, 0x1FBF0]

def digit? (c : Char) : Option Nat :=
  (zeroDigits.find? fun first => first ≤ c.toNat && c.toNat < first + 10).map (c.toNat - ·)

/-- A decimal digit of any script as an ASCII digit; other characters unchanged. -/
def asciiDigit (c : Char) : Char :=
  if c.toNat < 0x80 then c else
    match digit? c with
    | some d => Char.ofNat (0x30 + d)
    | none => c

/-- The value of an ASCII digit or letter, letters counting on from ten. -/
def alphanumericValue? (c : Char) : Option Nat :=
  if c.isDigit then some (c.toNat - 0x30)
  else if c.isLower then some (c.toNat - 0x61 + 10)
  else if c.isUpper then some (c.toNat - 0x41 + 10)
  else none

/-- Whether the character is a hexadecimal digit in either letter case. -/
def isHexDigit (c : Char) : Bool :=
  match alphanumericValue? c with
  | some v => v < 16
  | none => false

/-- The number written by the hexadecimal digits, most significant first. -/
def hexNumber (cs : List Char) : Nat :=
  cs.foldl (fun n c => n * 16 + (alphanumericValue? c).getD 0) 0

/-- The digit for a value below sixteen, with lower-case letters. -/
def hexDigit (v : Nat) : Char :=
  if v < 10 then Char.ofNat (0x30 + v) else Char.ofNat (0x61 + (v - 10))

def hexDigits : (width : Nat) → Nat → List Char
  | 0, _ => []
  | width + 1, n => hexDigits width (n / 16) ++ [hexDigit (n % 16)]

/-- A number in decimal, with zeros in front up to `width` digits. -/
def padded (width n : Nat) : String :=
  let digits := toString n
  String.ofList (List.replicate (width - digits.length) '0') ++ digits

end BezelStream.Text
