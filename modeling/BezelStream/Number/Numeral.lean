import BezelStream.Number.Binary64
import BezelStream.Text.Blank
import BezelStream.Text.Digits

/-! # Numbers written by people

`Numeral.int?` and `Numeral.float?` read a number with blanks around it. The
digits may come from any script, and single underscores may separate them. The
four information separators count as blanks elsewhere but not here.
-/

namespace BezelStream.Numeral

open Text

def isMargin (c : Char) : Bool :=
  isBlank c && !(0x1C ≤ c.toNat && c.toNat ≤ 0x1F)

def core (cs : List Char) : List Char :=
  ((cs.dropWhile isMargin).reverse.dropWhile isMargin).reverse.map asciiDigit

/-- Splits off a sign: whether it is a minus, and the rest. -/
def sign : List Char → Bool × List Char
  | '-' :: rest => (true, rest)
  | '+' :: rest => (false, rest)
  | cs => (false, cs)

def digitIn? (base : Nat) (c : Char) : Option Nat :=
  (alphanumericValue? c).filter (· < base)

/-- Digits read after a first one: number of digits and value so far, the final
    pair and what follows. An underscore is read only before a digit. -/
def digitsAfter (base : Nat) : (count value : Nat) → List Char → (Nat × Nat) × List Char
  | count, value, [] => ((count, value), [])
  | count, value, '_' :: c :: rest =>
    match digitIn? base c with
    | some d => digitsAfter base (count + 1) (value * base + d) rest
    | none => ((count, value), '_' :: c :: rest)
  | count, value, c :: rest =>
    match digitIn? base c with
    | some d => digitsAfter base (count + 1) (value * base + d) rest
    | none => ((count, value), c :: rest)

/-- Digits at the front: their number, their value and what follows. -/
def digits? (base : Nat) : List Char → Option ((Nat × Nat) × List Char)
  | [] => none
  | c :: rest => (digitIn? base c).map fun d => digitsAfter base 1 d rest

/-- The most digits that a number is read from when the base is no power of two. -/
def mostDigits : Nat := 4300

/-- The letter that may stand after a zero in front of a number of the base. -/
def baseLetter? : Nat → Option Char
  | 2 => some 'b'
  | 8 => some 'o'
  | 16 => some 'x'
  | _ => none

/-- Removes a base mark such as `0x`, with an underscore after it if there is one. -/
def withoutBaseMark (base : Nat) : List Char → List Char
  | '0' :: letter :: rest =>
    if some letter.toLower = baseLetter? base then
      match rest with
      | '_' :: rest => rest
      | rest => rest
    else '0' :: letter :: rest
  | cs => cs

/-- The integer that the whole text writes in the base. -/
def int? (base : Nat) (cs : List Char) : Option Int :=
  let (negative, cs) := sign (core cs)
  match digits? base (withoutBaseMark base cs) with
  | some ((count, value), []) =>
    if (baseLetter? base).isNone && mostDigits < count then none
    else some (if negative then -(value : Int) else value)
  | _ => none

/-- An exponent mark with its digits, and what follows; zero if there is none. -/
def exponent (cs : List Char) : Int × List Char :=
  match cs with
  | e :: rest =>
    if e.toLower = 'e' then
      let (negative, digits) := sign rest
      match digits? 10 digits with
      | some ((_, value), rest) => (if negative then -(value : Int) else value, rest)
      | none => (0, cs)
    else (0, cs)
  | [] => (0, [])

/-- The unsigned decimal that the whole text writes, as a signed number. -/
def decimal? (negative : Bool) (cs : List Char) : Option Binary64 :=
  let (whole, rest) := (digits? 10 cs).getD ((0, 0), cs)
  let (fraction, rest) := match rest with
    | '.' :: rest => (digits? 10 rest).getD ((0, 0), rest)
    | rest => ((0, 0), rest)
  let (power, rest) := exponent rest
  if whole.1 + fraction.1 = 0 || !rest.isEmpty then none
  else some (.ofDecimal negative (whole.2 * tenTo fraction.1 + fraction.2) (power - fraction.1))

def float? (cs : List Char) : Option Binary64 :=
  let (negative, cs) := sign (core cs)
  let word := String.ofList (cs.map Char.toLower)
  if word = "inf" || word = "infinity" then some (.infinite negative)
  else if word = "nan" then some .nan
  else decimal? negative cs

end BezelStream.Numeral
