import BezelStream.Number.Numeral
import BezelStream.Text.Lowercase
import BezelStream.Text.Split
import BezelStream.Value.Conversion
import BezelStream.Yaml.Flaw
import BezelStream.Yaml.Resolution

/-! # The values of scalars

How the text of a scalar is read once its tag is known. A tag may be given to any
text, so each reader says what becomes of texts without the look of its kind.
-/

namespace BezelStream.Yaml

open Text

/-- A reader's result, or why the text has none. -/
abbrev Reading (α : Type) := Except Mismatch α

/-- The value if there is one, a bad value otherwise. -/
def orBad {α : Type} : Option α → Reading α
  | some a => .ok a
  | none => .error .badValue

/-- The characters without underscores and without one sign in front, and whether the
    sign is a minus. A text of underscores alone has no digit. -/
def signed (cs : List Char) : Reading (Bool × List Char) :=
  match cs.filter (· != '_') with
  | [] => .error .noDigit
  | c :: rest => .ok (Numeral.sign (c :: rest))

/-! ## Numbers -/

/-- The number that parts of sixty make, the last part first. -/
def sexagesimal : (parts : List Int) → Int
  | [] => 0
  | part :: rest => part + 60 * sexagesimal rest

/-- The magnitude of an integer, by the spelling that its front shows: base two or
    sixteen after a mark, base eight after a zero, parts of sixty, or decimal. -/
def magnitude (cs : List Char) : Reading Int :=
  match cs with
  | [] => .error .noDigit
  | ['0'] => .ok 0
  | '0' :: 'b' :: rest => orBad (Numeral.int? 2 rest)
  | '0' :: 'x' :: rest => orBad (Numeral.int? 16 rest)
  | '0' :: _ => orBad (Numeral.int? 8 cs)
  | _ =>
    if cs.contains ':' then
      orBad (((splitAt ':' cs).mapM (Numeral.int? 10)).map fun parts => sexagesimal parts.reverse)
    else orBad (Numeral.int? 10 cs)

def readInt (cs : List Char) : Reading Int := do
  let (negative, cs) ← signed cs
  let n ← magnitude cs
  return if negative then -n else n

/-- The sum of parts of sixty, the last part first, rounded at every step. -/
def sexagesimalFloat : (parts : List Binary64) → (base : Nat) → Binary64 → Reading Binary64
  | [], _, sum => .ok sum
  | part :: rest, base, sum =>
    match Binary64.ofInt? base with
    | some weight => sexagesimalFloat rest (base * 60) (sum.add (part.mul weight))
    | none => .error .tooLarge

def readFloat (cs : List Char) : Reading Binary64 := do
  let (negative, cs) ← signed (lowercase cs)
  let x ←
    if cs = ".inf".toList then pure (.infinite false)
    else if cs = ".nan".toList then pure .nan
    else if cs.contains ':' then do
      let parts ← orBad ((splitAt ':' cs).mapM Numeral.float?)
      sexagesimalFloat parts.reverse 1 (.zero false)
    else orBad (Numeral.float? cs)
  return if negative then x.neg else x

/-- Whether a text is the word for not a number, in any letter case and with any sign. -/
def isNanWord (text : CodePoints) : Bool :=
  match text.chars?.map fun cs => signed (lowercase cs) with
  | some (.ok (_, cs)) => cs = ".nan".toList
  | _ => false

/-- The truth value that a word stands for, in any letter case. -/
def readBool (cs : List Char) : Reading Bool :=
  let word := String.ofList (lowercase cs)
  if ["yes", "true", "on"].contains word then .ok true
  else if ["no", "false", "off"].contains word then .ok false
  else .error .unknownWord

/-! ## Bytes -/

def base64Value? (c : Char) : Option Nat :=
  if c.isUpper then some (c.toNat - 'A'.toNat)
  else if c.isLower then some (c.toNat - 'a'.toNat + 26)
  else if c.isDigit then some (c.toNat - '0'.toNat + 52)
  else if c = '+' then some 62
  else if c = '/' then some 63
  else none

/-- Decodes base 64, passing over foreign characters. `pending` holds the characters of
    the current group of four, and `pads` counts the padding after them. Padding that
    completes a group ends the reading. -/
def decodeBase64? : (pending : List Nat) → (pads : Nat) → List Char → Option (List UInt8)
  | [], _, [] => some []
  | _ :: _, _, [] => none
  | pending, pads, c :: rest =>
    if c = '=' then
      match pending with
      | [a, b] =>
        if pads = 1 then some (groupBytes a b none) else decodeBase64? pending (pads + 1) rest
      | [a, b, d] => some (groupBytes a b (some d))
      | _ => decodeBase64? pending pads rest
    else match base64Value? c, pending with
      | none, _ => decodeBase64? pending pads rest
      | some v, [a, b, d] =>
        (decodeBase64? [] 0 rest).map fun more =>
          groupBytes a b (some d) ++ [UInt8.ofNat (d % 4 * 64 + v)] ++ more
      | some v, pending => decodeBase64? (pending ++ [v]) 0 rest
where
  /-- The whole bytes of two or three characters. -/
  groupBytes (a b : Nat) : Option Nat → List UInt8
    | none => [UInt8.ofNat (a * 4 + b / 16)]
    | some d => [UInt8.ofNat (a * 4 + b / 16), UInt8.ofNat (b % 16 * 16 + d / 4)]

def readBinary (cs : List Char) : Except Flaw (List UInt8) :=
  if cs.all (fun c => c.toNat < 0x80) then
    match decodeBase64? [] 0 cs with
    | some bytes => .ok bytes
    | none => .error .malformed
  else .error .malformed

/-! ## Dates and moments -/

/-- Reads between `least` and `most` digits, as many as there are. -/
def someDigits? (least most : Nat) (cs : List Char) : Option (Nat × List Char) :=
  let digits := (cs.take most).takeWhile Char.isDigit
  if least ≤ digits.length then
    some (digits.foldl (fun n c => n * 10 + (c.toNat - '0'.toNat)) 0, cs.drop digits.length)
  else none

def expect? (c : Char) : List Char → Option (List Char)
  | d :: rest => if c = d then some rest else none
  | [] => none

/-- Whether nothing is left but a line feed. -/
def isDone (cs : List Char) : Bool :=
  cs = [] || cs = ['\n']

/-- Reads the gap between a date and a time of day. -/
def timeGap? (cs : List Char) : Option (List Char) :=
  match cs with
  | 'T' :: rest | 't' :: rest => some rest
  | _ =>
    let rest := cs.dropWhile fun c => c = ' ' || c = '\t'
    if rest.length < cs.length then some rest else none

def zone? (cs : List Char) : Option (Option Int) :=
  if isDone cs then some none
  else match cs.dropWhile fun c => c = ' ' || c = '\t' with
    | 'Z' :: rest => if isDone rest then some (some 0) else none
    | c :: rest => do
      guard (c = '+' || c = '-')
      let (hours, rest) ← someDigits? 1 2 rest
      let (minutes, rest) ← match rest with
        | ':' :: rest => someDigits? 2 2 rest
        | rest => some (0, rest)
      guard (isDone rest)
      let offset : Int := hours * 60 + minutes
      return some (if c = '-' then -offset else offset)
    | [] => none

/-- Reads a fraction in millionths; further digits are dropped. -/
def fraction (cs : List Char) : Nat × List Char :=
  match cs with
  | '.' :: rest =>
    let digits := rest.takeWhile Char.isDigit
    let six := (digits ++ List.replicate 6 '0').take 6
    (six.foldl (fun n c => n * 10 + (c.toNat - '0'.toNat)) 0, rest.drop digits.length)
  | _ => (0, cs)

/-- The parts of a timestamp. -/
structure TimestampParts where
  date : Nat × Nat × Nat
  time : Option (Nat × Nat × Nat × Nat × Option Int)

/-- Reads the parts of a timestamp, whatever their size. -/
def timestampParts? (cs : List Char) : Option TimestampParts := do
  let (year, cs) ← someDigits? 4 4 cs
  let (month, cs) ← someDigits? 1 2 (← expect? '-' cs)
  let (day, cs) ← someDigits? 1 2 (← expect? '-' cs)
  if isDone cs then return ⟨(year, month, day), none⟩
  else
    let (hour, cs) ← someDigits? 1 2 (← timeGap? cs)
    let (minute, cs) ← someDigits? 2 2 (← expect? ':' cs)
    let (second, cs) ← someDigits? 2 2 (← expect? ':' cs)
    let (micros, cs) := fraction cs
    let offset ← zone? cs
    return ⟨(year, month, day), some (hour, minute, second, micros, offset)⟩

def readTimestamp (cs : List Char) : Reading Scalar := do
  match timestampParts? cs with
  | none => .error .noTimestamp
  | some ⟨(year, month, day), time⟩ =>
    let date := Date.ofParts? year month day
    match time with
    | none => return .date (← orBad date)
    | some (hour, minute, second, micros, offset) =>
      return .moment (← orBad (date.bind fun d => Moment.ofParts? d hour minute second micros offset))

/-! ## All scalars -/

/-- A reading as part of the loading of a document. -/
def ofReading {α : Type} (reading : Reading α) : Except Flaw α :=
  reading.mapError .mismatch

/-- The value of a scalar of a tag that is for scalars. A text with halves is nothing but a text. -/
def readScalar (tag : Tag) (text : CodePoints) : Except Flaw Scalar :=
  match tag, text.chars? with
  | .null, _ => .ok .null
  | .str, _ => .ok (.text text)
  | .bool, some cs => .bool <$> ofReading (readBool cs)
  | .int, some cs => .int <$> ofReading (readInt cs)
  | .float, some cs => .float <$> ofReading (readFloat cs)
  | .binary, some cs => .bytes <$> readBinary cs
  | .timestamp, some cs => ofReading (readTimestamp cs)
  | .bool, none => .error (.mismatch .unknownWord)
  | .int, none | .float, none => .error (.mismatch .badValue)
  | .timestamp, none => .error (.mismatch .noTimestamp)
  | _, _ => .error .malformed

end BezelStream.Yaml
