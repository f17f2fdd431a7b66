import BezelStream.Number.Numeral
import BezelStream.Value

/-! # Reading a value as a number

`Value.toFloat` and `Value.toInt` accept numbers, truth values and texts that
write a number. `Mismatch` lists the reasons why a value does not fit where it
stands; scalar readers elsewhere use the same reasons.
-/

namespace BezelStream

/-- Why a value does not fit where it stands. -/
inductive Mismatch where
  /-- A value of the right kind that is none of the admissible ones. -/
  | badValue
  | wrongKind
  | tooLarge
  | unknownWord
  | noDigit
  | noTimestamp
  | undecodable
  | tooDeep
  deriving Repr, DecidableEq

namespace Value

def toFloat : Value → Except Mismatch Binary64
  | .scalar (.bool b) => .ok (.ofNat b.toNat)
  | .scalar (.int i) =>
    match Binary64.ofInt? i with
    | some x => .ok x
    | none => .error .tooLarge
  | .scalar (.float x) => .ok x
  | .scalar (.text t) =>
    match t.chars?.bind Numeral.float? with
    | some x => .ok x
    | none => .error .badValue
  | _ => .error .wrongKind

/-- The value as an integer; the fraction of a number is dropped. -/
def toInt : Value → Except Mismatch Int
  | .scalar (.bool b) => .ok b.toNat
  | .scalar (.int i) => .ok i
  | .scalar (.float .nan) => .error .badValue
  | .scalar (.float x) =>
    match x.truncate? with
    | some i => .ok i
    | none => .error .tooLarge
  | .scalar (.text t) =>
    match t.chars?.bind (Numeral.int? 10) with
    | some i => .ok i
    | none => .error .badValue
  | _ => .error .wrongKind

end Value

end BezelStream
