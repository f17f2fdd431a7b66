import BezelStream.Number.Power

/-! # Double-precision numbers

A `Binary64` is a sign, a natural significand and a power of two, or one of the
special values. `round` takes an exact ratio to the nearest such number, a tie
to the even significand, and everything that produces one goes through it, so
that the finite values are in lowest form: the significand lies below `2 ^ 53`,
and below `2 ^ 52` only at the least exponent.
-/

namespace BezelStream

/-- A number of the IEEE 754 format `binary64`. -/
inductive Binary64 where
  | nan
  | infinite (negative : Bool)
  /-- The number `± significand * 2 ^ exponent`. -/
  | finite (negative : Bool) (significand : Nat) (exponent : Int)
  deriving Repr, DecidableEq, Inhabited

namespace Binary64

def leastExponent : Int := -1074

def zero (negative : Bool) : Binary64 :=
  .finite negative 0 leastExponent

/-- The ratio `num / den` over `2 ^ exponent`, as a numerator and a denominator. -/
def shifted (num den : Nat) (exponent : Int) : Nat × Nat :=
  if exponent < 0 then (num * twoTo (-exponent).toNat, den) else (num, den * twoTo exponent.toNat)

/-- The ratio `num / (den * 2 ^ exponent)`, rounded to a natural number, a tie to even. -/
def scaled (num den : Nat) (exponent : Int) : Nat :=
  let (num, den) := shifted num den exponent
  let quotient := num / den
  let twice := 2 * (num % den)
  if twice < den then quotient
  else if twice = den then quotient + quotient % 2
  else quotient + 1

def bound : Nat := twoTo 53

/-- The number for `significand * 2 ^ exponent`, where the significand is at most
    the bound: infinity where the exponent exceeds the format. -/
def packed (negative : Bool) (significand : Nat) (exponent : Int) : Binary64 :=
  let (significand, exponent) :=
    if significand = bound then (bound / 2, exponent + 1) else (significand, exponent)
  if significand = 0 then zero negative
  else if 971 < exponent then .infinite negative
  else .finite negative significand exponent

/-- The number nearest to `± num / den`; a tie goes to the even significand. The
    denominator is positive. -/
def round (negative : Bool) (num den : Nat) : Binary64 :=
  if num = 0 then zero negative else
    let estimate : Int := (num.log2 : Int) - den.log2 - 52
    let (n, d) := shifted num den estimate
    let exponent := if n / d < bound / 2 then estimate - 1 else estimate
    let exponent := max exponent leastExponent
    packed negative (scaled num den exponent) exponent

/-- The number nearest to `± digits * 10 ^ exponent`. Far outside the range of the
    format the size of the exponent alone decides. -/
def ofDecimal (negative : Bool) (digits : Nat) (exponent : Int) : Binary64 :=
  let magnitude : Int := (toString digits).length + exponent
  if digits = 0 || magnitude < -400 then zero negative
  else if 400 < magnitude then .infinite negative
  else if exponent < 0 then round negative digits (tenTo (-exponent).toNat)
  else round negative (digits * tenTo exponent.toNat) 1

/-- The number nearest to an integer, `none` where that is infinite. -/
def ofInt? (i : Int) : Option Binary64 :=
  match round (i < 0) i.natAbs 1 with
  | .infinite _ => none
  | x => some x

def ofNat (n : Nat) : Binary64 :=
  round false n 1

def neg : Binary64 → Binary64
  | .nan => .nan
  | .infinite negative => .infinite !negative
  | .finite negative m e => .finite (!negative) m e

/-- The exact value of a finite number as a numerator over a power of two. -/
def ratio (negative : Bool) (m : Nat) (e : Int) : Int × Nat :=
  let signed : Int := if negative then -(m : Int) else m
  if e < 0 then (signed, twoTo (-e).toNat) else (signed * (twoTo e.toNat : Nat), 1)

def add : Binary64 → Binary64 → Binary64
  | .nan, _ => .nan
  | _, .nan => .nan
  | .infinite a, .infinite b => if a = b then .infinite a else .nan
  | .infinite a, _ => .infinite a
  | _, .infinite b => .infinite b
  | .finite na ma ea, .finite nb mb eb =>
    let (p, q) := ratio na ma ea
    let (r, s) := ratio nb mb eb
    let sum := p * s + r * q
    if sum = 0 then zero (na && nb) else round (sum < 0) sum.natAbs (q * s)

def mul : Binary64 → Binary64 → Binary64
  | .nan, _ => .nan
  | _, .nan => .nan
  | .infinite a, .infinite b => .infinite (a != b)
  | .infinite a, .finite b m _ => if m = 0 then .nan else .infinite (a != b)
  | .finite b m _, .infinite a => if m = 0 then .nan else .infinite (a != b)
  | .finite na ma ea, .finite nb mb eb =>
    let (p, q) := ratio na ma ea
    let (r, s) := ratio nb mb eb
    round (na != nb) (p * r).natAbs (q * s)

def isZero : Binary64 → Bool
  | .finite _ m _ => m = 0
  | _ => false

/-- Whether the number is less than or equal to zero. Not a number is neither. -/
def isAtMostZero : Binary64 → Bool
  | .nan => false
  | .infinite negative => negative
  | .finite negative m _ => negative || m = 0

/-- Whether the number is greater than zero. Not a number is neither. -/
def isPositive : Binary64 → Bool
  | .nan => false
  | .infinite negative => !negative
  | .finite negative m _ => !negative && m != 0

def below : Binary64 → Binary64 → Bool
  | .nan, _ => false
  | _, .nan => false
  | .infinite a, .infinite b => a && !b
  | .infinite a, .finite .. => a
  | .finite .., .infinite b => !b
  | .finite na ma ea, .finite nb mb eb =>
    let (p, q) := ratio na ma ea
    let (r, s) := ratio nb mb eb
    p * s < r * q

def isInt (x : Binary64) (i : Int) : Bool :=
  match x with
  | .finite negative m e => let (p, q) := ratio negative m e; p == i * q
  | _ => false

/-- The whole part of a finite number, the fraction dropped. -/
def truncate? : Binary64 → Option Int
  | .finite negative m e => let (p, q) := ratio negative m e; some (p.tdiv q)
  | _ => none

/-- Equality of numbers: both zeros are equal, and not a number equals nothing. -/
def same : Binary64 → Binary64 → Bool
  | .nan, _ => false
  | _, .nan => false
  | x, y => x = y || (x.isZero && y.isZero)

def bits : Binary64 → Nat
  | .nan => 0x7FF8000000000000
  | .infinite negative => (if negative then twoTo 63 else 0) + 0x7FF0000000000000
  | .finite negative m e =>
    (if negative then twoTo 63 else 0) +
      (if m < twoTo 52 then m else (e + 1075).toNat * twoTo 52 + (m - twoTo 52))

end Binary64

end BezelStream
