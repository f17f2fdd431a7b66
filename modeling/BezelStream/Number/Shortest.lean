import BezelStream.Number.Binary64

/-! # The shortest decimal of a double-precision number

`shortest` finds the fewest digits that read back as the number, and of those
the digits nearest to it. `text` writes them: positional from a ten-thousandth up
to below `10 ^ 16`, with an exponent of at least two digits elsewhere, and always
with a fraction or an exponent.
-/

namespace BezelStream.Binary64

/-- Digits and a power of ten: `digits * 10 ^ exponent`. -/
structure Decimal where
  digits : Nat
  /-- The power of ten of the last digit. -/
  exponent : Int
  deriving Repr, DecidableEq

/-- The whole part of `num / den / 10 ^ exponent`, and whether nothing is left over,
    with twice the rest compared with the divisor. -/
def gridBelow (num den : Nat) (exponent : Int) : Nat × Ordering :=
  let (num, den) :=
    if exponent < 0 then (num * tenTo (-exponent).toNat, den)
    else (num, den * tenTo exponent.toNat)
  (num / den, compare (2 * (num % den)) den)

/-- The decimal of the grid `10 ^ exponent` that reads back as the number, the nearer
    one of its two neighbours if both do and the even one of two equally near. -/
def onGrid? (m : Nat) (e : Int) (exponent : Int) : Option Decimal :=
  let x : Binary64 := .finite false m e
  let (p, q) := ratio false m e
  let (low, half) := gridBelow p.natAbs q exponent
  let lowFirst := match half with
    | .lt => true
    | .eq => low % 2 = 0
    | .gt => false
  let candidates := if lowFirst then [low, low + 1] else [low + 1, low]
  (candidates.find? fun d => ofDecimal false d exponent = x).map (⟨·, exponent⟩)

/-- The power of ten of the leading digit of the positive number `m * 2 ^ e`. -/
def leadingPower (m : Nat) (e : Int) : Int :=
  let (p, q) := ratio false m e
  let whole := p.natAbs / q
  if whole = 0 then
    -- the inverse, rounded up, lies above the next lower power of ten
    let inverse := (q + p.natAbs - 1) / p.natAbs
    let digits := (toString inverse).length
    if q ≤ p.natAbs * tenTo (digits - 1) then -((digits : Int) - 1) else -(digits : Int)
  else ((toString whole).length : Int) - 1

/-- The first grid, from one digit on, that has the number; seventeen digits always do. -/
def shortestFrom (m : Nat) (e : Int) (power : Int) : (fuel count : Nat) → Decimal
  | 0, _ => ⟨0, 0⟩
  | fuel + 1, count =>
    match onGrid? m e (power - count) with
    | some d => d
    | none => shortestFrom m e power fuel (count + 1)

/-- The shortest decimal of the positive number `m * 2 ^ e`. -/
def shortest (m : Nat) (e : Int) : Decimal :=
  shortestFrom m e (leadingPower m e) 18 0

/-- Digits with the zeros at the end moved into the exponent. -/
def Decimal.stripped (d : Decimal) : (fuel : Nat) → Decimal
  | 0 => d
  | fuel + 1 =>
    if d.digits ≠ 0 ∧ d.digits % 10 = 0 then Decimal.stripped ⟨d.digits / 10, d.exponent + 1⟩ fuel
    else d

def Decimal.text (d : Decimal) : String :=
  let d := d.stripped 20
  let cs := (toString d.digits).toList
  let count : Int := cs.length
  -- the power of ten of the leading digit
  let power := d.exponent + count - 1
  if power < -4 || 16 ≤ power then
    let fraction := cs.drop 1
    let mantissa := cs.take 1 ++ (if fraction.isEmpty then [] else '.' :: fraction)
    let size := toString power.natAbs
    String.ofList mantissa ++ "e" ++ (if power < 0 then "-" else "+") ++
      (if size.length < 2 then "0" else "") ++ size
  else if power < 0 then
    "0." ++ String.ofList (List.replicate (-power - 1).toNat '0' ++ cs)
  else
    let whole := (power + 1).toNat
    let padded := cs ++ List.replicate (whole - cs.length) '0'
    let fraction := padded.drop whole
    String.ofList (padded.take whole) ++ "." ++
      (if fraction.isEmpty then "0" else String.ofList fraction)

def text : Binary64 → String
  | .nan => "nan"
  | .infinite negative => if negative then "-inf" else "inf"
  | .finite negative m e =>
    (if negative then "-" else "") ++ (if m = 0 then "0.0" else (shortest m e).text)

end BezelStream.Binary64
