import BezelStream.Text.Digits

/-! # Code points

The texts of documents are lists of code points. Most code points are characters. The others are
halves: a character may be written as two of them elsewhere, but here an escape spells each, and
two that stand side by side stay two.
-/

namespace BezelStream

/-- A character, or a half, counted from the first half of all. -/
inductive CodePoint where
  | char (c : Char)
  | half (i : Fin 0x800)
  deriving Repr, DecidableEq

namespace CodePoint

/-- The code point of a number below `0x110000`. -/
def ofNat (n : Nat) : CodePoint :=
  if n.isValidChar then .char (Char.ofNat n) else .half (Fin.ofNat 0x800 (n - 0xD800))

def toNat : CodePoint → Nat
  | .char c => c.toNat
  | .half i => 0xD800 + i

def char? : CodePoint → Option Char
  | .char c => some c
  | .half _ => none

/-- The characters that show a code point where halves cannot be written. -/
def written : CodePoint → List Char
  | .char c => [c]
  | .half i => '\\' :: 'u' :: Text.hexDigits 4 (0xD800 + i)

end CodePoint

/-- A text as its code points. -/
abbrev CodePoints := List CodePoint

namespace CodePoints

def ofChars (cs : List Char) : CodePoints :=
  cs.map .char

def ofString (s : String) : CodePoints :=
  ofChars s.toList

instance : Coe String CodePoints := ⟨ofString⟩

/-- The characters of a text without halves. -/
def chars? : CodePoints → Option (List Char)
  | [] => some []
  | .char c :: rest => (chars? rest).map (c :: ·)
  | .half _ :: _ => none

def string? (t : CodePoints) : Option String :=
  t.chars?.map String.ofList

/-- The text as the output for errors shows it. -/
def printed (t : CodePoints) : String :=
  String.ofList (t.flatMap CodePoint.written)

/-- Whether the first text comes before the second in the order of code points, or is the same. -/
def le : CodePoints → CodePoints → Bool
  | [], _ => true
  | _ :: _, [] => false
  | p :: s, q :: t => p.toNat < q.toNat || p.toNat = q.toNat && le s t

end CodePoints

end BezelStream
