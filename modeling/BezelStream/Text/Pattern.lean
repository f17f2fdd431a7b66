/-! # Patterns

A pattern denotes a set of texts. `Pattern.accepts` decides membership by
derivatives: the derivative of a pattern by a character denotes the rests of its
texts that begin with that character. Sequences and choices are built through
`sequence` and `choice`, which drop parts that cannot match, so that derivatives
stay small.
-/

namespace BezelStream.Text

/-- A set of texts, described by its shape. -/
inductive Pattern where
  | never
  | empty
  | oneOf (ranges : List (Char × Char))
  | seq (first second : Pattern)
  | alt (left right : Pattern)
  | star (body : Pattern)
  deriving Repr, DecidableEq

namespace Pattern

/-- A sequence, simplified when one part is `never` or `empty`. -/
def sequence : Pattern → Pattern → Pattern
  | .never, _ => .never
  | _, .never => .never
  | .empty, q => q
  | p, .empty => p
  | p, q => .seq p q

/-- A choice, simplified when one part is `never` or both are the same. -/
def choice (p q : Pattern) : Pattern :=
  if p = .never then q else if q = .never then p else if p = q then p else .alt p q

def nullable : Pattern → Bool
  | .never => false
  | .empty => true
  | .oneOf _ => false
  | .seq p q => p.nullable && q.nullable
  | .alt p q => p.nullable || q.nullable
  | .star _ => true

/-- Denotes the rests of the pattern's texts that begin with `c`. -/
def derivative (c : Char) : Pattern → Pattern
  | .never => .never
  | .empty => .never
  | .oneOf ranges => if ranges.any (fun (a, b) => a ≤ c && c ≤ b) then .empty else .never
  | .seq p q =>
    if p.nullable then choice (sequence (p.derivative c) q) (q.derivative c)
    else sequence (p.derivative c) q
  | .alt p q => choice (p.derivative c) (q.derivative c)
  | .star p => sequence (p.derivative c) (.star p)

def accepts (p : Pattern) : List Char → Bool
  | [] => p.nullable
  | c :: rest => (p.derivative c).accepts rest

def word (s : String) : Pattern :=
  s.toList.foldr (fun c p => sequence (.oneOf [(c, c)]) p) .empty

def words (ws : List String) : Pattern :=
  ws.foldr (fun w p => choice (word w) p) .never

def anyOf (s : String) : Pattern :=
  .oneOf (s.toList.map fun c => (c, c))

def all (ps : List Pattern) : Pattern :=
  ps.foldr sequence .empty

def oneOfAll (ps : List Pattern) : Pattern :=
  ps.foldr choice .never

def optional (p : Pattern) : Pattern :=
  choice p .empty

def plus (p : Pattern) : Pattern :=
  sequence p (.star p)

def digit : Pattern :=
  .oneOf [('0', '9')]

def times (n : Nat) (p : Pattern) : Pattern :=
  all (List.replicate n p)

end Pattern

end BezelStream.Text
