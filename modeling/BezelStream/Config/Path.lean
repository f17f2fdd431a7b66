import BezelStream.Text.Split

/-! # Paths

A path is a root, which is empty for relative paths, and its parts. Empty parts and
single dots vanish when a path is read; double dots stay. A root of exactly two
slashes is kept apart from that of one.
-/

namespace BezelStream

/-- A path in normal form. -/
structure Path where
  /-- Nothing, one slash or two. -/
  root : String
  parts : List String
  deriving Repr, DecidableEq

namespace Path

def ofText (text : String) : Path :=
  let cs := text.toList
  let slashes := (cs.takeWhile (· = '/')).length
  let root := if slashes = 0 then "" else if slashes = 2 then "//" else "/"
  let names := (Text.splitAt '/' cs).map String.ofList
  ⟨root, names.filter fun name => name ≠ "" ∧ name ≠ "."⟩

def text (p : Path) : String :=
  if p.root = "" ∧ p.parts = [] then "." else p.root ++ "/".intercalate p.parts

def child (p : Path) (name : String) : Path :=
  { p with parts := p.parts ++ [name] }

end Path

end BezelStream
