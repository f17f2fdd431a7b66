import BezelStream.Number.Numeral
import BezelStream.Number.Shortest
import BezelStream.Text.Quoted
import BezelStream.Value

/-! # Values in messages

`Value.written` gives a text as it is and everything else in full; `Value.shown`
shows texts between quotes too, and dates in their long form. A container inside
itself is shown by three dots. An integer has no more digits in a message than in
a text that it is read from; `isWritable` says whether a value can be shown at all.
-/

namespace BezelStream

open Text

namespace Scalar

/-- A scalar with quotes around texts, and dates in their long form. -/
def shown : Scalar → String
  | .null => "None"
  | .bool b => if b then "True" else "False"
  | .int i => toString i
  | .float x => x.text
  | .text t => quoted t
  | .bytes bs => quotedBytes bs
  | .date d => d.longText
  | .moment t => t.longText

/-- A scalar as it stands on its own in a message. -/
def written : Scalar → CodePoints
  | .text t => t
  | .date d => d.text
  | .moment t => t.text " "
  | s => s.shown

def isWritable : Scalar → Bool
  | .int i => i.natAbs < tenTo Numeral.mostDigits
  | _ => true

end Scalar

namespace Value

mutual

def shown : Value → String
  | .scalar s => s.shown
  | .list items => "[" ++ ", ".intercalate (itemsShown items) ++ "]"
  | .map entries => "\x7b" ++ ", ".intercalate (entriesShown entries) ++ "\x7d"
  | .set members =>
    if members.isEmpty then "set()"
    else "\x7b" ++ ", ".intercalate (members.map Scalar.shown) ++ "\x7d"
  | .pair a b => "(" ++ shown a ++ ", " ++ shown b ++ ")"
  | .again .list => "[...]"
  | .again .map => "\x7b...\x7d"

def itemsShown : List Value → List String
  | [] => []
  | v :: rest => shown v :: itemsShown rest

def entriesShown : List (Scalar × Value) → List String
  | [] => []
  | (k, v) :: rest => (k.shown ++ ": " ++ shown v) :: entriesShown rest

end

/-- A value as it stands on its own in a message. -/
def written : Value → CodePoints
  | .scalar s => s.written
  | v => v.shown

mutual

/-- Whether every scalar in a value can be put into a message. -/
def isWritable : Value → Bool
  | .scalar s => s.isWritable
  | .list items => itemsWritable items
  | .map entries => entriesWritable entries
  | .set members => members.all Scalar.isWritable
  | .pair a b => isWritable a && isWritable b
  | .again _ => true

def itemsWritable : List Value → Bool
  | [] => true
  | v :: rest => isWritable v && itemsWritable rest

def entriesWritable : List (Scalar × Value) → Bool
  | [] => true
  | (k, v) :: rest => k.isWritable && isWritable v && entriesWritable rest

end

end Value

end BezelStream
