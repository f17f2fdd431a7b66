import BezelStream.Text.Lowercase.Runs

/-! # Lower case

`lowercase` replaces each character by its lower-case form. Two rules go beyond
a table of partners: a capital I with a dot becomes two characters, and a capital
sigma takes its final form at the end of a word.
-/

namespace BezelStream.Text

/-- Whether the character lies in one of the runs of code points. -/
def inRanges (ranges : List (Nat × Nat)) (c : Char) : Bool :=
  ranges.any fun (first, last) => first ≤ c.toNat && c.toNat ≤ last

def isCased (c : Char) : Bool :=
  if c.toNat < 0x80 then c.isAlpha else inRanges casedRanges c

/-- Whether the character is passed over when case is looked for. -/
def isCaseIgnorable (c : Char) : Bool :=
  inRanges caseIgnorableRanges c

/-- The single lower-case partner of a character, the character itself if it has none. -/
def lowercaseChar (c : Char) : Char :=
  if c.toNat < 0x80 then c.toLower else
    match lowercaseRuns.find? (fun (first, last, step, _) =>
        first ≤ c.toNat && c.toNat ≤ last && (c.toNat - first) % step == 0) with
    | some (_, _, _, shift) => Char.ofNat ((c.toNat : Int) + shift).toNat
    | none => c

/-- Whether the nearest character that is not ignorable carries case. -/
def meetsCase (cs : List Char) : Bool :=
  match cs.dropWhile isCaseIgnorable with
  | [] => false
  | c :: _ => isCased c

/-- Lower case of a text, given the characters `before` it, nearest first. -/
def lowercaseFrom : (before : List Char) → List Char → List Char
  | _, [] => []
  | before, c :: rest =>
    let here :=
      if c = 'Σ' then [if meetsCase before && !meetsCase rest then 'ς' else 'σ']
      else if c = 'İ' then ['i', '\u0307']
      else [lowercaseChar c]
    here ++ lowercaseFrom (c :: before) rest

def lowercase (cs : List Char) : List Char :=
  lowercaseFrom [] cs

def lowercased (s : String) : String :=
  String.ofList (lowercase s.toList)

def asciiUpper (s : String) : String :=
  String.ofList (s.toList.map Char.toUpper)

end BezelStream.Text
