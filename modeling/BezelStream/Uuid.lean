import BezelStream.Fault
import BezelStream.Text.Blank
import BezelStream.Text.Split

/-! # Identifiers of characteristics

An identifier is written with four or eight hexadecimal digits, or with thirty-two
in five groups. `normalizeUuid` trims a text, puts it into lower case, and accepts
exactly these forms.
-/

namespace BezelStream

open Text

def isLowerHexDigit (c : Char) : Bool :=
  c.isDigit || ('a' ≤ c && c ≤ 'f')

/-- The lengths of the groups of digits in the three forms. -/
def uuidForms : List (List Nat) :=
  [[4], [8], [8, 4, 4, 4, 12]]

def isUuid (cs : List Char) : Bool :=
  let groups := splitAt '-' cs
  groups.all (·.all isLowerHexDigit) && uuidForms.contains (groups.map List.length)

/-- The identifier that a setting writes. The context names the setting. -/
def normalizeUuid (context value : String) : Except Fault String :=
  let cs := lowercase (trim value.toList)
  if isUuid cs then .ok (String.ofList cs) else .error (.notUuid context)

end BezelStream
