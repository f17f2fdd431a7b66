import BezelStream.Text.CodePoint
import BezelStream.Text.Pattern

/-! # Tags

A tag says what a node is. Nodes without one get it from their kind, and plain
scalars from their look: `resolve` tries the rules of the language in order.
The rule for truth values is not in use here, so that words such as `yes` or
`off` remain texts; `languageRules` has it all the same, and `rules` leaves it out.
-/

namespace BezelStream.Yaml

open Text

/-- What a node is. -/
inductive Tag where
  | null
  | bool
  | int
  | float
  | binary
  | timestamp
  /-- A list of pairs with the keys in order. -/
  | omap
  | pairs
  | set
  | str
  | seq
  | map
  /-- The key under which a mapping takes over other mappings. -/
  | merge
  /-- The key of the value that stands for the whole mapping. -/
  | value
  /-- A tag without a meaning here. -/
  | unknown
  deriving Repr, DecidableEq, Inhabited

namespace Tag

def names : List (String × Tag) := [
  ("null", .null), ("bool", .bool), ("int", .int), ("float", .float), ("binary", .binary),
  ("timestamp", .timestamp), ("omap", .omap), ("pairs", .pairs), ("set", .set), ("str", .str),
  ("seq", .seq), ("map", .map), ("merge", .merge), ("value", .value)]

def ofText (text : String) : Tag :=
  ((names.map fun (name, tag) => ("tag:yaml.org,2002:" ++ name, tag)).lookup text).getD .unknown

end Tag

/-! ## Looks of plain scalars -/

namespace Look

open Pattern

def loose : Pattern :=
  .oneOf [('0', '9'), ('_', '_')]

def sign : Pattern :=
  optional (anyOf "-+")

/-- Parts of sixty, each after a colon. -/
def sixtieths : Pattern :=
  plus (all [word ":", optional (.oneOf [('0', '5')]), digit])

/-- The words that are truth values by the rules of the language. -/
def truthWords : List String :=
  ["yes", "Yes", "YES", "no", "No", "NO", "true", "True", "TRUE", "false", "False", "FALSE",
    "on", "On", "ON", "off", "Off", "OFF"]

def bool : Pattern :=
  words truthWords

def exponent : Pattern :=
  optional (all [anyOf "eE", anyOf "-+", plus digit])

/-- A number with a point, an infinity or not a number. -/
def float : Pattern :=
  oneOfAll [
    all [sign, digit, .star loose, word ".", .star loose, exponent],
    all [word ".", digit, .star loose, exponent],
    all [sign, digit, .star loose, sixtieths, word ".", .star loose],
    all [sign, word ".", words ["inf", "Inf", "INF"]],
    all [word ".", words ["nan", "NaN", "NAN"]]]

def int : Pattern :=
  sequence sign (oneOfAll [
    sequence (word "0b") (plus (anyOf "01_")),
    sequence (word "0") (plus (.oneOf [('0', '7'), ('_', '_')])),
    choice (word "0") (sequence (.oneOf [('1', '9')]) (.star loose)),
    sequence (word "0x") (plus (.oneOf [('0', '9'), ('a', 'f'), ('A', 'F'), ('_', '_')])),
    all [.oneOf [('1', '9')], .star loose, sixtieths]])

def merge : Pattern :=
  word "<<"

/-- Absence, which may be spelled by nothing at all. -/
def null : Pattern :=
  words ["~", "null", "Null", "NULL", ""]

def oneOrTwo : Pattern :=
  sequence digit (optional digit)

/-- A date of fixed width, or a date with a time of day. -/
def timestamp : Pattern :=
  let gap := anyOf " \t"
  let zone := sequence (.star gap)
    (choice (word "Z") (all [anyOf "-+", oneOrTwo, optional (sequence (word ":") (times 2 digit))]))
  oneOfAll [
    all [times 4 digit, word "-", times 2 digit, word "-", times 2 digit],
    all [times 4 digit, word "-", oneOrTwo, word "-", oneOrTwo, choice (anyOf "Tt") (plus gap),
      oneOrTwo, word ":", times 2 digit, word ":", times 2 digit,
      optional (sequence (word ".") (.star digit)), optional zone]]

/-- The key of the value that stands for its mapping. -/
def value : Pattern :=
  word "="

end Look

/-- The rules of the language for plain scalars, in the order in which they are tried. -/
def languageRules : List (Tag × Pattern) := [
  (.bool, Look.bool), (.float, Look.float), (.int, Look.int), (.merge, Look.merge),
  (.null, Look.null), (.timestamp, Look.timestamp), (.value, Look.value)]

/-- The rules in use: those of the language without the one for truth values. -/
def rules : List (Tag × Pattern) :=
  languageRules.filter fun (tag, _) => tag != .bool

/-- The part of a plain scalar that its look is told from: a line feed at the end of
    a text does not count. -/
def visiblePart (cs : List Char) : List Char :=
  if cs.getLast? = some '\n' ∧ 1 < cs.length then cs.dropLast else cs

/-- The tag of a plain scalar by given rules: of the first rule whose pattern it has,
    and otherwise that of a text. -/
def resolveBy (rules : List (Tag × Pattern)) (text : String) : Tag :=
  let cs := visiblePart text.toList
  match rules.find? fun (_, look) => look.accepts cs with
  | some (tag, _) => tag
  | none => .str

def resolve (text : String) : Tag :=
  resolveBy rules text

/-- The tag of a plain scalar. No rule is for texts with halves. -/
def tagByLook (t : CodePoints) : Tag :=
  match t.string? with
  | some text => resolve text
  | none => .str

end BezelStream.Yaml
