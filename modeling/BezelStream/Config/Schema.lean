import BezelStream.Value.Printer

/-! # The schema of configuration documents

A schema is a list of fields with what is asked of each. `Schema.violation?` finds
the first violation of a value: it must be a mapping, keys that are no fields come
before the fields, and the fields are tried in the order of the schema.
-/

namespace BezelStream

namespace Schema

/-- A kind of value. -/
inductive Kind where
  | text
  | bool
  /-- Numbers, among which truth values do not count. -/
  | number
  deriving Repr, DecidableEq

/-- What is asked of a value. -/
inductive Demand where
  | kind (kinds : List Kind)
  /-- A text has at least so many code points; other values pass. -/
  | atLeast (length : Nat)
  /-- A number is greater than zero; other values pass, and so does not-a-number. -/
  | positive
  | oneOf (choices : List String)
  deriving Repr, DecidableEq

namespace Kind

def name : Kind → String
  | .text => "string"
  | .bool => "boolean"
  | .number => "number"

def admits : Kind → Value → Bool
  | .text, .scalar (.text _) => true
  | .bool, .scalar (.bool _) => true
  | .number, .scalar (.int _) => true
  | .number, .scalar (.float _) => true
  | _, _ => false

end Kind

namespace Demand

def isMet : Demand → Value → Bool
  | .kind kinds, v => kinds.any (·.admits v)
  | .atLeast length, .scalar (.text t) => length ≤ t.length
  | .positive, .scalar (.int i) => 0 < i
  | .positive, .scalar (.float x) => !x.isAtMostZero
  | .oneOf choices, .scalar (.text t) => (choices.map CodePoints.ofString).contains t
  | .oneOf _, _ => false
  | _, _ => true

/-- What is said of a value that does not meet the demand. -/
def complaint : Demand → Value → String
  | .kind kinds, v =>
    v.shown ++ " is not of type " ++ ", ".intercalate (kinds.map fun k => Text.quoted k.name)
  | .atLeast length, v =>
    v.shown ++ (if length = 1 then " should be non-empty" else " is too short")
  | .positive, v => v.shown ++ " is less than or equal to the minimum of 0"
  | .oneOf choices, v =>
    let admissible := choices.map fun choice : String => Value.scalar (.text choice)
    v.shown ++ " is not one of " ++ (Value.list admissible).shown

end Demand

/-- What is wrong with a document. -/
inductive Violation where
  | notMapping (value : Value)
  | surplus (keys : List Scalar)
  /-- The value of a field does not meet a demand. -/
  | unmet (field : String) (demand : Demand) (value : Value)
  deriving Repr

namespace Violation

/-- The field that a violation is about, if it is about one. -/
def field? : Violation → Option String
  | .notMapping _ | .surplus _ => none
  | .unmet field _ _ => some field

/-- The text of a violation. Surplus keys are listed in the order of their texts. -/
def message : Violation → String
  | .notMapping value => value.shown ++ " is not of type 'object'"
  | .surplus keys =>
    let sorted := keys.mergeSort fun a b => a.written.le b.written
    "Additional properties are not allowed (" ++ ", ".intercalate (sorted.map Scalar.shown) ++
      (if keys.length = 1 then " was" else " were") ++ " unexpected)"
  | .unmet _ demand value => demand.complaint value

/-- The values that the text of a violation shows, keys apart. -/
def values : Violation → List Value
  | .notMapping value | .unmet _ _ value => [value]
  | .surplus _ => []

/-- Whether everything that the text of a violation shows can be written. -/
def isWritable : Violation → Bool
  | .notMapping value | .unmet _ _ value => value.isWritable
  | .surplus keys => keys.all Scalar.isWritable

end Violation

end Schema

/-- The fields of documents, each with what is asked of its value. -/
structure Schema where
  fields : List (String × List Schema.Demand)
  deriving Repr, DecidableEq

namespace Schema

/-- The first demand of a field that its value in the document does not meet. -/
def fieldViolation? (doc : Document) (field : String) (demands : List Demand) :
    Option Violation :=
  match Value.lookup? (.text field) doc with
  | some value => (demands.find? fun d => !d.isMet value).map (.unmet field · value)
  | none => none

def surplusKeys (schema : Schema) (doc : Document) : List Scalar :=
  (doc.map Prod.fst).filter fun key => !schema.fields.any fun (field, _) => key = .text field

def documentViolation? (schema : Schema) (doc : Document) : Option Violation :=
  match schema.surplusKeys doc with
  | [] => schema.fields.findSome? fun (field, demands) => fieldViolation? doc field demands
  | keys => some (.surplus keys)

/-- The first violation of a value that ought to be a document. -/
def violation? (schema : Schema) : Value → Option Violation
  | .map doc => schema.documentViolation? doc
  | value => some (.notMapping value)

end Schema

end BezelStream
