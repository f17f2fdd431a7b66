import BezelStream.Number.Binary64
import BezelStream.Text.CodePoint
import BezelStream.Value.Calendar

/-! # Dynamic values

The values that documents hold. Keys of mappings and members of sets are
scalars, because nothing else can be looked up. `Scalar.same` is the equality by
which keys clash: numbers are compared by what they measure, whatever their kind.
-/

namespace BezelStream

/-- A value without parts. -/
inductive Scalar where
  | null
  | bool (b : Bool)
  | int (i : Int)
  | float (x : Binary64)
  | text (t : CodePoints)
  | bytes (bs : List UInt8)
  | date (d : Date)
  | moment (t : Moment)
  deriving Repr, DecidableEq, Inhabited

/-- The containers that can hold themselves. -/
inductive Container where
  | list
  | map
  deriving Repr, DecidableEq

/-- A value of a document. -/
inductive Value where
  | scalar (s : Scalar)
  | list (items : List Value)
  /-- A mapping, its entries in document order. -/
  | map (entries : List (Scalar × Value))
  /-- A set, its members in document order. -/
  | set (members : List Scalar)
  | pair (first second : Value)
  | again (container : Container)
  deriving Repr, Inhabited

/-- The entries of a mapping, in document order. -/
abbrev Document := List (Scalar × Value)

namespace Scalar

/-- The integer that a number stands for exactly when it is of an integer kind. -/
def asInt? : Scalar → Option Int
  | .bool b => some (if b then 1 else 0)
  | .int i => some i
  | _ => none

/-- Whether two scalars are the same key. Not a number counts as the same key as itself. -/
def same (a b : Scalar) : Bool :=
  match a.asInt?, b.asInt?, a, b with
  | some i, some j, _, _ => i == j
  | some i, none, _, .float y => y.isInt i
  | none, some j, .float x, _ => x.isInt j
  | none, none, .float x, .float y => x.same y || (x = .nan && y = .nan)
  | none, none, .moment s, .moment t => s.same t
  | _, _, x, y => x = y

end Scalar

namespace Value

/-- The value under a key, by the equality of keys. -/
def lookup? (key : Scalar) : List (Scalar × Value) → Option Value
  | [] => none
  | (k, v) :: rest => if k.same key then some v else lookup? key rest

/-- Whether the value counts as true: absence, false, zero and everything empty do not. -/
def isTruthy : Value → Bool
  | .scalar .null => false
  | .scalar (.bool b) => b
  | .scalar (.int i) => i != 0
  | .scalar (.float x) => !x.isZero
  | .scalar (.text t) => !t.isEmpty
  | .scalar (.bytes bs) => !bs.isEmpty
  | .scalar (.date _) => true
  | .scalar (.moment _) => true
  | .list items => !items.isEmpty
  | .map entries => !entries.isEmpty
  | .set members => !members.isEmpty
  | .pair _ _ => true
  | .again _ => true

end Value

end BezelStream
