import BezelStream.Value

/-! # Keys of mappings

Entries are `Keyed` if no two of them have equal keys, where not a number equals nothing. A text is
the same key as no other scalar, so where all keys are texts it does not matter by which equality
they are compared.
-/

namespace BezelStream

variable {α : Type}

/-- Whether two scalars are equal. Not a number equals nothing, not even itself. -/
def Scalar.equals (a b : Scalar) : Bool :=
  a.same b && a != .float .nan

/-- No two entries have equal keys. -/
def Keyed (entries : List (Scalar × α)) : Prop :=
  entries.Pairwise fun earlier later => earlier.1.equals later.1 = false

/-- If the value is a mapping, no two of its entries have equal keys. -/
def Value.IsKeyed (value : Value) : Prop :=
  ∀ entries, value = .map entries → Keyed entries

theorem Scalar.equals_nan (key : Scalar) : key.equals (.float .nan) = false := by
  cases key with
  | float x => cases x <;> simp [equals, same, asInt?, Binary64.same]
  | null | bool | int | text | bytes | date | moment => rfl

theorem Scalar.same_text (key : Scalar) (name : CodePoints) :
    key.same (.text name) = decide (key = .text name) := by
  cases key <;> rfl

/-- A text that is the key of the first entry is no later key. -/
theorem Keyed.ne_of_cons {name : CodePoints} {value : α} {entries : List (Scalar × α)}
    (keyed : Keyed ((.text name, value) :: entries)) :
    ∀ entry ∈ entries, entry.1 ≠ .text name := by
  intro entry member same
  have differs := (List.pairwise_cons.mp keyed).1 entry member
  rw [same, Scalar.equals, Scalar.same_text] at differs
  simp at differs

end BezelStream
