import BezelStream.Proofs.Text.Groups
import BezelStream.Uuid
import Mathlib.Tactic.IntervalCases

/-! # The written form of identifiers

`Identifier` says what an identifier looks like without cutting it into groups. The check accepts
exactly these texts, so whatever a setting is normalised to is one of them.
-/

namespace BezelStream

open Text

/-- Groups of hexadecimal digits in lower case with dashes between them: one group of four digits,
    one of eight, or five of eight, four, four, four and twelve. -/
def Identifier (cs : List Char) : Prop :=
  ∃ groups : List (List Char), cs = ['-'].intercalate groups ∧
    groups.map List.length ∈ [[4], [8], [8, 4, 4, 4, 12]] ∧
    ∀ group ∈ groups, ∀ c ∈ group, c ∈ "0123456789abcdef".toList

theorem isLowerHexDigit_iff {c : Char} :
    isLowerHexDigit c = true ↔ c ∈ "0123456789abcdef".toList := by
  constructor
  · intro digit
    have range : 48 ≤ c.toNat ∧ c.toNat ≤ 57 ∨ 97 ≤ c.toNat ∧ c.toNat ≤ 102 := by
      simpa [isLowerHexDigit, Char.isDigit, Char.le_def, UInt32.le_iff_toNat_le] using digit
    rw [← Char.ofNat_toNat c]
    rcases range with ⟨least, most⟩ | ⟨least, most⟩ <;> interval_cases c.toNat <;> decide
  · have digits : "0123456789abcdef".toList.all isLowerHexDigit = true := by decide
    exact List.all_eq_true.mp digits c

theorem identifier_iff_grouped {cs : List Char} :
    Identifier cs ↔ Grouped '-' [[4], [8], [8, 4, 4, 4, 12]] "0123456789abcdef".toList cs :=
  Iff.rfl

/-- The check accepts exactly the written forms. -/
theorem isUuid_iff {cs : List Char} : isUuid cs = true ↔ Identifier cs := by
  rw [identifier_iff_grouped, grouped_iff (by decide) (by decide)]
  simp only [isUuid, Bool.and_eq_true, List.contains_iff_mem, List.all_eq_true, isLowerHexDigit_iff]
  exact and_comm

variable {context value uuid : String}

theorem normalizeUuid_accepts (identifier : Identifier (lowercase (trim value.toList))) :
    normalizeUuid context value = .ok (String.ofList (lowercase (trim value.toList))) :=
  if_pos (isUuid_iff.mpr identifier)

theorem normalizeUuid_refuses (other : ¬ Identifier (lowercase (trim value.toList))) :
    normalizeUuid context value = .error (.notUuid context) :=
  if_neg fun checked => other (isUuid_iff.mp checked)

theorem identifier_of_normalizeUuid (normal : normalizeUuid context value = .ok uuid) :
    Identifier uuid.toList := by
  by_cases identifier : Identifier (lowercase (trim value.toList))
  · rw [normalizeUuid_accepts identifier] at normal
    cases normal
    rwa [String.toList_ofList]
  · rw [normalizeUuid_refuses identifier] at normal
    cases normal

end BezelStream
