import BezelStream.Proofs.Text.Lowercase
import BezelStream.Text.Digits
import Mathlib.Data.List.Induction
import Mathlib.Data.Nat.Digits.Defs

/-! # The number that digits write

Hexadecimal digits write a number whatever the case of the letters among them, and as many digits
write the same number only if they are the same digits. Decimal digits without a needless zero in
front are the only ones of their number.
-/

namespace BezelStream.Text

/-- The value of a digit, by itself. -/
def digitValue (c : Char) : Nat :=
  (alphanumericValue? c).getD 0

/-- A hexadecimal digit in either letter case. -/
abbrev HexDigit (c : Char) : Prop :=
  c ∈ "0123456789abcdefABCDEF".toList

variable {c d : Char} {cs ds : List Char}

theorem digitValue_lt (digit : HexDigit c) : digitValue c < 16 :=
  forall_of_all (P := fun c => digitValue c < 16) (by decide) c digit

theorem digitValue_eq_iff (left : HexDigit c) (right : HexDigit d) :
    digitValue c = digitValue d ↔ c.toLower = d.toLower := by
  let agree (c d : Char) : Prop := digitValue c = digitValue d ↔ c.toLower = d.toLower
  have checked : ∀ c ∈ "0123456789abcdefABCDEF".toList,
      "0123456789abcdefABCDEF".toList.all (fun d => decide (agree c d)) = true :=
    forall_of_all (by decide +kernel)
  exact forall_of_all (checked c left) d right

theorem map_digitValue_eq_iff (left : ∀ c ∈ cs, HexDigit c) (right : ∀ c ∈ ds, HexDigit c) :
    cs.map digitValue = ds.map digitValue ↔ SameLetters cs ds := by
  induction cs generalizing ds with
  | nil => cases ds <;> simp [SameLetters]
  | cons c cs ih =>
      cases ds with
      | nil => simp [SameLetters]
      | cons d ds =>
          obtain ⟨digit, digits⟩ := List.forall_mem_cons.mp left
          obtain ⟨other, others⟩ := List.forall_mem_cons.mp right
          have tails := ih digits others
          have heads := digitValue_eq_iff digit other
          rw [SameLetters] at tails ⊢
          simp [tails, heads]

/-- The digits of a number, the last one first, as the library writes them. -/
theorem hexNumber_eq_ofDigits (cs : List Char) :
    hexNumber cs = Nat.ofDigits 16 (cs.reverse.map digitValue) := by
  induction cs using List.reverseRecOn with
  | nil => rfl
  | append_singleton cs c ih =>
      have step : hexNumber (cs ++ [c]) = hexNumber cs * 16 + digitValue c := by
        rw [hexNumber, List.foldl_append]
        rfl
      rw [step, ih, List.reverse_append, List.reverse_singleton, List.singleton_append,
        List.map_cons, Nat.ofDigits_cons]
      omega

theorem hexNumber_eq_iff (left : ∀ c ∈ cs, HexDigit c) (right : ∀ c ∈ ds, HexDigit c)
    (lengths : cs.length = ds.length) : hexNumber cs = hexNumber ds ↔ SameLetters cs ds := by
  rw [hexNumber_eq_ofDigits, hexNumber_eq_ofDigits, ← map_digitValue_eq_iff left right]
  have small (digits : List Char) (hex : ∀ c ∈ digits, HexDigit c) :
      ∀ value ∈ digits.reverse.map digitValue, value < 16 := by
    intro value member
    obtain ⟨c, listed, rfl⟩ := List.mem_map.mp member
    exact digitValue_lt (hex c (List.mem_reverse.mp listed))
  constructor
  · intro same
    have digits := Nat.ofDigits_inj_of_len_eq (by decide) (by simpa using lengths)
      (small cs left) (small ds right) same
    simpa using digits
  · intro same
    rw [List.map_reverse, List.map_reverse, same]

/-! ## Decimal numbers -/

/-- The text writes the number in decimal, with no zero in front of other digits. -/
structure Decimal (cs : List Char) (n : Nat) : Prop where
  digits : ∀ c ∈ cs, c.isDigit = true
  filled : cs ≠ []
  bare : cs.head? = some '0' → cs = ['0']
  value : Nat.ofDigitChars 10 cs 0 = n

instance (cs : List Char) (n : Nat) : Decidable (Decimal cs n) :=
  decidable_of_iff (cs.all Char.isDigit = true ∧ cs ≠ [] ∧ (cs.head? = some '0' → cs = ['0']) ∧
      Nat.ofDigitChars 10 cs 0 = n)
    ⟨fun ⟨digits, filled, bare, value⟩ => ⟨List.all_eq_true.mp digits, filled, bare, value⟩,
      fun decimal =>
        ⟨List.all_eq_true.mpr decimal.digits, decimal.filled, decimal.bare, decimal.value⟩⟩

variable {n : Nat}

theorem digitChar_of_isDigit (digit : c.isDigit = true) :
    c.toNat - '0'.toNat < 10 ∧ (c.toNat - '0'.toNat).digitChar = c := by
  obtain ⟨least, most⟩ := Char.isDigit_iff_toNat.mp digit
  change 48 ≤ c.toNat at least
  change c.toNat ≤ 57 at most
  change c.toNat - 48 < 10 ∧ (c.toNat - 48).digitChar = c
  have small : c.toNat - 48 < 10 := by omega
  refine ⟨small, ?_⟩
  apply Char.toNat_inj.mp
  rw [Nat.toNat_digitChar_of_lt_ten small]
  omega

theorem head_toDigits (positive : 0 < n) : (Nat.toDigits 10 n).head? ≠ some '0' := by
  induction n using Nat.strongRecOn with
  | ind n ih =>
      by_cases single : n < 10
      · rw [Nat.toDigits_of_lt_base single, List.head?_singleton]
        intro zero
        have least := Nat.digitChar_eq_zero.mp (Option.some.inj zero)
        omega
      · rw [Nat.toDigits_of_base_le (by decide) (by omega),
          List.head?_append_of_ne_nil _ Nat.toDigits_ne_nil]
        exact ih (n / 10) (by omega) (by omega)

theorem decimal_toDigits (n : Nat) : Decimal (Nat.toDigits 10 n) n where
  digits c member := Nat.isDigit_of_mem_toDigits (by decide) (by decide) member
  filled := Nat.toDigits_ne_nil
  bare := by
    intro zero
    rcases Nat.eq_zero_or_pos n with rfl | positive
    · exact Nat.toDigits_zero 10
    · exact absurd zero (head_toDigits positive)
  value := Nat.ofDigitChars_ten_toDigits

/-- A number has one text in decimal. -/
theorem Decimal.toDigits_eq (decimal : Decimal cs n) : Nat.toDigits 10 n = cs := by
  -- The last digit goes first, because the library writes a number by dividing it by ten.
  induction cs using List.reverseRecOn generalizing n with
  | nil => exact absurd rfl decimal.filled
  | append_singleton cs c ih =>
      obtain ⟨digits, -, bare, value⟩ := decimal
      obtain ⟨small, last⟩ := digitChar_of_isDigit (digits c (by simp))
      rw [Nat.ofDigitChars_append, Nat.ofDigitChars_cons, Nat.ofDigitChars_nil] at value
      generalize c.toNat - '0'.toNat = d at small last value
      by_cases single : cs = []
      · subst single
        rw [Nat.ofDigitChars_nil] at value
        have same : n = d := by omega
        rw [same, Nat.toDigits_of_lt_base small, last, List.nil_append]
      · have proper : cs.head? ≠ some '0' := by
          intro zero
          have alone := bare (by rw [List.head?_append_of_ne_nil _ single, zero])
          have lengths := congrArg List.length alone
          exact single (by simpa using lengths)
        have front : Decimal cs (Nat.ofDigitChars 10 cs 0) :=
          ⟨fun c member => digits c (List.mem_append_left _ member), single,
            fun zero => absurd zero proper, rfl⟩
        have before := ih front
        generalize Nat.ofDigitChars 10 cs 0 = v at before value
        -- Otherwise the digits in front would be a zero, and the text would begin with it.
        have positive : 0 < v := by
          refine Nat.pos_of_ne_zero ?_
          rintro rfl
          rw [← before, Nat.toDigits_zero] at proper
          exact proper rfl
        calc
          Nat.toDigits 10 n = Nat.toDigits 10 (10 * v + d) := by rw [value]
          _ = Nat.toDigits 10 v ++ Nat.toDigits 10 d :=
              (Nat.toDigits_append_toDigits (by decide) positive small).symm
          _ = cs ++ [c] := by rw [before, Nat.toDigits_of_lt_base small, last]

end BezelStream.Text
