import BezelStream.Text.Lowercase
import Mathlib.Data.List.Forall2

/-! # Lower case and ASCII

A character above ASCII has its lower case above ASCII too, but for two: the capital I with a dot
and the Kelvin sign, whose lower case is written with `i` and `k`. So a word of ASCII without these
two letters is the lower case of its own spellings in ASCII, and of no other text.
-/

namespace BezelStream.Text

/-- Two texts that differ at most in the case of letters, of those that ASCII has. -/
def SameLetters (cs ds : List Char) : Prop :=
  List.Forall₂ (fun c d => c.toLower = d.toLower) cs ds

variable {c : Char} {cs ds word before : List Char}

theorem sameLetters_iff : SameLetters cs ds ↔ cs.map Char.toLower = ds.map Char.toLower := by
  rw [SameLetters, ← List.forall₂_eq_eq_eq, List.forall₂_map_left_iff, List.forall₂_map_right_iff]

theorem SameLetters.refl (cs : List Char) : SameLetters cs cs :=
  sameLetters_iff.mpr rfl

theorem SameLetters.reverse (same : SameLetters cs ds) : SameLetters cs.reverse ds.reverse :=
  List.rel_reverse same

/-- What can be checked of each character of a list holds of its members. -/
theorem forall_of_all {P : Char → Prop} [DecidablePred P]
    (checked : cs.all (fun c => decide (P c)) = true) : ∀ c ∈ cs, P c :=
  fun c member => of_decide_eq_true (List.all_eq_true.mp checked c member)

/-- Facts about characters of ASCII can be checked one by one. -/
theorem forall_ascii {P : Char → Prop} (checked : ∀ n < 0x80, P (Char.ofNat n)) (c : Char)
    (ascii : c.toNat < 0x80) : P c := by
  have holds := checked c.toNat ascii
  rwa [Char.ofNat_toNat] at holds

/-- What holds of no character beyond ASCII can be compared on ASCII. -/
theorem iff_of_ascii {P Q : Char → Prop}
    (checked : ∀ n < 0x80, (P (Char.ofNat n) ↔ Q (Char.ofNat n)))
    (left : ∀ c, P c → c.toNat < 0x80) (right : ∀ c, Q c → c.toNat < 0x80) (c : Char) :
    P c ↔ Q c := by
  by_cases ascii : c.toNat < 0x80
  · exact forall_ascii (P := fun c => P c ↔ Q c) checked c ascii
  · exact iff_of_false (mt (left c) ascii) (mt (right c) ascii)

theorem hexDigits_ascii : ∀ c ∈ "0123456789abcdefABCDEF".toList, c.toNat < 0x80 :=
  forall_of_all (by decide)

theorem toLower_of_not_ascii (beyond : ¬ c.toNat < 0x80) : c.toLower = c := by
  refine dif_neg fun upper => beyond ?_
  have least := UInt32.le_iff_toNat_le.mp upper.2
  exact Nat.lt_of_le_of_lt least (by decide)

theorem toUpper_of_not_ascii (beyond : ¬ c.toNat < 0x80) : c.toUpper = c := by
  refine dif_neg fun lower => beyond ?_
  have most := UInt32.le_iff_toNat_le.mp lower.2
  exact Nat.lt_of_le_of_lt most (by decide)

theorem ascii_of_toUpper (ascii : c.toUpper.toNat < 0x80) : c.toNat < 0x80 := by
  by_contra beyond
  rw [toUpper_of_not_ascii beyond] at ascii
  exact beyond ascii

theorem ascii_toLower_iff : c.toLower.toNat < 0x80 ↔ c.toNat < 0x80 := by
  by_cases ascii : c.toNat < 0x80
  · have low := forall_ascii (P := fun c => c.toLower.toNat < 0x80) (by decide)
    exact iff_of_true (low c ascii) ascii
  · rw [toLower_of_not_ascii ascii]

/-- No run of the table leads from above ASCII into it, but for the Kelvin sign. -/
theorem run_beyond_ascii : ∀ run ∈ lowercaseRuns, run = (0x212A, 0x212A, 1, -8383) ∨
    0x80 ≤ run.1 + run.2.2.2 ∧ (run.2.1 + run.2.2.2 < 0xD800 ∨
      0xDFFF < run.1 + run.2.2.2 ∧ run.2.1 + run.2.2.2 < 0x110000) := by
  decide +kernel

theorem toNat_ofNat {n : Nat} (valid : n.isValidChar) : (Char.ofNat n).toNat = n := by
  rw [Char.ofNat, dif_pos valid]
  rfl

theorem lowercaseChar_ascii (ascii : (lowercaseChar c).toNat < 0x80) :
    lowercaseChar c = c.toLower ∨ lowercaseChar c = 'k' := by
  unfold lowercaseChar at ascii ⊢
  by_cases low : c.toNat < 0x80
  · rw [if_pos low]
    exact .inl rfl
  rw [if_neg low] at ascii ⊢
  split at ascii
  next first last step shift found =>
    right
    obtain ⟨within, -⟩ : (first ≤ c.toNat ∧ c.toNat ≤ last) ∧ _ := by
      simpa using List.find?_some found
    rcases run_beyond_ascii _ (List.mem_of_find?_eq_some found) with kelvin | ⟨above, valid⟩
    · cases kelvin
      rw [Nat.le_antisymm within.2 within.1]
      rfl
    · dsimp only at above valid
      have valid : ((c.toNat : Int) + shift).toNat.isValidChar := by
        rw [Nat.isValidChar]
        omega
      rw [toNat_ofNat valid] at ascii
      omega
  next => exact absurd ascii low

/-- A word of ASCII without `i` and `k` is the lower case of its spellings in ASCII alone. -/
theorem lowercaseFrom_eq_iff (plain : ∀ c ∈ word, c.toNat < 0x80 ∧ c ≠ 'i' ∧ c ≠ 'k') :
    lowercaseFrom before cs = word ↔ cs.map Char.toLower = word := by
  induction cs generalizing before word with
  | nil => rfl
  | cons c rest ih =>
      rw [lowercaseFrom, List.map_cons]
      -- The two characters that the table does not tell the lower case of.
      by_cases sigma : c = 'Σ'
      · subst sigma
        refine iff_of_false ?_ ?_
        · rintro rfl
          have ascii := (plain _ List.mem_cons_self).1
          split at ascii <;> exact absurd ascii (by decide)
        · rintro rfl
          exact absurd (plain _ List.mem_cons_self).1 (by decide)
      by_cases dotted : c = 'İ'
      · subst dotted
        refine iff_of_false ?_ ?_
        · rintro rfl
          exact (plain 'i' List.mem_cons_self).2.1 rfl
        · rintro rfl
          exact absurd (plain _ List.mem_cons_self).1 (by decide)
      rw [if_neg sigma, if_neg dotted, List.singleton_append]
      constructor
      · rintro rfl
        obtain ⟨ascii, -, notK⟩ := plain _ List.mem_cons_self
        have tail := (ih fun d member => plain d (List.mem_cons_of_mem _ member)).mp rfl
        rcases lowercaseChar_ascii ascii with same | isK
        · rw [same, tail]
        · exact absurd isK notK
      · rintro rfl
        have ascii := ascii_toLower_iff.mp (plain _ List.mem_cons_self).1
        have tail : lowercaseFrom (c :: before) rest = rest.map Char.toLower :=
          (ih fun d member => plain d (List.mem_cons_of_mem _ member)).mpr rfl
        rw [tail, lowercaseChar, if_pos ascii]

theorem lowercase_eq_iff (plain : ∀ c ∈ word, c.toNat < 0x80 ∧ c ≠ 'i' ∧ c ≠ 'k') :
    lowercase cs = word ↔ cs.map Char.toLower = word :=
  lowercaseFrom_eq_iff plain

end BezelStream.Text
