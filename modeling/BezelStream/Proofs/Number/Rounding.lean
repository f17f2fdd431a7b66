import BezelStream.Number.Binary64

/-! # Rounding of integers

A positive integer has a quotient of at least one over every power of two up to its own size, so
it is never rounded to zero: the number nearest to it is positive, if only infinite.
-/

namespace BezelStream.Binary64

variable {n : Nat} {exponent : Int}

/-- Rounding never goes below the whole part of a ratio. -/
theorem quotient_le_scaled (num den : Nat) (exponent : Int) :
    (shifted num den exponent).1 / (shifted num den exponent).2 ≤ scaled num den exponent := by
  unfold scaled
  dsimp only
  split
  · exact Nat.le_refl _
  · split
    · exact Nat.le_add_right _ _
    · exact Nat.le_succ _

theorem scaled_pos (pos : 0 < n) (small : exponent ≤ n.log2) : 0 < scaled n 1 exponent := by
  refine Nat.lt_of_lt_of_le ?_ (quotient_le_scaled n 1 exponent)
  unfold shifted
  split
  · have grown : 0 < twoTo (-exponent).toNat := Nat.pow_pos Nat.two_pos
    rw [Nat.div_one]
    exact Nat.mul_pos pos grown
  · have fits : twoTo exponent.toNat ≤ n :=
      calc 2 ^ exponent.toNat ≤ 2 ^ n.log2 := Nat.pow_le_pow_right Nat.two_pos (by omega)
        _ ≤ n := Nat.log2_self_le (Nat.ne_of_gt pos)
    rw [Nat.one_mul]
    exact Nat.div_pos fits (Nat.pow_pos Nat.two_pos)

theorem packed_isPositive {significand : Nat} (pos : 0 < significand) :
    (packed false significand exponent).isPositive = true := by
  have positive (m : Nat) (e : Int) (filled : 0 < m) :
      (if m = 0 then zero false else if 971 < e then .infinite false
        else .finite false m e).isPositive = true := by
    rw [if_neg (Nat.ne_of_gt filled)]
    split
    · rfl
    · simpa [isPositive] using Nat.ne_of_gt filled
  unfold packed
  by_cases full : significand = bound
  · rw [if_pos full]
    exact positive _ _ (by decide)
  · rw [if_neg full]
    exact positive _ _ pos

theorem round_isPositive (pos : 0 < n) : (round false n 1).isPositive = true := by
  unfold round
  rw [if_neg (Nat.ne_of_gt pos)]
  refine packed_isPositive (scaled_pos pos (Int.max_le.mpr ⟨?_, ?_⟩))
  · have one : Nat.log2 1 = 0 := rfl
    dsimp only
    split <;> omega
  · unfold leastExponent
    omega

/-- The number for a positive integer, where there is one, is positive. -/
theorem isPositive_of_ofInt {i : Int} {x : Binary64} (pos : 0 < i) (fits : ofInt? i = some x) :
    x.isPositive = true := by
  have positive := round_isPositive (n := i.natAbs) (by omega)
  unfold ofInt? at fits
  rw [decide_eq_false (by omega : ¬ i < 0)] at fits
  split at fits
  · cases fits
  · cases fits
    exact positive

end BezelStream.Binary64
