import BezelStream.Proofs.Number.Rounding
import Mathlib.Algebra.Group.Nat.Defs

/-! # Integers beyond the range

An integer is rounded to a significand of fifty-three bits, so only its size decides whether the
number nearest to it is finite. The first one for which there is none lies in the middle between the
greatest finite number, `2 ^ 1024 - 2 ^ 971`, and the next power of two: there the tie goes up.
-/

namespace BezelStream.Binary64

/-- The least integer that no finite number is nearest to. -/
def leastBeyond : Nat :=
  2 ^ 1024 - 2 ^ 970

variable {n significand : Nat} {negative : Bool} {exponent : Int}

/-- Over the power of two that leaves fifty-three bits of it, the whole part of an integer has just
    so many. -/
theorem quotient_bounds (pos : 0 < n) :
    bound / 2 ≤ (shifted n 1 (n.log2 - 52)).1 / (shifted n 1 (n.log2 - 52)).2 ∧
      (shifted n 1 (n.log2 - 52)).1 / (shifted n 1 (n.log2 - 52)).2 < bound := by
  have least : 2 ^ n.log2 ≤ n := Nat.log2_self_le (Nat.ne_of_gt pos)
  have most : n < 2 ^ (n.log2 + 1) := Nat.lt_log2_self
  unfold shifted
  split
  · next short =>
      have scale : n.log2 + (-((n.log2 : Int) - 52)).toNat = 52 := by omega
      generalize (-((n.log2 : Int) - 52)).toNat = shift at scale
      have grown : 0 < 2 ^ shift := Nat.pow_pos Nat.two_pos
      dsimp only
      rw [Nat.div_one]
      constructor
      · calc 2 ^ 52 = 2 ^ n.log2 * 2 ^ shift := by rw [← Nat.pow_add, scale]
          _ ≤ n * 2 ^ shift := Nat.mul_le_mul_right _ least
      · calc n * 2 ^ shift < 2 ^ (n.log2 + 1) * 2 ^ shift := Nat.mul_lt_mul_of_pos_right most grown
          _ = 2 ^ (n.log2 + shift + 1) := by rw [← Nat.pow_add]; congr 1; omega
          _ = 2 ^ 53 := by rw [scale]
  · next long =>
      have scale : n.log2 = ((n.log2 : Int) - 52).toNat + 52 := by omega
      generalize ((n.log2 : Int) - 52).toNat = shift at scale
      have grown : 0 < 2 ^ shift := Nat.pow_pos Nat.two_pos
      rw [scale, Nat.pow_add] at least
      rw [scale, Nat.add_assoc, Nat.pow_add] at most
      dsimp only
      rw [Nat.one_mul]
      constructor
      · exact (Nat.le_div_iff_mul_le grown).mpr (by rw [Nat.mul_comm]; exact least)
      · exact (Nat.div_lt_iff_lt_mul grown).mpr (by rw [Nat.mul_comm]; exact most)

/-- A positive integer is scaled once. -/
theorem round_eq_packed (pos : 0 < n) :
    round negative n 1 = packed negative (scaled n 1 (n.log2 - 52)) (n.log2 - 52) := by
  have one : Nat.log2 1 = 0 := rfl
  have estimate : (n.log2 : Int) - Nat.log2 1 - 52 = n.log2 - 52 := by
    rw [one]
    omega
  have least : max ((n.log2 : Int) - 52) leastExponent = n.log2 - 52 :=
    Int.max_eq_left (by unfold leastExponent; omega)
  unfold round
  rw [if_neg (Nat.ne_of_gt pos), estimate]
  dsimp only
  rw [if_neg (Nat.not_lt.mpr (quotient_bounds pos).1), least]

theorem packed_infinite_iff (pos : 0 < significand) :
    (∃ sign, packed negative significand exponent = .infinite sign) ↔
      971 < exponent ∨ exponent = 971 ∧ significand = bound := by
  have infinite (m : Nat) (e : Int) (filled : 0 < m) :
      (∃ sign, (if m = 0 then zero negative else if 971 < e then .infinite negative
        else .finite negative m e) = .infinite sign) ↔ 971 < e := by
    rw [if_neg (Nat.ne_of_gt filled)]
    split
    · next beyond => exact iff_of_true ⟨negative, rfl⟩ beyond
    · next within => exact iff_of_false nofun within
  unfold packed
  by_cases full : significand = bound
  · rw [if_pos full]
    refine (infinite _ _ (by decide)).trans ?_
    omega
  · rw [if_neg full]
    refine (infinite _ _ pos).trans ?_
    simp [full]

/-- Below a power of two, a significand is rounded up to one bit too many from the middle of the last
    gap on. -/
theorem scaled_eq_bound_iff {k : Nat} (below : n < 2 ^ (k + 54)) :
    scaled n 1 (k + 1) = bound ↔ 2 ^ (k + 54) - 2 ^ k ≤ n := by
  have whole : 2 ^ (k + 54) = 2 ^ 54 * 2 ^ k := by rw [Nat.pow_add, Nat.mul_comm]
  have gap : twoTo ((k : Int) + 1).toNat = 2 * 2 ^ k := Nat.pow_succ'
  have half : 0 < 2 ^ k := Nat.pow_pos Nat.two_pos
  have full : bound = 2 ^ 53 := rfl
  unfold scaled shifted
  rw [if_neg (by omega)]
  dsimp only
  rw [Nat.one_mul, gap, full]
  rw [whole] at below ⊢
  generalize 2 ^ k = h at below half ⊢
  have parts := Nat.div_add_mod n (2 * h)
  have rest : n % (2 * h) < 2 * h := Nat.mod_lt _ (by omega)
  have few : n / (2 * h) < 2 ^ 53 := (Nat.div_lt_iff_lt_mul (by omega)).mpr (by omega)
  generalize n / (2 * h) = quotient at parts few ⊢
  generalize n % (2 * h) = remainder at parts rest ⊢
  by_cases last : quotient = 2 ^ 53 - 1
  · subst last
    split
    · omega
    · split <;> omega
  · have short : 2 * h * quotient ≤ 2 * h * (2 ^ 53 - 2) := Nat.mul_le_mul_left _ (by omega)
    refine iff_of_false ?_ (by omega)
    split
    · omega
    · split <;> omega

theorem ofInt_eq_none_iff_infinite {i : Int} :
    ofInt? i = none ↔ ∃ sign, round (i < 0) i.natAbs 1 = .infinite sign := by
  unfold ofInt?
  split
  · next sign beyond => exact iff_of_true rfl ⟨sign, beyond⟩
  · next within =>
      refine iff_of_false nofun ?_
      rintro ⟨sign, beyond⟩
      exact within sign beyond

/-- There is no finite number for an integer exactly from the middle of the last gap on. -/
theorem ofInt_eq_none_iff {i : Int} : ofInt? i = none ↔ leastBeyond ≤ i.natAbs := by
  -- The exponents are variables, because powers so large are better not evaluated.
  obtain ⟨k, is⟩ : ∃ k, k = 970 := ⟨970, rfl⟩
  have beyond : leastBeyond = 2 ^ (k + 54) - 2 ^ k := by rw [is, leastBeyond]
  rw [ofInt_eq_none_iff_infinite, beyond]
  generalize i.natAbs = n
  have double : 2 ^ (k + 54) = 2 * 2 ^ (k + 53) := Nat.pow_succ'
  have small := Nat.two_pow_pos k
  have gap := Nat.pow_le_pow_right Nat.two_pos (Nat.le_add_right k 53)
  have last := scaled_eq_bound_iff (n := n) (k := k)
  have least (k : Nat) (pos : 0 < n) : k ≤ n.log2 ↔ 2 ^ k ≤ n := Nat.le_log2 (Nat.ne_of_gt pos)
  have whole := least (k + 54)
  have large := least (k + 53)
  generalize 2 ^ (k + 54) = limit at double last whole ⊢
  generalize 2 ^ (k + 53) = middle at double gap large
  generalize 2 ^ k = h at small gap last ⊢
  rcases Nat.eq_zero_or_pos n with rfl | pos
  · refine iff_of_false ?_ (by omega)
    rintro ⟨sign, beyond⟩
    cases beyond
  rw [round_eq_packed pos, packed_infinite_iff (scaled_pos pos (by omega))]
  by_cases top : n.log2 = 1023
  · have exponent : (n.log2 : Int) - 52 = k + 1 := by omega
    rw [exponent, last (by omega)]
    omega
  · omega

end BezelStream.Binary64
