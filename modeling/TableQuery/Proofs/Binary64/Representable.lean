/-
# Numbers of quanta that a float holds

A float holds a number of quanta exactly if that is at most 53 binary digits, followed by zeros, and
below `2²⁰⁹⁸`, where the exponents end (`Representable`). Rounding leaves such a number as it is
(`quantaOfBits_nearestBits`): the shift that rounding works out takes away zeros only.

The whole part of a float and what is left of it are of this form again, the one because its digits
are the first digits of the float, the other because they are the last. So a float is taken apart
and put together without error.
-/

import TableQuery.Binary64.Arithmetic
import Mathlib.Tactic.Positivity
import Mathlib.Tactic.Ring

namespace TableQuery
namespace Binary64

theorem exponentWeight_eq : exponentWeight = 2 ^ 52 := by norm_num [exponentWeight]

theorem quantaPerOne_eq : quantaPerOne = 2 ^ quantumPlaces := Nat.one_shiftLeft _

/-- The quanta that fraction and exponent bits denote, as a product. -/
theorem quantaOfBits_eq (m : ℕ) :
    quantaOfBits m =
      if m / exponentWeight = 0 then m
      else (exponentWeight + m % exponentWeight) * 2 ^ (m / exponentWeight - 1) := by
  rw [quantaOfBits, Nat.shiftLeft_eq]

/-- The number of binary digits of the largest finite float, in quanta. -/
def digitsOfLargest : ℕ := 2098

/-- At most 53 binary digits and zeros behind them, within the range of the exponents. -/
def Representable (q : ℕ) : Prop :=
  ∃ a k, a < 2 ^ 53 ∧ q = a * 2 ^ k ∧ q < 2 ^ digitsOfLargest

/-- **Every finite float holds a representable number of quanta.** -/
theorem representable_quantaOfBits {m : ℕ} (h : m < infinityBits) :
    Representable (quantaOfBits m) := by
  have hW := exponentWeight_eq
  have hW' : 0 < exponentWeight := by rw [hW]; positivity
  have hexp : m / exponentWeight < 2047 := (Nat.div_lt_iff_lt_mul hW').2 h
  rw [quantaOfBits_eq]
  split
  · rename_i h0
    have hm : m < exponentWeight := (Nat.div_eq_zero_iff_lt hW').1 h0
    have hm' : m < 2 ^ 53 := by omega
    exact ⟨m, 0, hm', by simp, hm'.trans (Nat.pow_lt_pow_right (by norm_num) (by decide))⟩
  · have hf := Nat.mod_lt m hW'
    have ha : exponentWeight + m % exponentWeight < 2 ^ 53 := by omega
    refine ⟨_, _, ha, rfl, ?_⟩
    calc (exponentWeight + m % exponentWeight) * 2 ^ (m / exponentWeight - 1)
        < 2 ^ 53 * 2 ^ (m / exponentWeight - 1) := Nat.mul_lt_mul_of_pos_right ha (by positivity)
      _ = 2 ^ (53 + (m / exponentWeight - 1)) := (Nat.pow_add ..).symm
      _ ≤ 2 ^ digitsOfLargest :=
        Nat.pow_le_pow_right (by norm_num) (by unfold digitsOfLargest; omega)

/-- A power of two is representable within the range of the exponents. -/
theorem representable_two_pow_mul_quantaPerOne {k : ℕ} (h : k + quantumPlaces < digitsOfLargest) :
    Representable (2 ^ k * quantaPerOne) := by
  rw [quantaPerOne_eq, ← Nat.pow_add]
  exact ⟨1, k + quantumPlaces, by norm_num, (Nat.one_mul _).symm,
    Nat.pow_lt_pow_right (by norm_num) h⟩

/-- An integer of up to 53 binary digits is representable, and so is the first one of 54. -/
theorem representable_mul_quantaPerOne {n : ℕ} (h : n ≤ 2 ^ 53) :
    Representable (n * quantaPerOne) := by
  have hlargest : Representable (2 ^ 53 * quantaPerOne) :=
    representable_two_pow_mul_quantaPerOne (by decide)
  rcases h.eq_or_lt with rfl | hlt
  · exact hlargest
  · obtain ⟨-, -, -, -, hbound⟩ := hlargest
    exact ⟨n, quantumPlaces, hlt, by rw [quantaPerOne_eq],
      (Nat.mul_le_mul_right _ h).trans_lt hbound⟩

theorem divRound_mul {d : ℕ} (hd : 0 < d) (b : ℕ) : divRound (b * d) d = b := by
  rw [divRound, Nat.mul_mod_left, Nat.mul_div_cancel _ hd]
  simp [hd]

/-- Numbers of up to 53 binary digits are their own bits. -/
theorem nearestBits_of_lt {q : ℕ} (h : q < 2 ^ 53) :
    nearestBits q 1 = q ∧ quantaOfBits q = q := by
  have hW := exponentWeight_eq
  have hshift : q.log2 - 52 = 0 := by
    rcases Nat.eq_zero_or_pos q with rfl | hq
    · rfl
    · have := (Nat.log2_lt (by omega)).2 h
      omega
  have hinf : q ≤ infinityBits := by
    unfold infinityBits
    omega
  constructor
  · rw [nearestBits, Nat.div_one, hshift, Nat.shiftLeft_zero, ← Nat.mul_one q, divRound_mul one_pos]
    simpa using hinf
  · rw [quantaOfBits_eq]
    split
    · rfl
    · rename_i h0
      have hlt : q / exponentWeight < 2 := (Nat.div_lt_iff_lt_mul (by omega)).2 (by omega)
      have h1 : q / exponentWeight = 1 :=
        Nat.le_antisymm (Nat.le_of_lt_succ hlt) (Nat.pos_of_ne_zero h0)
      have := Nat.div_add_mod q exponentWeight
      rw [h1] at this
      rw [h1, Nat.sub_self, Nat.pow_zero, Nat.mul_one]
      omega

/-- Numbers of more than 53 binary digits, zeros from the 54th on, are scaled by the exponent. -/
theorem nearestBits_mul_two_pow {b s : ℕ} (hb : 2 ^ 52 ≤ b) (hb' : b < 2 ^ 53) (hs : s ≤ 2045) :
    nearestBits (b * 2 ^ s) 1 = s * exponentWeight + b ∧
      quantaOfBits (s * exponentWeight + b) = b * 2 ^ s := by
  have hW := exponentWeight_eq
  have hlog : (b * 2 ^ s).log2 = 52 + s := by
    rw [Nat.log2_eq_iff (by positivity)]
    constructor
    · rw [Nat.pow_add]
      exact Nat.mul_le_mul_right _ hb
    · rw [show 52 + s + 1 = 53 + s by omega, Nat.pow_add]
      exact Nat.mul_lt_mul_of_pos_right hb' (by positivity)
  have hinf : s * exponentWeight + b ≤ infinityBits := by
    have := Nat.mul_le_mul_right exponentWeight hs
    unfold infinityBits
    omega
  constructor
  · rw [nearestBits, Nat.div_one, hlog, Nat.add_sub_cancel_left, Nat.one_shiftLeft,
      divRound_mul (by positivity), Nat.min_eq_left hinf]
  · obtain ⟨r, rfl⟩ := Nat.exists_eq_add_of_le (hW ▸ hb)
    have hr : r < exponentWeight := by omega
    have hsum : s * exponentWeight + (exponentWeight + r) = r + exponentWeight * (s + 1) := by ring
    have hdiv : (s * exponentWeight + (exponentWeight + r)) / exponentWeight = s + 1 := by
      rw [hsum, Nat.add_mul_div_left _ _ (by omega), Nat.div_eq_of_lt hr, Nat.zero_add]
    have hmod : (s * exponentWeight + (exponentWeight + r)) % exponentWeight = r := by
      rw [hsum, Nat.add_mul_mod_self_left, Nat.mod_eq_of_lt hr]
    rw [quantaOfBits_eq, hdiv, hmod, if_neg (by omega), Nat.add_sub_cancel]

/-- **Rounding leaves representable numbers as they are.** -/
theorem quantaOfBits_nearestBits {q : ℕ} (h : Representable q) :
    nearestBits q 1 < infinityBits ∧ quantaOfBits (nearestBits q 1) = q := by
  have hW := exponentWeight_eq
  obtain ⟨a, k, ha, rfl, hq⟩ := h
  rcases Nat.lt_or_ge (a * 2 ^ k) (2 ^ 53) with hsmall | hlarge
  · obtain ⟨h1, h2⟩ := nearestBits_of_lt hsmall
    rw [h1]
    refine ⟨?_, h2⟩
    unfold infinityBits
    omega
  · have hne : a * 2 ^ k ≠ 0 := by
      have : 0 < 2 ^ 53 := by positivity
      omega
    have h53 : 53 ≤ (a * 2 ^ k).log2 := (Nat.le_log2 hne).2 hlarge
    obtain ⟨s, hlog⟩ : ∃ s, (a * 2 ^ k).log2 = 52 + s := Nat.exists_eq_add_of_le (by omega)
    obtain ⟨hlow, hhigh⟩ := (Nat.log2_eq_iff hne).1 hlog
    -- All digits that the shift takes away are zeros: `a` has too few digits for `k < s`.
    have hsk : s ≤ k := by
      have h1 : 2 ^ (52 + s) < 2 ^ (53 + k) := by
        calc 2 ^ (52 + s) ≤ a * 2 ^ k := hlow
          _ < 2 ^ 53 * 2 ^ k := Nat.mul_lt_mul_of_pos_right ha (by positivity)
          _ = 2 ^ (53 + k) := (Nat.pow_add ..).symm
      have := (Nat.pow_lt_pow_iff_right (by norm_num)).1 h1
      omega
    have hs2045 : s ≤ 2045 := by
      have := (Nat.pow_lt_pow_iff_right (by norm_num)).1 (hlow.trans_lt hq)
      unfold digitsOfLargest at this
      omega
    obtain ⟨j, rfl⟩ := Nat.exists_eq_add_of_le hsk
    have hsplit : a * 2 ^ (s + j) = a * 2 ^ j * 2 ^ s := by rw [Nat.pow_add]; ring
    rw [hsplit] at hlow hhigh ⊢
    have hb : 2 ^ 52 ≤ a * 2 ^ j := by
      rw [Nat.pow_add] at hlow
      exact Nat.le_of_mul_le_mul_right hlow (by positivity)
    have hb' : a * 2 ^ j < 2 ^ 53 := by
      rw [show 52 + s + 1 = 53 + s by omega, Nat.pow_add] at hhigh
      exact Nat.lt_of_mul_lt_mul_right hhigh
    obtain ⟨h1, h2⟩ := nearestBits_mul_two_pow hb hb' hs2045
    rw [h1]
    refine ⟨?_, h2⟩
    have := Nat.mul_le_mul_right exponentWeight hs2045
    unfold infinityBits
    omega

end Binary64
end TableQuery
