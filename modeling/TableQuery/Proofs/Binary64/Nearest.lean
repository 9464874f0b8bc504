/-
# The quotients that round to a float

Magnitude bits count units: `t * exponentWeight + a` is `a` units of `2 ^ t` quanta
(`quantaOfBits_units`). A float and the next one are a unit apart, and rounding works in the same
unit, so a quotient between the two goes to the nearer one, from the middle to the one with the even
bits (`nearestBits_of_between`).

So a float stands for the quotients around it, halfway to each of its neighbours, ends included if
its last bit is zero (`Encloses`). All of these are rounded to it (`nearestBits_of_encloses`), also
where the units below the float are smaller than those above it.
-/

import TableQuery.Proofs.Binary64.Rounding

namespace TableQuery
namespace Binary64

variable {num den m : ℕ}

/-! ### Units -/

/-- **Magnitude bits count units of one size** from one power of two to the next, which is still
some number of these units. -/
theorem quantaOfBits_units {t a : ℕ} (ha : a ≤ 2 * exponentWeight)
    (ht : t = 0 ∨ exponentWeight ≤ a) : quantaOfBits (t * exponentWeight + a) = a * 2 ^ t := by
  have hW : 0 < exponentWeight := by decide
  rw [quantaOfBits_eq]
  rcases Nat.lt_or_ge a exponentWeight with hsmall | hlarge
  · obtain rfl : t = 0 := ht.resolve_right (Nat.not_le_of_lt hsmall)
    rw [Nat.zero_mul, Nat.zero_add, Nat.div_eq_of_lt hsmall, if_pos rfl, Nat.pow_zero, Nat.mul_one]
  · obtain ⟨r, rfl⟩ := Nat.exists_eq_add_of_le hlarge
    have hsum : t * exponentWeight + (exponentWeight + r) = r + exponentWeight * (t + 1) := by ring
    rw [hsum, Nat.add_mul_div_left _ _ hW, Nat.add_mul_mod_self_left]
    rcases Nat.lt_or_ge r exponentWeight with hr | hr
    · rw [Nat.div_eq_of_lt hr, Nat.mod_eq_of_lt hr, if_neg (by omega), Nat.zero_add,
        Nat.add_sub_cancel]
    · obtain rfl : r = exponentWeight := by omega
      rw [Nat.div_self hW, Nat.mod_self, if_neg (by omega), Nat.add_zero, Nat.add_sub_cancel_left,
        Nat.pow_succ]
      ring

/-- Every float is a number of units, and the next one is one unit more. -/
theorem exists_units (m : ℕ) : ∃ t a, m = t * exponentWeight + a ∧ a < 2 * exponentWeight ∧
    (t = 0 ∨ exponentWeight ≤ a) ∧ quantaOfBits m = a * 2 ^ t ∧
    quantaOfBits (m + 1) = a * 2 ^ t + 2 ^ t := by
  have hW : 0 < exponentWeight := by decide
  have hm := Nat.div_add_mod m exponentWeight
  have hf := Nat.mod_lt m hW
  rw [Nat.mul_comm] at hm
  obtain ⟨t, a, rfl, ha, ht⟩ : ∃ t a, m = t * exponentWeight + a ∧ a < 2 * exponentWeight ∧
      (t = 0 ∨ exponentWeight ≤ a) := by
    cases he : m / exponentWeight with
    | zero =>
      rw [he] at hm
      exact ⟨0, m, by omega, by omega, .inl rfl⟩
    | succ t =>
      rw [he, Nat.succ_mul] at hm
      exact ⟨t, exponentWeight + m % exponentWeight, by omega, by omega, .inr (by omega)⟩
  refine ⟨t, a, rfl, ha, ht, quantaOfBits_units ha.le ht, ?_⟩
  rw [Nat.add_assoc, quantaOfBits_units ha (by omega), Nat.succ_mul]

theorem quantaOfBits_lt_succ (m : ℕ) : quantaOfBits m < quantaOfBits (m + 1) := by
  obtain ⟨t, a, -, -, -, hquanta, hnext⟩ := exists_units m
  rw [hquanta, hnext]
  exact Nat.lt_add_of_pos_right (Nat.two_pow_pos t)

/-- The surplus digits of a number that has 53 digits, or fewer, in front of them. -/
theorem surplusDigits_eq {q t : ℕ} (hlow : t = 0 ∨ exponentWeight * 2 ^ t ≤ q)
    (hhigh : q < 2 * exponentWeight * 2 ^ t) : surplusDigits q = t := by
  have hmax : 2 * exponentWeight * 2 ^ t = 2 ^ (53 + t) := by
    rw [exponentWeight_eq, Nat.pow_add]
    ring
  rw [surplusDigits]
  rcases hlow with rfl | hlow
  · rcases Nat.eq_zero_or_pos q with rfl | hq
    · rfl
    · have := (Nat.log2_lt hq.ne').2 (hmax ▸ hhigh)
      omega
  · rw [exponentWeight_eq, ← Nat.pow_add] at hlow
    have hq : q ≠ 0 := ((Nat.two_pow_pos (52 + t)).trans_le hlow).ne'
    have hle := (Nat.le_log2 hq).2 hlow
    have hlt := (Nat.log2_lt hq).2 (hmax ▸ hhigh)
    omega

/-- **A quotient is rounded in units** of the size that leaves 53 digits. -/
theorem nearestBits_units {t : ℕ} (hden : 0 < den)
    (hlow : t = 0 ∨ exponentWeight * (2 ^ t * den) ≤ num)
    (hhigh : num < 2 * exponentWeight * (2 ^ t * den)) :
    nearestBits num den = min (t * exponentWeight + divRound num (2 ^ t * den)) infinityBits := by
  have hshift : surplusDigits (num / den) = t := by
    refine surplusDigits_eq (hlow.imp_right fun h => ?_) ?_
    · rwa [Nat.le_div_iff_mul_le hden, Nat.mul_assoc]
    · rwa [Nat.div_lt_iff_lt_mul hden, Nat.mul_assoc]
  rw [surplusDigits] at hshift
  rw [nearestBits, hshift, Nat.shiftLeft_eq, Nat.mul_comm den]

/-! ### Between two floats -/

/-- Twice the middle between a float and the next one. -/
def twiceMiddle (m : ℕ) : ℕ := quantaOfBits m + quantaOfBits (m + 1)

/-- **Between two floats a quotient is rounded to the nearer one,** and from the middle to the one
with the even bits. -/
theorem nearestBits_of_between (hden : 0 < den) (hlow : quantaOfBits m * den ≤ num)
    (hhigh : num < quantaOfBits (m + 1) * den) :
    nearestBits num den =
      min (if 2 * num < twiceMiddle m * den ∨ (2 * num = twiceMiddle m * den ∧ m % 2 = 0) then m
        else m + 1) infinityBits := by
  obtain ⟨t, a, hm, ha, ht, hquanta, hnext⟩ := exists_units m
  have hD : 0 < 2 ^ t * den := Nat.mul_pos (Nat.two_pow_pos t) hden
  have hmiddle : twiceMiddle m * den = 2 * (a * (2 ^ t * den)) + 2 ^ t * den := by
    rw [twiceMiddle, hquanta, hnext]
    ring
  have hparity : m % 2 = a % 2 := by
    rw [hm, Nat.add_mod, Nat.mul_mod, show exponentWeight % 2 = 0 by decide, Nat.mul_zero,
      Nat.zero_mod, Nat.zero_add, Nat.mod_mod]
  rw [hquanta, Nat.mul_assoc] at hlow
  rw [hnext, Nat.add_mul, Nat.mul_assoc] at hhigh
  obtain ⟨r, rfl⟩ := Nat.exists_eq_add_of_le hlow
  have hr : r < 2 ^ t * den := Nat.lt_of_add_lt_add_left hhigh
  have hdiv : (a * (2 ^ t * den) + r) / (2 ^ t * den) = a := by
    rw [Nat.add_comm, Nat.add_mul_div_right _ _ hD, Nat.div_eq_of_lt hr, Nat.zero_add]
  have hmin : t = 0 ∨ exponentWeight * (2 ^ t * den) ≤ a * (2 ^ t * den) + r :=
    ht.imp_right fun h => (Nat.mul_le_mul_right _ h).trans hlow
  have hmax : a * (2 ^ t * den) + r < 2 * exponentWeight * (2 ^ t * den) := by
    have := Nat.mul_le_mul_right (2 ^ t * den) (Nat.succ_le_of_lt ha)
    rw [Nat.succ_mul a] at this
    omega
  rw [nearestBits_units hden hmin hmax, divRound, hdiv, Nat.mul_add_mod_of_lt hr, hmiddle, hparity]
  congr 1
  split
  · rw [if_pos (by omega), hm]
  · rw [if_neg (by omega), hm, Nat.add_assoc]

/-! ### Around a float -/

/-- Quotients around the positive float with magnitude bits `m`, up to the middles between it and
its neighbours. The middles are there for an even `m` only. -/
structure Encloses (m num den : ℕ) : Prop where
  low : twiceMiddle (m - 1) * den ≤ 2 * num
  high : 2 * num ≤ twiceMiddle m * den
  odd : m % 2 = 1 → twiceMiddle (m - 1) * den ≠ 2 * num ∧ 2 * num ≠ twiceMiddle m * den

/-- **The quotients around a float are rounded to it.** -/
theorem nearestBits_of_encloses (hm : 0 < m) (hfinite : m < infinityBits) (hden : 0 < den)
    (h : Encloses m num den) : nearestBits num den = m := by
  obtain ⟨n, rfl⟩ := Nat.exists_eq_add_of_le' (Nat.one_le_of_lt hm)
  obtain ⟨hlow, hhigh, hodd⟩ := h
  rw [Nat.add_sub_cancel] at hlow hodd
  rcases Nat.lt_or_ge num (quantaOfBits (n + 1) * den) with hlt | hge
  · -- Below the float the quotient is not nearer to the float before.
    have hle : quantaOfBits n * den ≤ num := by
      have := Nat.mul_le_mul_right den (quantaOfBits_lt_succ n).le
      rw [twiceMiddle, Nat.add_mul] at hlow
      omega
    rw [nearestBits_of_between hden hle hlt, if_neg (by omega), Nat.min_eq_left hfinite.le]
  · -- Above it the quotient is not nearer to the float after.
    have hlt : num < quantaOfBits (n + 1 + 1) * den := by
      have := Nat.mul_lt_mul_of_pos_right (quantaOfBits_lt_succ (n + 1)) hden
      rw [twiceMiddle, Nat.add_mul] at hhigh
      omega
    rw [nearestBits_of_between hden hge hlt, if_pos (by omega), Nat.min_eq_left hfinite.le]

end Binary64
end TableQuery
