/-
# Exact arithmetic on floats

The operations that take a float apart make no error where they are used. The whole part of a float
and the rest are representable numbers of quanta, so a float that holds the whole part is exact, and
so is the difference to it.
-/

import TableQuery.Proofs.Binary64.Representable
import TableQuery.Text.Numeral

namespace TableQuery
namespace Binary64

/-! ### Points of floats -/

/-- The float of finite magnitude bits denotes their quanta, with the sign. -/
theorem point?_ofMagnitude (negative : Bool) {m : ℕ} (h : m < infinityBits) :
    (ofMagnitude negative m).point? =
      some (.finite (if negative then -(quantaOfBits m : ℤ) else quantaOfBits m)) := by
  have hm : m < signWeight := h.trans (by decide)
  have hS : signWeight = 2 ^ 63 := by norm_num [signWeight]
  have hbits : (ofMagnitude negative m).bits.toNat = (if negative then signWeight else 0) + m := by
    rw [ofMagnitude, UInt64.toNat_ofNat', Nat.mod_eq_of_lt]
    split <;> omega
  have hmag : (ofMagnitude negative m).magnitudeBits = m := by
    rw [magnitudeBits, hbits]
    split
    · rw [Nat.add_mod_left, Nat.mod_eq_of_lt hm]
    · rw [Nat.zero_add, Nat.mod_eq_of_lt hm]
  have hneg : (ofMagnitude negative m).isNegative = negative := by
    rw [isNegative, hbits]
    cases negative
    · simpa using hm
    · simp
  simp only [point?, hmag, hneg, if_pos h]

/-- A finite float denotes a representable number of quanta. -/
theorem representable_of_point? {x : Binary64} {q : ℤ} (h : x.point? = some (.finite q)) :
    Representable q.natAbs := by
  unfold point? at h
  dsimp only at h
  split at h
  · rename_i hm
    have hq := Point.finite.inj (Option.some.inj h)
    have hnat : q.natAbs = quantaOfBits x.magnitudeBits := by
      rw [← hq]
      split <;> simp
    rw [hnat]
    exact representable_quantaOfBits hm
  · split at h
    · split at h <;> cases h
    · cases h

/-- Rounding a representable number of quanta is exact. -/
theorem point?_ofQuanta {q : ℤ} (h : Representable q.natAbs) (negativeZero : Bool) :
    (ofQuanta q negativeZero).point? = some (.finite q) := by
  obtain ⟨hlt, hq⟩ := quantaOfBits_nearestBits h
  rw [ofQuanta, point?_ofMagnitude _ hlt, hq]
  congr 2
  rcases lt_trichotomy q 0 with h0 | rfl | h0
  · rw [if_neg h0.ne, if_pos (by simpa using h0)]
    omega
  · simp
  · rw [if_neg h0.ne', if_neg (by simpa using h0.le)]
    omega

/-- An integer that a float holds is rounded to itself. -/
theorem point?_ofInt {i : ℤ} (h : Representable (i.natAbs * quantaPerOne)) :
    (ofInt i).point? = some (Point.ofInt i) := by
  obtain ⟨hlt, hq⟩ := quantaOfBits_nearestBits h
  rw [ofInt, point?_ofMagnitude _ hlt, hq, Point.ofInt]
  congr 2
  rcases lt_or_ge i 0 with h0 | h0
  · rw [if_pos (by simpa using h0)]
    push_cast
    rw [abs_of_neg h0]
    ring
  · rw [if_neg (by simpa using h0)]
    push_cast
    rw [abs_of_nonneg h0]

/-! ### The whole part and the rest -/

/-- The whole part is representable: its digits are the first ones. -/
theorem Representable.whole {q : ℕ} (h : Representable q) :
    Representable (q / quantaPerOne * quantaPerOne) := by
  obtain ⟨a, k, ha, rfl, hq⟩ := h
  have hle := Nat.div_mul_le_self (a * 2 ^ k) quantaPerOne
  rw [quantaPerOne_eq] at hle ⊢
  rcases Nat.le_total quantumPlaces k with hk | hk
  · obtain ⟨j, rfl⟩ := Nat.exists_eq_add_of_le hk
    have hsplit : a * 2 ^ (quantumPlaces + j) = a * 2 ^ j * 2 ^ quantumPlaces := by
      rw [Nat.pow_add]
      ring
    rw [hsplit, Nat.mul_div_cancel _ (Nat.two_pow_pos _), ← hsplit]
    exact ⟨a, _, ha, rfl, hq⟩
  · refine ⟨_, _, ?_, rfl, hle.trans_lt hq⟩
    obtain ⟨j, hj⟩ := Nat.exists_eq_add_of_le hk
    rw [hj, Nat.pow_add, Nat.mul_comm a, Nat.mul_div_mul_left _ _ (Nat.two_pow_pos _)]
    exact (Nat.div_le_self _ _).trans_lt ha

/-- What the whole part leaves is representable: its digits are the last ones. -/
theorem Representable.rest {q : ℕ} (h : Representable q) : Representable (q % quantaPerOne) := by
  obtain ⟨a, k, ha, rfl, hq⟩ := h
  have hle := Nat.mod_le (a * 2 ^ k) quantaPerOne
  rw [quantaPerOne_eq] at hle ⊢
  rcases Nat.le_total quantumPlaces k with hk | hk
  · obtain ⟨j, rfl⟩ := Nat.exists_eq_add_of_le hk
    have hzero : a * 2 ^ (quantumPlaces + j) % 2 ^ quantumPlaces = 0 := by
      rw [Nat.pow_add, Nat.mul_left_comm, Nat.mul_mod_right]
    rw [hzero]
    exact ⟨0, 0, by norm_num, by norm_num, Nat.two_pow_pos _⟩
  · obtain ⟨j, hj⟩ := Nat.exists_eq_add_of_le hk
    have hsplit : a * 2 ^ k % 2 ^ quantumPlaces = a % 2 ^ j * 2 ^ k := by
      rw [hj, Nat.pow_add, Nat.mul_comm a, Nat.mul_mod_mul_left, Nat.mul_comm]
    rw [hsplit] at hle ⊢
    exact ⟨_, k, (Nat.mod_le _ _).trans_lt ha, rfl, hle.trans_lt hq⟩

/-- A number of quanta is its whole part in quanta and a rest smaller than one. -/
theorem tdiv_mul_add_tmod_quantaPerOne (q : ℤ) :
    q.tdiv quantaPerOne * quantaPerOne + q.tmod quantaPerOne = q ∧
      -(quantaPerOne : ℤ) < q.tmod quantaPerOne ∧ q.tmod quantaPerOne < quantaPerOne := by
  have hP : (0 : ℤ) < quantaPerOne := by exact_mod_cast quantaPerOne_pos
  exact ⟨Int.tdiv_mul_add_tmod _ _, Int.lt_tmod_of_pos _ hP, Int.tmod_lt_of_pos _ hP⟩

variable {x : Binary64} {q : ℤ}

/-- Where the whole part is a signed word, cutting off gives it. -/
theorem toInt_truncate (h : x.point? = some (.finite q))
    (hlow : Int64.minValue.toInt ≤ q.tdiv quantaPerOne)
    (hhigh : q.tdiv quantaPerOne ≤ Int64.maxValue.toInt) :
    x.truncate.toInt = q.tdiv quantaPerOne := by
  simp only [truncate, h]
  rw [if_neg (by omega), if_neg (by omega)]
  exact Numeral.toInt_ofInt ⟨hlow, hhigh⟩

/-- **The whole part of a float is a float.** -/
theorem point?_ofInt_tdiv (h : x.point? = some (.finite q)) :
    (ofInt (q.tdiv quantaPerOne)).point? = some (Point.ofInt (q.tdiv quantaPerOne)) := by
  apply point?_ofInt
  rw [Int.natAbs_tdiv, Int.natAbs_natCast]
  exact (representable_of_point? h).whole

/-- **Taking the whole part away leaves the exact rest.** -/
theorem point?_sub_ofInt_tdiv (h : x.point? = some (.finite q)) :
    (x.sub (ofInt (q.tdiv quantaPerOne))).point? = some (.finite (q.tmod quantaPerOne)) := by
  have hrest : q - q.tdiv quantaPerOne * quantaPerOne = q.tmod quantaPerOne := by
    have := (tdiv_mul_add_tmod_quantaPerOne q).1
    omega
  simp only [sub, h, point?_ofInt_tdiv h, Point.ofInt]
  rw [hrest]
  apply point?_ofQuanta
  rw [Int.natAbs_tmod, Int.natAbs_natCast]
  exact (representable_of_point? h).rest

end Binary64
end TableQuery
