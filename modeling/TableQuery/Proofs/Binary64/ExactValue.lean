/-
# The exact value of a float

A finite float denotes a rational number, read off its three fields: the fraction alone or under a
leading one, scaled by the exponent, with the sign (`Binary64.rational`). The infinities lie beyond
all rationals, and a NaN denotes nothing (`Binary64.exactValue`).

Quanta are another reading of the same bits, chosen because it stays within the integers. The two
agree (`exactValue_eq`), and the order of points is the order of the values (`compare_exactValue`).
-/

import TableQuery.Binary64.Arithmetic
import Mathlib

namespace TableQuery

/-- The rational line closed by its two infinities. -/
abbrev ExactNumber : Type := WithBot (WithTop ℚ)

namespace Binary64

/-- The fraction bits. -/
def fractionBits (x : Binary64) : ℕ := x.magnitudeBits % exponentWeight

/-- The exponent bits. -/
def exponentBits (x : Binary64) : ℕ := x.magnitudeBits / exponentWeight

/-- The size of a finite float. Where the exponent bits are zero the fraction is taken alone,
elsewhere it stands behind a leading one. -/
def rationalSize (x : Binary64) : ℚ :=
  if x.exponentBits = 0 then (x.fractionBits : ℚ) / 2 ^ 52 * (2 : ℚ) ^ (-1022 : ℤ)
  else (1 + (x.fractionBits : ℚ) / 2 ^ 52) * (2 : ℚ) ^ ((x.exponentBits : ℤ) - 1023)

/-- The rational number of a finite float. -/
def rational (x : Binary64) : ℚ := if x.isNegative then -x.rationalSize else x.rationalSize

/-- The exact value of a float, none of a NaN. -/
def exactValue (x : Binary64) : Option ExactNumber :=
  if x.isNaN then none
  else if x.magnitudeBits = infinityBits then some (if x.isNegative then ⊥ else ⊤)
  else some (x.rational : WithTop ℚ)

/-- The rational number of a number of quanta. -/
def rationalOfQuanta (q : ℤ) : ℚ := q / 2 ^ quantumPlaces

theorem rationalOfQuanta_strictMono : StrictMono rationalOfQuanta := by
  intro a b h
  have hab : (a : ℚ) < b := by exact_mod_cast h
  exact div_lt_div_of_pos_right hab (by positivity)

theorem rationalOfQuanta_neg (q : ℤ) : rationalOfQuanta (-q) = -rationalOfQuanta q := by
  rw [rationalOfQuanta, rationalOfQuanta, Int.cast_neg, neg_div]

/-- The rational number of an integer, in quanta. -/
theorem rationalOfQuanta_mul (i : ℤ) : rationalOfQuanta (i * quantaPerOne) = i := by
  rw [rationalOfQuanta, quantaPerOne, Nat.one_shiftLeft]
  push_cast
  exact mul_div_cancel_right₀ _ (by positivity)

/-- A power of two, measured in quanta. -/
theorem zpow_mul_two_pow_quantumPlaces (e : ℤ) :
    (2 : ℚ) ^ e * 2 ^ quantumPlaces = 2 ^ (e + 1074) := by
  rw [← zpow_natCast, ← zpow_add₀ two_ne_zero]
  rfl

/-- **The fields of a finite float denote its quanta.** -/
theorem rationalSize_eq (x : Binary64) :
    x.rationalSize = rationalOfQuanta (quantaOfBits x.magnitudeBits) := by
  have hW : (exponentWeight : ℚ) = 2 ^ 52 := by norm_num [exponentWeight]
  rw [rationalSize, rationalOfQuanta, eq_div_iff (by positivity), quantaOfBits, exponentBits,
    fractionBits]
  split
  · rename_i h0
    have hlt : x.magnitudeBits < exponentWeight :=
      (Nat.div_eq_zero_iff_lt (by norm_num [exponentWeight])).1 h0
    rw [Nat.mod_eq_of_lt hlt, mul_assoc, zpow_mul_two_pow_quantumPlaces,
      show (-1022 + 1074 : ℤ) = (52 : ℕ) by norm_num, zpow_natCast,
      div_mul_cancel₀ _ (by positivity)]
    rfl
  · rename_i h0
    obtain ⟨e, he⟩ := Nat.exists_eq_succ_of_ne_zero h0
    rw [he, Nat.shiftLeft_eq, Nat.succ_sub_one, mul_assoc, zpow_mul_two_pow_quantumPlaces,
      show ((e.succ : ℕ) : ℤ) - 1023 + 1074 = (52 : ℕ) + (e : ℕ) by push_cast; ring,
      zpow_add₀ two_ne_zero, zpow_natCast, zpow_natCast, ← mul_assoc, add_mul,
      div_mul_cancel₀ _ (by positivity), one_mul, Int.cast_natCast, Nat.cast_mul, Nat.cast_add, hW,
      Nat.cast_pow, Nat.cast_ofNat]

end Binary64

namespace Point

/-- The exact value of a point. -/
def exactValue : Point → ExactNumber
  | negInf => ⊥
  | finite q => ((Binary64.rationalOfQuanta q : ℚ) : WithTop ℚ)
  | posInf => ⊤

theorem exactValue_finite (q : ℤ) :
    (finite q).exactValue = ((Binary64.rationalOfQuanta q : ℚ) : WithTop ℚ) := rfl

/-- **Points are in the order of their values.** -/
theorem compare_exactValue (a b : Point) : compare a.exactValue b.exactValue = compare a b := by
  rw [compare_iff]
  rcases a with _ | a | _ <;> rcases b with _ | b | _
  · rfl
  · exact WithBot.bot_lt_coe _
  · exact WithBot.bot_lt_coe _
  · exact WithBot.bot_lt_coe _
  · have hmono := Binary64.rationalOfQuanta_strictMono
    change Ordering.Compares (compare a b) (finite a).exactValue (finite b).exactValue
    rcases lt_trichotomy a b with h | rfl | h
    · rw [compare_lt_iff_lt.2 h]
      exact WithBot.coe_lt_coe.2 (WithTop.coe_lt_coe.2 (hmono h))
    · rw [compare_eq_iff_eq.2 rfl]
      rfl
    · rw [compare_gt_iff_gt.2 h]
      exact WithBot.coe_lt_coe.2 (WithTop.coe_lt_coe.2 (hmono h))
  · exact WithBot.coe_lt_coe.2 (WithTop.coe_lt_top _)
  · exact WithBot.bot_lt_coe _
  · exact WithBot.coe_lt_coe.2 (WithTop.coe_lt_top _)
  · rfl

instance : Std.OrientedOrd Point where
  eq_swap {a b} := by
    rw [← compare_exactValue a b, ← compare_exactValue b a]
    exact Std.OrientedCmp.eq_swap

/-- The points of integers are in the order of the integers. -/
theorem compare_ofInt (i j : ℤ) : compare (ofInt i) (ofInt j) = compare i j := by
  have hP : (0 : ℤ) < Binary64.quantaPerOne := by exact_mod_cast Binary64.quantaPerOne_pos
  change compare (i * (Binary64.quantaPerOne : ℤ)) (j * (Binary64.quantaPerOne : ℤ)) = _
  rw [← cmp_eq_compare, ← cmp_eq_compare, (strictMono_mul_right_of_pos hP).cmp_map_eq]

end Point

namespace Binary64

/-- **The exact value of a float is that of its point.** -/
theorem exactValue_eq (x : Binary64) : x.exactValue = x.point?.map Point.exactValue := by
  rw [exactValue, isNaN, point?]
  rcases lt_trichotomy x.magnitudeBits infinityBits with h | h | h
  · rw [if_neg (by simpa using h.le), if_neg h.ne, if_pos h, Option.map_some,
      Point.exactValue_finite, rational, rationalSize_eq]
    split
    · rw [rationalOfQuanta_neg]
    · rfl
  · rw [if_neg (by simpa using h.le), if_pos h, if_neg h.not_lt, if_pos h, Option.map_some]
    split <;> rfl
  · rw [if_pos (by simpa using h), if_neg h.not_gt, if_neg h.ne']
    rfl

end Binary64
end TableQuery
