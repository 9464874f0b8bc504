/-
# Numbers compare by exact value

Comparing an integer with a float goes through guards, a cut-off whole part and a difference of
floats, and every step of it works in 64 bits. None of them rounds (`compareIntFloat?_eq`): past the
guards the whole part is a signed word, an integer other than it is on one side of the float, since
what is cut off is less than one, and for the integer that is the whole part the sign of the exact
rest decides.

So numbers of all kinds compare as points, and hence as the exact values they denote
(`Number.compare?_eq`).
-/

import TableQuery.Proofs.Binary64.Arithmetic
import TableQuery.Proofs.Binary64.ExactValue
import TableQuery.Value.Number

namespace TableQuery

theorem compare_int64 (i j : Int64) : compare i j = compare i.toInt j.toInt := by
  change compareOfLessAndEq i j = compareOfLessAndEq i.toInt j.toInt
  simp only [compareOfLessAndEq, Int64.lt_iff_toInt_lt, Int64.toInt_inj]

namespace Number

/-- The point a number denotes, none if it is a NaN. -/
def point? : Number → Option Point
  | int i => some (Point.ofInt i.toInt)
  | float x => x.point?

/-- The exact value of a number, none of a NaN. -/
def exactValue : Number → Option ExactNumber
  | int i => some ((i.toInt : ℚ) : WithTop ℚ)
  | float x => x.exactValue

theorem exactValue_eq (a : Number) : a.exactValue = a.point?.map Point.exactValue := by
  cases a with
  | int i =>
    rw [exactValue, point?, Option.map_some, Point.ofInt, Point.exactValue_finite,
      Binary64.rationalOfQuanta_mul]
  | float x => exact x.exactValue_eq

/-- The numbers without a value are the NaNs. -/
theorem isNone_exactValue (a : Number) : a.exactValue.isNone = a.isNaN := by
  rw [exactValue_eq, Option.isNone_map, Bool.eq_iff_iff, Option.isNone_iff_eq_none]
  cases a with
  | int i => exact iff_of_false (Option.some_ne_none _) Bool.false_ne_true
  | float x => exact x.point?_eq_none_iff

/-! ### An integer and a float -/

/-- A power of two that is one or more, by its exponent bits. -/
theorem quantaOfBits_mul_exponentWeight (e : ℕ) :
    Binary64.quantaOfBits ((e + 1) * Binary64.exponentWeight) =
      Binary64.exponentWeight * 2 ^ e := by
  have hW : 0 < Binary64.exponentWeight := by decide
  rw [Binary64.quantaOfBits_eq, Nat.mul_div_cancel _ hW, Nat.mul_mod_left,
    if_neg (Nat.succ_ne_zero e), Nat.add_zero, Nat.add_sub_cancel]

/-- The guards stand at two to the power 63. -/
theorem point?_wordBound (negative : Bool) :
    (wordBound negative).point? =
      some (Point.ofInt (if negative then -2 ^ 63 else 2 ^ 63)) := by
  have hquanta : Binary64.quantaOfBits ((1023 + 63) * Binary64.exponentWeight) =
      2 ^ 63 * Binary64.quantaPerOne := by
    rw [show 1023 + 63 = 11 + Binary64.quantumPlaces + 1 from rfl, quantaOfBits_mul_exponentWeight,
      Binary64.exponentWeight_eq, Binary64.quantaPerOne_eq, Nat.pow_add, ← Nat.mul_assoc,
      ← Nat.pow_add]
  rw [wordBound, Binary64.point?_ofMagnitude negative (by decide), hquanta, Point.ofInt]
  cases negative
  · push_cast
    rfl
  · push_cast
    rw [if_pos rfl, if_pos rfl, neg_mul]

/-- An integer below the whole part is below the number, as the rest is less than one. -/
theorem compare_of_lt_tdiv {i q : ℤ} (h : i < q.tdiv Binary64.quantaPerOne) :
    compare (i * Binary64.quantaPerOne) q = .lt := by
  obtain ⟨hq, hlow, -⟩ := Binary64.tdiv_mul_add_tmod_quantaPerOne q
  have hmul := Int.mul_le_mul_of_nonneg_right (Int.add_one_le_of_lt h)
    (Int.natCast_nonneg Binary64.quantaPerOne)
  rw [Int.add_mul, Int.one_mul] at hmul
  rw [compare_lt_iff_lt]
  omega

/-- An integer above the whole part is above the number. -/
theorem compare_of_tdiv_lt {i q : ℤ} (h : q.tdiv Binary64.quantaPerOne < i) :
    compare (i * Binary64.quantaPerOne) q = .gt := by
  obtain ⟨hq, -, hhigh⟩ := Binary64.tdiv_mul_add_tmod_quantaPerOne q
  have hmul := Int.mul_le_mul_of_nonneg_right (Int.add_one_le_of_lt h)
    (Int.natCast_nonneg Binary64.quantaPerOne)
  rw [Int.add_mul, Int.one_mul] at hmul
  rw [compare_gt_iff_gt]
  omega

/-- The whole part compares with the number as zero does with the rest. -/
theorem compare_tdiv (q : ℤ) :
    compare (q.tdiv Binary64.quantaPerOne * Binary64.quantaPerOne) q =
      compare 0 (q.tmod Binary64.quantaPerOne) := by
  obtain ⟨hq, -, -⟩ := Binary64.tdiv_mul_add_tmod_quantaPerOne q
  rcases lt_trichotomy 0 (q.tmod Binary64.quantaPerOne) with h | h | h
  · rw [compare_lt_iff_lt.2 h, compare_lt_iff_lt]
    omega
  · rw [compare_eq_iff_eq.2 h, compare_eq_iff_eq]
    omega
  · rw [compare_gt_iff_gt.2 h, compare_gt_iff_gt]
    omega

/-- Between the guards the whole part is a signed word. -/
theorem tdiv_mem_words {q : ℤ} (hlow : -2 ^ 63 * (Binary64.quantaPerOne : ℤ) ≤ q)
    (hhigh : q < 2 ^ 63 * (Binary64.quantaPerOne : ℤ)) :
    Int64.minValue.toInt ≤ q.tdiv Binary64.quantaPerOne ∧
      q.tdiv Binary64.quantaPerOne ≤ Int64.maxValue.toInt := by
  have hmin : Int64.minValue.toInt = -2 ^ 63 := by decide
  have hmax : Int64.maxValue.toInt = 2 ^ 63 - 1 := by decide
  obtain ⟨hq, hrest, -⟩ := Binary64.tdiv_mul_add_tmod_quantaPerOne q
  rw [hmin, hmax]
  constructor
  · by_contra hlt
    have := compare_gt_iff_gt.1 (compare_of_tdiv_lt (not_le.1 hlt))
    omega
  · by_contra hlt
    have hmul := Int.mul_le_mul_of_nonneg_right
      (show 2 ^ 63 ≤ q.tdiv Binary64.quantaPerOne by omega)
      (Int.natCast_nonneg Binary64.quantaPerOne)
    have := Int.tmod_nonneg Binary64.quantaPerOne (show 0 ≤ q by omega)
    omega

/-- Between the guards, the whole part and then the rest decide. -/
theorem compare_truncate (i : Int64) {x : Binary64} {q : ℤ} (hx : x.point? = some (.finite q))
    (hlow : -2 ^ 63 * (Binary64.quantaPerOne : ℤ) ≤ q)
    (hhigh : q < 2 ^ 63 * (Binary64.quantaPerOne : ℤ)) :
    (match compare i x.truncate with
      | .eq => Binary64.zero.compare? (x.sub (Binary64.ofInt x.truncate.toInt))
      | order => some order) = some (compare (i.toInt * Binary64.quantaPerOne) q) := by
  obtain ⟨hmin, hmax⟩ := tdiv_mem_words hlow hhigh
  have hzero : Binary64.zero.point? = some (.finite 0) := by decide
  rw [compare_int64, Binary64.toInt_truncate hx hmin hmax]
  rcases lt_trichotomy i.toInt (q.tdiv Binary64.quantaPerOne) with h | h | h
  · rw [compare_lt_iff_lt.2 h, compare_of_lt_tdiv h]
  · rw [compare_eq_iff_eq.2 h, h, compare_tdiv, Binary64.compare?, hzero,
      Binary64.point?_sub_ofInt_tdiv hx]
    rfl
  · rw [compare_gt_iff_gt.2 h, compare_of_tdiv_lt h]

/-- **An integer and a float compare exactly**, although the comparison works in 64 bits. -/
theorem compareIntFloat?_eq (i : Int64) (x : Binary64) :
    compareIntFloat? i x = x.point?.map (compare (Point.ofInt i.toInt)) := by
  have hi := i.le_toInt
  have hi' := i.toInt_lt
  have hP : (0 : ℤ) < Binary64.quantaPerOne := by exact_mod_cast Binary64.quantaPerOne_pos
  rw [compareIntFloat?]
  cases hx : x.point? with
  | none => rw [if_pos ((x.point?_eq_none_iff).1 hx), Option.map_none]
  | some p =>
    have hnan : ¬x.isNaN = true := by
      rw [← x.point?_eq_none_iff, hx]
      exact Option.some_ne_none p
    have hbelow : x.isBelow (wordBound true) = (compare p (Point.ofInt (-2 ^ 63)) == .lt) := by
      simp [Binary64.isBelow, Binary64.compare?, hx, point?_wordBound]
    have habove : x.isAtLeast (wordBound false) = (compare p (Point.ofInt (2 ^ 63))).isGE := by
      rw [Binary64.isAtLeast, Binary64.compare?, hx, point?_wordBound]
      change (some (compare p (Point.ofInt (2 ^ 63))) == some .gt ||
        some (compare p (Point.ofInt (2 ^ 63))) == some .eq) = _
      cases compare p (Point.ofInt (2 ^ 63)) <;> rfl
    rw [if_neg hnan, hbelow, habove, Option.map_some]
    cases p with
    | negInf => rfl
    | posInf => rfl
    | finite q =>
      -- With its guards read as bounds on the quanta, the comparison has three cases.
      change (if (compare q (2 ^ 63 * (Binary64.quantaPerOne : ℤ))).isGE = true then _
        else if (compare q (-2 ^ 63 * (Binary64.quantaPerOne : ℤ)) == .lt) = true then _ else _) =
          some (compare (i.toInt * Binary64.quantaPerOne) q)
      simp only [Ordering.isGE_iff_ne_lt, beq_iff_eq, compare_lt_iff_lt, not_lt]
      split
      · rename_i hge
        have hmul := Int.mul_lt_mul_of_pos_right hi' hP
        rw [compare_lt_iff_lt.2 (hmul.trans_le hge)]
      · rename_i hlt
        split
        · rename_i hbelow
          have hmul := Int.mul_le_mul_of_nonneg_right hi hP.le
          rw [compare_gt_iff_gt.2 (hbelow.trans_le hmul)]
        · rename_i hge
          exact compare_truncate i hx (not_lt.1 hge) (not_le.1 hlt)

/-! ### Any two numbers -/

/-- Numbers compare as the points that they denote. -/
theorem compare?_eq_point? (a b : Number) :
    a.compare? b = do return compare (← a.point?) (← b.point?) := by
  cases a with
  | int i =>
    cases b with
    | int j => exact congrArg some ((compare_int64 i j).trans (Point.compare_ofInt _ _).symm)
    | float y =>
      rw [compare?, compareIntFloat?_eq, point?, point?]
      cases y.point? <;> rfl
  | float x =>
    cases b with
    | int j =>
      rw [compare?, compareIntFloat?_eq, point?, point?]
      cases x.point? with
      | none => rfl
      | some p => exact congrArg some Std.OrientedCmp.eq_swap.symm
    | float y => rfl

/-- **Numbers compare by exact value**, and the only ones without an order are NaNs. -/
theorem compare?_eq (a b : Number) :
    a.compare? b = do return compare (← a.exactValue) (← b.exactValue) := by
  rw [compare?_eq_point?, exactValue_eq, exactValue_eq]
  cases a.point? with
  | none => rfl
  | some p =>
    cases b.point? with
    | none => rfl
    | some r => exact congrArg some (Point.compare_exactValue p r).symm

end Number
end TableQuery
