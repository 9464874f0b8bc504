/-
# Rounding keeps order

Of two numbers the larger one is never rounded to a smaller float. Quotients of equal denominators
are rounded in their order, and where the denominators differ, so do the exponents of the floats
(`nearestBits_mono`). More magnitude bits denote more quanta (`quantaOfBits_mono`).

So rounding is a map of the number line to itself that keeps order (`Point.round_mono`) and leaves
every point where it is that a float denotes (`round_point?`).
-/

import TableQuery.Proofs.Binary64.Arithmetic
import TableQuery.Proofs.Binary64.ExactValue

namespace TableQuery

/-- A rounded quotient is at most half a unit away from the quotient. -/
theorem divRound_near {n d : ℕ} (hd : 0 < d) :
    2 * n ≤ 2 * (d * divRound n d) + d ∧ 2 * (d * divRound n d) ≤ 2 * n + d := by
  have hn := Nat.div_add_mod n d
  have hr := Nat.mod_lt n hd
  rw [divRound]
  split
  · omega
  · rw [Nat.mul_add, Nat.mul_one]
    omega

/-- **Rounding a quotient keeps order.** -/
theorem divRound_mono {n n' d : ℕ} (hd : 0 < d) (h : n ≤ n') : divRound n d ≤ divRound n' d := by
  obtain ⟨-, hup⟩ := divRound_near (n := n) hd
  obtain ⟨hlow, -⟩ := divRound_near (n := n') hd
  by_contra hlt
  -- A whole unit between two roundings leaves only the middle for both numbers.
  have hstep := Nat.mul_le_mul_left d (Nat.succ_le_of_lt (not_le.1 hlt))
  rw [Nat.mul_succ] at hstep
  have heq : n = n' := by omega
  exact hlt (heq ▸ Nat.le_refl _)

namespace Binary64

/-- The binary digits of a number of quanta that a float has no place for. -/
def surplusDigits (q : ℕ) : ℕ := q.log2 - 52

theorem nearestBits_eq (q : ℕ) :
    nearestBits q 1 = min (surplusDigits q * exponentWeight + divRound q (2 ^ surplusDigits q))
      infinityBits := by
  rw [nearestBits, Nat.div_one, Nat.one_shiftLeft]
  rfl

theorem surplusDigits_mono {q q' : ℕ} (h : q ≤ q') : surplusDigits q ≤ surplusDigits q' := by
  have hlog : q.log2 ≤ q'.log2 := by
    rw [Nat.log2_eq_log_two, Nat.log2_eq_log_two]
    exact Nat.log_mono_right h
  unfold surplusDigits
  omega

/-- Without the surplus at most 53 digits are left, -/
theorem lt_mul_surplus (q : ℕ) : q < 2 * exponentWeight * 2 ^ surplusDigits q := by
  have hlog : q < 2 ^ (q.log2 + 1) := Nat.lt_log2_self
  have hW : 2 * exponentWeight = 2 ^ 53 := by decide
  rw [hW, ← Nat.pow_add]
  refine hlog.trans_le (Nat.pow_le_pow_right (by decide) ?_)
  unfold surplusDigits
  omega

/-- and all 53 of them if there is a surplus. -/
theorem mul_surplus_le {q : ℕ} (h : 0 < surplusDigits q) :
    exponentWeight * 2 ^ surplusDigits q ≤ q := by
  have hq : q ≠ 0 := by
    rintro rfl
    exact absurd h (by decide)
  unfold surplusDigits at h ⊢
  rw [exponentWeight_eq, ← Nat.pow_add, show 52 + (q.log2 - 52) = q.log2 by omega]
  exact Nat.log2_self_le hq

/-- **Rounding to magnitude bits keeps order.** A number with more surplus digits than another one
has a larger exponent, however they are rounded. -/
theorem nearestBits_mono {q q' : ℕ} (h : q ≤ q') : nearestBits q 1 ≤ nearestBits q' 1 := by
  rw [nearestBits_eq, nearestBits_eq]
  refine min_le_min_right _ ?_
  have hpos : ∀ s : ℕ, 0 < 2 ^ s := Nat.two_pow_pos
  rcases (surplusDigits_mono h).eq_or_lt with hs | hs
  · rw [hs]
    exact Nat.add_le_add_left (divRound_mono (hpos _) h) _
  · have hhigh : divRound q (2 ^ surplusDigits q) ≤ 2 * exponentWeight := by
      rw [← divRound_mul (hpos _) (2 * exponentWeight)]
      exact divRound_mono (hpos _) (lt_mul_surplus q).le
    have hlow : exponentWeight ≤ divRound q' (2 ^ surplusDigits q') := by
      rw [← divRound_mul (hpos (surplusDigits q')) exponentWeight]
      exact divRound_mono (hpos _) (mul_surplus_le (by omega))
    have hexp := Nat.mul_le_mul_right exponentWeight (Nat.succ_le_of_lt hs)
    rw [Nat.succ_mul] at hexp
    omega

/-- **Larger magnitude bits denote more quanta.** -/
theorem quantaOfBits_mono {m m' : ℕ} (h : m ≤ m') : quantaOfBits m ≤ quantaOfBits m' := by
  have hW : 0 < exponentWeight := by decide
  have hf := Nat.mod_lt m hW
  have hsplit := Nat.div_add_mod m exponentWeight
  have hsplit' := Nat.div_add_mod m' exponentWeight
  have hexp : m / exponentWeight ≤ m' / exponentWeight := Nat.div_le_div_right h
  rw [quantaOfBits_eq, quantaOfBits_eq]
  rcases hexp.eq_or_lt with he | he
  · rw [he] at hsplit ⊢
    split
    · exact h
    · exact Nat.mul_le_mul_right _ (by omega)
  · rw [if_neg (Nat.ne_zero_of_lt he)]
    -- The leading one at the next exponent is as much as all fractions at this one.
    have hnext : exponentWeight * 2 ^ (m / exponentWeight) ≤
        (exponentWeight + m' % exponentWeight) * 2 ^ (m' / exponentWeight - 1) :=
      Nat.mul_le_mul (Nat.le_add_right _ _) (Nat.pow_le_pow_right (by decide) (by omega))
    refine le_trans ?_ hnext
    split
    · rename_i h0
      rw [h0] at hsplit ⊢
      omega
    · rename_i h0
      obtain ⟨e, he⟩ := Nat.exists_eq_succ_of_ne_zero h0
      rw [he, Nat.succ_sub_one, Nat.pow_succ, Nat.mul_comm _ 2, ← Nat.mul_assoc]
      exact Nat.mul_le_mul_right _ (by omega)

/-- The number of quanta that a float nearest to `q` quanta holds. -/
def roundQuanta (q : ℤ) : ℤ :=
  if q < 0 then -(quantaOfBits (nearestBits q.natAbs 1) : ℤ)
  else quantaOfBits (nearestBits q.natAbs 1)

/-- **Rounding keeps order,** also across zero. -/
theorem roundQuanta_mono : Monotone roundQuanta := by
  intro q q' h
  have hbits : ∀ {a b : ℕ}, a ≤ b →
      (quantaOfBits (nearestBits a 1) : ℤ) ≤ quantaOfBits (nearestBits b 1) := by
    intro a b hab
    exact_mod_cast quantaOfBits_mono (nearestBits_mono hab)
  rw [roundQuanta, roundQuanta]
  split
  · split
    · have := hbits (show q'.natAbs ≤ q.natAbs by omega)
      omega
    · omega
  · rw [if_neg (by omega)]
    exact hbits (by omega)

theorem roundQuanta_of_representable {q : ℤ} (h : Representable q.natAbs) : roundQuanta q = q := by
  rw [roundQuanta, (quantaOfBits_nearestBits h).2]
  split <;> omega

end Binary64

namespace Point

/-- A point of the number line rounded to one that a float denotes. -/
def round : Point → Point
  | finite quanta => finite (Binary64.roundQuanta quanta)
  | p => p

/-- **Rounding points keeps their order.** -/
theorem round_mono {p r : Point} (h : compare p r ≠ .gt) : compare p.round r.round ≠ .gt := by
  have hlt : Ordering.lt ≠ .gt := by decide
  have heq : Ordering.eq ≠ .gt := by decide
  cases p with
  | negInf =>
    cases r with
    | negInf => exact heq
    | _ => exact hlt
  | finite a =>
    cases r with
    | negInf => exact absurd rfl h
    | finite b => exact compare_le_iff_le.2 (Binary64.roundQuanta_mono (compare_le_iff_le.1 h))
    | posInf => exact hlt
  | posInf =>
    cases r with
    | posInf => exact heq
    | _ => exact absurd rfl h

/-- **Rounding may take a difference away, and does nothing else to an order.** -/
theorem compare_round (p r : Point) :
    compare p.round r.round = .eq ∨ compare p.round r.round = compare p r := by
  cases hround : compare p.round r.round with
  | eq => exact .inl rfl
  | gt =>
    have hgt : compare p r = .gt := not_not.1 fun hne => round_mono hne hround
    exact .inr hgt.symm
  | lt =>
    have hgt : compare r p = .gt :=
      not_not.1 fun hne => round_mono hne (Std.OrientedCmp.gt_iff_lt.2 hround)
    exact .inr (Std.OrientedCmp.gt_iff_lt.1 hgt).symm

end Point

namespace Binary64

/-- What a float denotes needs no rounding. -/
theorem round_point? (x : Binary64) : x.point?.map Point.round = x.point? := by
  cases h : x.point? with
  | none => rfl
  | some p =>
    cases p with
    | finite q =>
      rw [Option.map_some, Point.round, roundQuanta_of_representable (representable_of_point? h)]
    | _ => rfl

/-- The largest size of a signed word is a float, so no word is rounded to an infinity. -/
theorem nearestBits_int64_lt (i : Int64) :
    nearestBits (i.toInt.natAbs * quantaPerOne) 1 < infinityBits := by
  have hbound : Representable (2 ^ 63 * quantaPerOne) :=
    representable_two_pow_mul_quantaPerOne (by decide)
  have hi := i.le_toInt
  have hi' := i.toInt_lt
  have hle : i.toInt.natAbs * quantaPerOne ≤ 2 ^ 63 * quantaPerOne :=
    Nat.mul_le_mul_right _ (by omega)
  exact (nearestBits_mono hle).trans_lt (quantaOfBits_nearestBits hbound).1

/-- **A signed word is rounded to the float of its rounded point.** -/
theorem point?_ofInt_int64 (i : Int64) :
    (ofInt i.toInt).point? = some (Point.ofInt i.toInt).round := by
  have hP : (0 : ℤ) < quantaPerOne := by exact_mod_cast quantaPerOne_pos
  have hsign : i.toInt * (quantaPerOne : ℤ) < 0 ↔ i.toInt < 0 := by
    rw [mul_neg_iff]
    omega
  rw [ofInt, point?_ofMagnitude _ (nearestBits_int64_lt i), Point.ofInt, Point.round, roundQuanta,
    Int.natAbs_mul, Int.natAbs_natCast]
  simp only [hsign, decide_eq_true_eq]

end Binary64
end TableQuery
