/-
# The shortest decimal rounds to its float

The decimal that stands for a float is searched for on coarser and then finer grids, and the last
grid holds the float itself. Each candidate is tested against the middles between the float and its
neighbours, so whatever the search finds is a quotient around the float (`encloses_shortest`), and
rounding it gives the float back.
-/

import TableQuery.Binary64.Shortest
import TableQuery.Proofs.Binary64.Nearest

namespace TableQuery

theorem tenPow_eq (k : ℕ) : tenPow k = 10 ^ k := rfl

namespace Decimal

/-- The quanta of a decimal times its denominator. -/
def numerator (d : Decimal) : ℕ :=
  d.digits * (Binary64.quantaPerOne * tenPow d.exponent.toNat)

/-- The power of ten that a decimal is divided by. -/
def denominator (d : Decimal) : ℕ := tenPow (-d.exponent).toNat

theorem denominator_pos (d : Decimal) : 0 < d.denominator := Nat.pow_pos (by decide)

end Decimal

namespace Binary64

variable {m num den : ℕ} {d : Decimal}

/-- The test that a candidate has to pass. -/
theorem encloses_iff (hm : 0 < m) :
    Encloses m num den ↔
      if m % 2 = 0 then
        (quantaOfBits m + quantaOfBits (m - 1)) * den ≤ 2 * num ∧
          2 * num ≤ (quantaOfBits m + quantaOfBits (m + 1)) * den
      else
        (quantaOfBits m + quantaOfBits (m - 1)) * den < 2 * num ∧
          2 * num < (quantaOfBits m + quantaOfBits (m + 1)) * den := by
  have hmiddle : quantaOfBits m + quantaOfBits (m - 1) = twiceMiddle (m - 1) := by
    rw [twiceMiddle, Nat.sub_add_cancel hm, Nat.add_comm]
  rw [hmiddle, ← twiceMiddle]
  constructor
  · rintro ⟨hlow, hhigh, hodd⟩
    split <;> omega
  · intro h
    split at h
    · exact ⟨h.1, h.2, by omega⟩
    · exact ⟨h.1.le, h.2.le, fun _ => ⟨h.1.ne, h.2.ne⟩⟩

/-- A float is around itself. -/
theorem encloses_quantaOfBits (hm : 0 < m) (hden : 0 < den) :
    Encloses m (quantaOfBits m * den) den := by
  have hbefore := Nat.mul_lt_mul_of_pos_right (quantaOfBits_lt_succ (m - 1)) hden
  have hafter := Nat.mul_lt_mul_of_pos_right (quantaOfBits_lt_succ m) hden
  rw [Nat.sub_add_cancel hm] at hbefore
  rw [encloses_iff hm, Nat.add_mul, Nat.add_mul]
  split <;> omega

/-- **What the search finds on a grid is around the float.** -/
theorem encloses_of_onGrid? {exponent : ℤ} (hm : 0 < m) (h : onGrid? m exponent = some d) :
    Encloses m d.numerator d.denominator := by
  have hrounds : ∀ digits : ℕ,
      (let twice := 2 * digits * (quantaPerOne * tenPow exponent.toNat)
        let low := (quantaOfBits m + quantaOfBits (m - 1)) * tenPow (-exponent).toNat
        let high := (quantaOfBits m + quantaOfBits (m + 1)) * tenPow (-exponent).toNat
        if m % 2 = 0 then decide (low ≤ twice ∧ twice ≤ high)
        else decide (low < twice ∧ twice < high)) = true →
      Encloses m (Decimal.numerator ⟨digits, exponent⟩)
        (Decimal.denominator ⟨digits, exponent⟩) := by
    intro digits h
    rw [encloses_iff hm, Decimal.numerator, Decimal.denominator, ← Nat.mul_assoc]
    dsimp only at h ⊢
    split at h
    · rename_i heven
      rw [if_pos heven]
      exact of_decide_eq_true h
    · rename_i hodd
      rw [if_neg hodd]
      exact of_decide_eq_true h
  simp only [onGrid?] at h
  split at h
  · rename_i hbelow habove
    split at h
    · exact Option.some.inj h ▸ hrounds _ hbelow
    · exact Option.some.inj h ▸ hrounds _ habove
  · rename_i hbelow _
    exact Option.some.inj h ▸ hrounds _ hbelow
  · rename_i _ habove
    exact Option.some.inj h ▸ hrounds _ habove
  · cases h

theorem encloses_shortestFrom (hm : 0 < m) (grids : ℕ) :
    Encloses m (shortestFrom m grids).numerator (shortestFrom m grids).denominator := by
  induction grids with
  | zero =>
    have hten : ∀ k : ℕ, Nat.pow 5 k * 2 ^ k = 10 ^ k := fun k => (Nat.mul_pow 5 2 k).symm
    have hnum : (shortestFrom m 0).numerator = quantaOfBits m * (shortestFrom m 0).denominator := by
      rw [shortestFrom, Decimal.numerator, Decimal.denominator]
      dsimp only
      rw [Int.toNat_neg_natCast, neg_neg, Int.toNat_natCast, quantaPerOne_eq, tenPow_eq, tenPow_eq,
        Nat.pow_zero, Nat.mul_one, Nat.mul_assoc]
      rw [hten]
    rw [hnum]
    exact encloses_quantaOfBits hm (Decimal.denominator_pos _)
  | succ grids ih =>
    rw [shortestFrom]
    cases h : onGrid? m _ with
    | none => exact ih
    | some d => exact encloses_of_onGrid? hm h

/-- **The shortest decimal of a float is around it.** -/
theorem encloses_shortest (hm : 0 < m) :
    Encloses m (shortest m).numerator (shortest m).denominator := encloses_shortestFrom hm _

/-- What is around a float is at least half a quantum. -/
theorem Encloses.le_two_mul (h : Encloses m num den) : den ≤ 2 * num := by
  have hpos : 1 ≤ twiceMiddle (m - 1) := by
    have := quantaOfBits_lt_succ (m - 1)
    rw [twiceMiddle]
    omega
  exact (Nat.le_mul_of_pos_left den hpos).trans h.low

/-- **A decimal around a float is rounded to it,** as it is too large to be cut off as zero. -/
theorem nearestBitsOfDecimal_of_encloses (hm : 0 < m) (hfinite : m < infinityBits)
    (hexponent : d.exponent ≤ 0) (h : Encloses m d.numerator d.denominator) :
    nearestBitsOfDecimal d = m := by
  have hnearest := nearestBits_of_encloses hm hfinite d.denominator_pos h
  have hsize := h.le_two_mul
  have hdigits : d.digits ≠ 0 := by
    intro h0
    have := d.denominator_pos
    rw [Decimal.numerator, h0, Nat.zero_mul] at hsize
    omega
  obtain ⟨digits, exponent⟩ := d
  rw [nearestBitsOfDecimal, if_neg hdigits]
  cases exponent with
  | ofNat e =>
    obtain rfl : e = 0 := Nat.le_zero.1 (Int.ofNat_le.1 hexponent)
    dsimp only
    rw [if_neg (by decide), Nat.mul_assoc, Nat.mul_comm (tenPow 0)]
    exact hnearest
  | negSucc k =>
    have hnum : (Decimal.mk digits (.negSucc k)).numerator = digits * quantaPerOne := by
      rw [Decimal.numerator]
      exact congrArg _ (Nat.mul_one _)
    have hden : (Decimal.mk digits (.negSucc k)).denominator = tenPow (k + 1) := rfl
    rw [hnum, hden] at hnearest hsize
    dsimp only
    rw [if_neg, hnearest]
    -- Eight is less than ten, and three binary digits are eight.
    intro hsmall
    have hlog : digits < 2 ^ (digits.log2 + 1) := Nat.lt_log2_self
    have hlt : tenPow (k + 1) < tenPow (k + 1) := by
      calc tenPow (k + 1) ≤ 2 * (digits * 2 ^ quantumPlaces) := quantaPerOne_eq ▸ hsize
        _ = digits * 2 ^ (quantumPlaces + 1) := by rw [Nat.pow_succ]; ring
        _ < 2 ^ (digits.log2 + 1) * 2 ^ (quantumPlaces + 1) :=
          Nat.mul_lt_mul_of_pos_right hlog (Nat.two_pow_pos _)
        _ = 2 ^ (digits.log2 + 1 + (quantumPlaces + 1)) := (Nat.pow_add ..).symm
        _ ≤ 2 ^ (3 * (k + 1)) :=
          Nat.pow_le_pow_right (by decide) (by unfold quantumPlaces; omega)
        _ = 8 ^ (k + 1) := Nat.pow_mul ..
        _ ≤ tenPow (k + 1) := Nat.pow_le_pow_left (by decide) _
    exact hlt.false

end Binary64
end TableQuery
