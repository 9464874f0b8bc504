/-
# Runs of digits as numbers

Collation compares two runs of digits without reading them as numbers, so runs may be of any length:
leading zeros dropped, the longer run is the larger one, and runs of one length compare digit by
digit. That is the order of the numbers that they denote (`compareRuns_eq_compare_valueOfDigits`).
A run of `n` digits that all count is at least `10 ^ (n - 1)` and below `10 ^ n`, so lengths decide
first; and in runs of one length the first digit outweighs all behind it.
-/

import TableQuery.Proofs.Collation.StrictOrder
import TableQuery.Text.Numeral
import Mathlib.Tactic.Ring

namespace TableQuery
namespace Collation

open Std Numeral

theorem valueOfDigits_eq_ofDigitChars (l : List Char) : valueOfDigits l = Nat.ofDigitChars 10 l 0 :=
  Nat.ofDigitChars_eq_foldl.symm

theorem valueOfDigits_cons (c : Char) (l : List Char) :
    valueOfDigits (c :: l) = (c.toNat - 48) * 10 ^ l.length + valueOfDigits l := by
  rw [valueOfDigits_eq_ofDigitChars, Nat.ofDigitChars_cons, Nat.ofDigitChars_eq_ofDigitChars_zero,
    ← valueOfDigits_eq_ofDigitChars, Nat.mul_zero, Nat.zero_add, Nat.mul_comm]
  rfl

theorem valueOfDigits_significant (l : List Char) :
    valueOfDigits (significant l) = valueOfDigits l := by
  conv => rhs; rw [← replicate_append_significant l]
  rw [valueOfDigits_eq_ofDigitChars, valueOfDigits_eq_ofDigitChars, Nat.ofDigitChars_append,
    Nat.ofDigitChars_replicate_zero, Nat.mul_zero]

theorem valueOfDigits_lt {l : List Char} (h : l.all Char.isDigit = true) :
    valueOfDigits l < 10 ^ l.length := by
  induction l with
  | nil => exact Nat.one_pos
  | cons c l ih =>
    rw [List.all_cons, Bool.and_eq_true, Text.isDigit_iff] at h
    have hdigit : c.toNat - 48 ≤ 9 := by omega
    have hrest := ih h.2
    have hle := Nat.mul_le_mul_right (10 ^ l.length) hdigit
    rw [valueOfDigits_cons, List.length_cons, Nat.pow_succ]
    omega

/-- A run whose first digit counts is at least a power of ten. -/
theorem le_valueOfDigits {c : Char} {l : List Char} (hc : c.isDigit = true) (hne : c ≠ '0') :
    10 ^ l.length ≤ valueOfDigits (c :: l) := by
  have hzero : c.toNat ≠ 48 := fun h => hne (Char.toNat_inj.1 h)
  rw [Text.isDigit_iff] at hc
  have hdigit : 1 ≤ c.toNat - 48 := by omega
  have hle := Nat.mul_le_mul_right (10 ^ l.length) hdigit
  rw [valueOfDigits_cons]
  omega

/-- Numbers of two digits in a base compare digit by digit. -/
theorem compare_mul_add {n u v : ℕ} (hu : u < n) (hv : v < n) (a b : ℕ) :
    compare (a * n + u) (b * n + v) = (compare a b).then (compare u v) := by
  rcases Nat.lt_trichotomy a b with hlt | rfl | hgt
  · have hle := Nat.mul_le_mul_right n (Nat.succ_le_of_lt hlt)
    rw [Nat.succ_mul] at hle
    rw [Nat.compare_eq_lt.2 hlt, Nat.compare_eq_lt.2 (by omega)]
    rfl
  · rw [Nat.compare_eq_eq.2 rfl, Ordering.eq_then]
    rcases Nat.lt_trichotomy u v with hlt | rfl | hgt
    · rw [Nat.compare_eq_lt.2 hlt, Nat.compare_eq_lt.2 (by omega)]
    · rw [Nat.compare_eq_eq.2 rfl, Nat.compare_eq_eq.2 rfl]
    · rw [Nat.compare_eq_gt.2 hgt, Nat.compare_eq_gt.2 (by omega)]
  · have hle := Nat.mul_le_mul_right n (Nat.succ_le_of_lt hgt)
    rw [Nat.succ_mul] at hle
    rw [Nat.compare_eq_gt.2 hgt, Nat.compare_eq_gt.2 (by omega)]
    rfl

/-- Digits compare as the numbers they denote. -/
theorem compare_digit {c d : Char} (hc : c.isDigit = true) (hd : d.isDigit = true) :
    compare c d = compare (c.toNat - 48) (d.toNat - 48) := by
  rw [Text.isDigit_iff] at hc hd
  rcases Nat.lt_trichotomy c.toNat d.toNat with hlt | heq | hgt
  · rw [compare_char_of_lt hlt, Nat.compare_eq_lt.2 (by omega)]
  · obtain rfl := Char.toNat_inj.1 heq
    have hself : compare c c = .eq := ReflCmp.compare_self
    rw [hself, Nat.compare_eq_eq.2 rfl]
  · rw [OrientedCmp.gt_of_lt (compare_char_of_lt hgt), Nat.compare_eq_gt.2 (by omega)]

/-- Runs of one length compare digit by digit. -/
theorem compare_eq_compare_valueOfDigits {l r : List Char} (hl : l.all Char.isDigit = true)
    (hr : r.all Char.isDigit = true) (h : l.length = r.length) :
    compare l r = compare (valueOfDigits l) (valueOfDigits r) := by
  induction l generalizing r with
  | nil =>
    obtain rfl := List.length_eq_zero_iff.1 h.symm
    rfl
  | cons c l ih =>
    cases r with
    | nil => cases h
    | cons d r =>
      rw [List.all_cons, Bool.and_eq_true] at hl hr
      have hlength : l.length = r.length := Nat.succ.inj h
      have hlt := valueOfDigits_lt hl.2
      rw [hlength] at hlt
      rw [List.compare_cons_cons, ih hl.2 hr.2 hlength, compare_digit hl.1 hr.1,
        valueOfDigits_cons, valueOfDigits_cons, hlength,
        compare_mul_add hlt (valueOfDigits_lt hr.2)]

theorem all_isDigit_significant {l : List Char} (h : l.all Char.isDigit = true) :
    (significant l).all Char.isDigit = true :=
  List.all_eq_true.2 fun c hc => List.all_eq_true.1 h c ((List.dropWhile_suffix _).subset hc)

/-- The first digit that counts is not a zero. -/
theorem ne_zero_of_significant {c : Char} {l digits : List Char} (h : significant l = c :: digits) :
    c ≠ '0' := by
  have := List.head?_dropWhile_not (· == '0') l
  rw [significant] at h
  rw [h] at this
  simpa using this

/-- The run with more digits that count is the larger number. -/
theorem valueOfDigits_lt_of_length_significant_lt {l r : List Char}
    (hl : l.all Char.isDigit = true) (hr : r.all Char.isDigit = true)
    (h : (significant l).length < (significant r).length) : valueOfDigits l < valueOfDigits r := by
  rw [← valueOfDigits_significant l, ← valueOfDigits_significant r]
  have hr := all_isDigit_significant hr
  cases hd : significant r with
  | nil =>
    rw [hd] at h
    exact absurd h (Nat.not_lt_zero _)
  | cons d digits =>
    rw [hd, List.all_cons, Bool.and_eq_true] at hr
    rw [hd] at h
    calc valueOfDigits (significant l) < 10 ^ (significant l).length :=
          valueOfDigits_lt (all_isDigit_significant hl)
      _ ≤ 10 ^ digits.length := Nat.pow_le_pow_right (by omega) (Nat.le_of_lt_succ h)
      _ ≤ valueOfDigits (d :: digits) := le_valueOfDigits hr.1 (ne_zero_of_significant hd)

/-- **Runs compare as the numbers they denote.** -/
theorem compareRuns_eq_compare_valueOfDigits {l r : List Char} (hl : l.all Char.isDigit = true)
    (hr : r.all Char.isDigit = true) :
    compareRuns l r = compare (valueOfDigits l) (valueOfDigits r) := by
  rw [compareRuns_eq]
  rcases Nat.lt_trichotomy (significant l).length (significant r).length with hlt | heq | hgt
  · have hvalue := valueOfDigits_lt_of_length_significant_lt hl hr hlt
    rw [Nat.compare_eq_lt.2 hlt, Nat.compare_eq_lt.2 hvalue]
    rfl
  · rw [Nat.compare_eq_eq.2 heq, Ordering.eq_then,
      compare_eq_compare_valueOfDigits (all_isDigit_significant hl) (all_isDigit_significant hr)
        heq,
      valueOfDigits_significant, valueOfDigits_significant]
  · have hvalue := valueOfDigits_lt_of_length_significant_lt hr hl hgt
    rw [Nat.compare_eq_gt.2 hgt, Nat.compare_eq_gt.2 hvalue]
    rfl

end Collation
end TableQuery
