/-
# Conditions and sorting compare numbers exactly

Loose comparison reads a cell as a number, and numbers compare by exact value. So two numeric cells
have the order of their exact values (`looseCompare?_of_isNumeric`), and are loosely equal if they
have one value (`looseEq_iff_of_isNumber`). A NaN has none, so it has no order and equals nothing.

Sorting gives such cells the same order, except that it puts NaNs last. Where neither cell holds one
the two comparisons agree, whatever kinds of numbers meet (`compare_exact`): no integer is rounded
to a float for it, and no fraction is lost.
-/

import TableQuery.Proofs.Value.SortOrder

namespace TableQuery
namespace Value

variable {a b : Value} {x y : ExactNumber}

theorem isNumeric_of_isNumber (h : a.isNumber = true) : a.isNumeric = true := by
  cases a <;> first | rfl | exact absurd h Bool.false_ne_true

/-- A numeric cell that is no NaN has an exact value. -/
theorem exists_exactValue (h : a.isNumeric = true) (hvalue : a.isNaN = false) :
    ∃ x, a.exactValue = some x := by
  rw [← Option.ne_none_iff_exists', ne_eq, exactValue_eq_none_iff h, hvalue]
  exact Bool.false_ne_true

theorem isNaN_of_exactValue (h : a.exactValue = some x) : a.isNaN = false := by
  rw [Bool.eq_false_iff, ne_eq, ← exactValue_eq_none_iff (isNumeric_of_exactValue h), h]
  exact Option.some_ne_none x

theorem isNull_of_isNumeric (h : a.isNumeric = true) : a.isNull = false := by
  cases a <;> first | rfl | exact absurd h Bool.false_ne_true

/-- A cell that is no string is empty, a NaN, or has an exact value. -/
theorem cases_of_str?_eq_none (h : a.str? = none) :
    a = null ∨ a.isNaN = true ∨ ∃ x, a.exactValue = some x := by
  by_cases hnan : a.isNaN = true
  · exact .inr (.inl hnan)
  · have hvalue := Bool.eq_false_iff.2 hnan
    cases a with
    | null => exact .inl rfl
    | str s => cases h
    | _ => exact .inr (.inr (exists_exactValue rfl hvalue))

/-- A numeric cell reads as a number, which has its exact value. -/
theorem exists_number? (h : a.isNumeric = true) :
    ∃ n, a.number? = some n ∧ n.exactValue = a.exactValue := by
  have hvalue := exactValue_number? h
  cases a with
  | null | str _ => exact absurd h Bool.false_ne_true
  | _ => exact ⟨_, rfl, hvalue⟩

/-- **Numeric cells have the loose order of their exact values**, and those without a value none. -/
theorem looseCompare?_of_isNumeric (ha : a.isNumeric = true) (hb : b.isNumeric = true) :
    a.looseCompare? b = do return compare (← a.exactValue) (← b.exactValue) := by
  have hnumbers : a.looseCompare? b =
      (do (← a.number?).compare? (← b.number?)) := by
    cases a with
    | null | str _ => exact absurd ha Bool.false_ne_true
    | _ =>
      cases b with
      | null | str _ => exact absurd hb Bool.false_ne_true
      | _ => rfl
  obtain ⟨m, hm, hmvalue⟩ := exists_number? ha
  obtain ⟨n, hn, hnvalue⟩ := exists_number? hb
  rw [hnumbers, hm, hn, ← hmvalue, ← hnvalue]
  exact m.compare?_eq n

theorem looseCompare?_of_exactValue (hx : a.exactValue = some x) (hy : b.exactValue = some y) :
    a.looseCompare? b = some (compare x y) := by
  rw [looseCompare?_of_isNumeric (isNumeric_of_exactValue hx) (isNumeric_of_exactValue hy), hx, hy]
  rfl

/-- A NaN has no loose order. -/
theorem looseCompare?_of_isNaN (ha : a.isNaN = true) (hb : b.isNumeric = true) :
    a.looseCompare? b = none := by
  have hnumeric := isNumeric_of_isNaN ha
  rw [looseCompare?_of_isNumeric hnumeric hb, (exactValue_eq_none_iff hnumeric).2 ha]
  rfl

/-- An empty cell has no loose order. -/
theorem looseCompare?_null (b : Value) : null.looseCompare? b = none := by
  cases b <;> rfl

/-- Sorting orders numeric cells by exact values, too. -/
theorem sortCompare_of_exactValue (hx : a.exactValue = some x) (hy : b.exactValue = some y) :
    a.sortCompare b = compare x y := by
  rw [sortCompare_of_isNumeric (isNumeric_of_exactValue hx) (isNumeric_of_exactValue hy), magnitude,
    magnitude, hx, hy, compare_orTop_some]

/-- Sorting puts numeric cells behind empty ones. -/
theorem sortCompare_null (h : a.isNumeric = true) : a.sortCompare null = .gt := by
  have hswap : a.sortCompare null = (null.sortCompare a).swap := Std.OrientedCmp.eq_swap
  rw [hswap, (sortCompare_null_isNumeric_str h).1]
  rfl

/-- Loose equality of numbers is loose order that finds no difference. -/
theorem looseEq_eq_looseCompare? (ha : a.isNumber = true) (hb : b.isNumber = true) :
    a.looseEq b = (a.looseCompare? b == some .eq) := by
  cases a with
  | int i =>
    cases b with
    | int j =>
      rw [Bool.eq_iff_iff, looseEq, looseCompare?, beq_iff_eq, beq_iff_eq, Option.some.injEq,
        compare_int64, compare_eq_iff_eq, Int64.toInt_inj]
    | float y => rfl
    | _ => exact absurd hb Bool.false_ne_true
  | float x =>
    cases b with
    | int j => rfl
    | float y => rfl
    | _ => exact absurd hb Bool.false_ne_true
  | _ => exact absurd ha Bool.false_ne_true

/-- **Numbers are loosely equal if they have one exact value.** -/
theorem looseEq_iff_of_isNumber (ha : a.isNumber = true) (hb : b.isNumber = true) :
    a.looseEq b = true ↔ ∃ x, a.exactValue = some x ∧ b.exactValue = some x := by
  rw [looseEq_eq_looseCompare? ha hb, looseCompare?_of_isNumeric (isNumeric_of_isNumber ha)
    (isNumeric_of_isNumber hb), beq_iff_eq]
  cases a.exactValue with
  | none => simp
  | some x =>
    cases b.exactValue with
    | none => simp
    | some y =>
      change some (compare x y) = some .eq ↔ _
      rw [Option.some.injEq, compare_eq_iff_eq]
      simp [eq_comm]

/-- **Numeric cells compare exactly,** whatever kinds of numbers meet: unless one of them is a NaN,
both have an exact value, and these values decide how the cells compare, in conditions and in
sorting. For integers and floats they also decide loose equality. -/
theorem compare_exact (ha : a.isNumeric = true) (hb : b.isNumeric = true)
    (hvalue : a.isNaN = false) (hvalue' : b.isNaN = false) :
    ∃ x y, a.exactValue = some x ∧ b.exactValue = some y ∧
      (a.isNumber = true → b.isNumber = true → (a.looseEq b = true ↔ x = y)) ∧
      a.looseCompare? b = some (compare x y) ∧ a.sortCompare b = compare x y := by
  obtain ⟨x, hx⟩ := exists_exactValue ha hvalue
  obtain ⟨y, hy⟩ := exists_exactValue hb hvalue'
  refine ⟨x, y, hx, hy, fun hanumber hbnumber => ?_, ?_, ?_⟩
  · rw [looseEq_iff_of_isNumber hanumber hbnumber, hx, hy]
    simp [eq_comm]
  · rw [looseCompare?_of_isNumeric ha hb, hx, hy]
    rfl
  · rw [sortCompare_of_isNumeric ha hb, magnitude, magnitude, hx, hy]
    exact compare_orTop_some x y

/-- The first integer that is no float is above the float to which it would be rounded. -/
theorem compare_exact_two_pow_53_add_one :
    let a := int 9007199254740993
    let b := float (.ofMagnitude false ((1023 + 53) * Binary64.exponentWeight))
    (a.isNumeric = true ∧ b.isNumeric = true ∧ a.isNaN = false ∧ b.isNaN = false) ∧
    a.looseEq b = false ∧ a.looseCompare? b = some .gt ∧ a.sortCompare b = .gt := by
  intro a b
  obtain ⟨hnan, hfinite, hsign, hexponent, hfraction⟩ :
      let x := Binary64.ofMagnitude false ((1023 + 53) * Binary64.exponentWeight)
      x.isNaN = false ∧ x.magnitudeBits ≠ Binary64.infinityBits ∧ x.isNegative = false ∧
        x.exponentBits = 1076 ∧ x.fractionBits = 0 := by decide
  have hb : b.exactValue = some ((9007199254740992 : ℚ) : WithTop ℚ) := by
    norm_num [b, exactValue, Binary64.exactValue, Binary64.rational, Binary64.rationalSize, hnan,
      hfinite, hsign, hexponent, hfraction]
  obtain ⟨x, y, hx, hy, heq, hloose, hsort⟩ := compare_exact (a := a) (b := b) rfl rfl rfl hnan
  obtain rfl : x = ((9007199254740993 : ℚ) : WithTop ℚ) := (Option.some.inj hx).symm
  obtain rfl := Option.some.inj (hb.symm.trans hy)
  have hlt : (((9007199254740992 : ℚ) : WithTop ℚ) : ExactNumber) <
      ((9007199254740993 : ℚ) : WithTop ℚ) :=
    WithBot.coe_lt_coe.2 (WithTop.coe_lt_coe.2 (by norm_num))
  have hgt := compare_gt_iff_gt.2 hlt
  refine ⟨⟨rfl, rfl, rfl, hnan⟩, ?_, by rw [hloose, hgt], by rw [hsort, hgt]⟩
  rw [Bool.eq_false_iff, ne_eq, heq rfl rfl]
  exact hlt.ne'

end Value
end TableQuery
