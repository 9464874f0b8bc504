/-
# Cells of one text

Texts are read back, so cells of one text that hold no string are equal, unless one holds an integer
and the other the float nearest to it (`Value.content_eq_or_nearest_of_text_eq`): the shortest text
of a float may be a whole number beyond its digits. Up to `2⁵³` every integer is a float, and there
the two are of one value (`Value.exactValue_ofInt`).

Against two numbers of different value a cell compares differently only if it reads as a number
from one to the other (`Value.liesBetween_of_looseCompare?_ne`), and for each operator one of the
two numbers does (`Comparison.exists_test_ne`).
-/

import TableQuery.Proofs.Text.ReadBack
import TableQuery.Proofs.Value.Congruence
import TableQuery.Value.Text

namespace TableQuery
namespace Value

variable {a b cell : Value}

/-! ### Reading a text back -/

/-- The text of a cell is read as a float only if the cell holds a number or a string. -/
theorem float?_text_eq_none (hstr : a.str? = none) (h : a.isNumber = false) :
    Numeral.float? a.text.toList = none := by
  cases a with
  | null => decide
  | bool b => cases b <;> decide
  | str s => cases hstr
  | _ => cases h

theorem float?_text_int (i : Int64) :
    Numeral.float? (int i).text.toList = some (.ofInt i.toInt) := by
  rw [text, String.toList_ofList, Numeral.float?_ofInt]

theorem exists_float?_text_float (x : Binary64) :
    ∃ y, Numeral.float? (float x).text.toList = some y ∧ y.point? = x.point? := by
  rw [text, String.toList_ofList]
  exact Numeral.exists_float?_text x

/-- What is a number shows in the text, as no other text but a string is read as a float. -/
theorem isNumber_of_text_eq (ha : a.str? = none) (hb : b.isNumber = true) (h : a.text = b.text) :
    a.isNumber = true := by
  by_contra hne
  have hnone := float?_text_eq_none ha (Bool.eq_false_iff.2 hne)
  rw [h] at hnone
  cases b with
  | int i =>
    rw [float?_text_int] at hnone
    cases hnone
  | float x =>
    obtain ⟨y, hy, -⟩ := exists_float?_text_float x
    rw [hy] at hnone
    cases hnone
  | _ => cases hb

/-- Integers of one text are the same. -/
theorem eq_of_text_int_eq {i j : Int64} (h : (int i).text = (int j).text) : i = j := by
  have hread : ∀ i : Int64, Numeral.int? (int i).text.toList = some i.toInt := by
    intro i
    rw [text, String.toList_ofList, Numeral.int?_ofInt]
  have heq := hread i
  rw [h, hread j, Option.some.injEq, Int64.toInt_inj] at heq
  exact heq.symm

/-- Floats of one text are at the same point. -/
theorem point?_eq_of_text_float_eq {x y : Binary64} (h : (float x).text = (float y).text) :
    x.point? = y.point? := by
  obtain ⟨z, hz, hx⟩ := exists_float?_text_float x
  obtain ⟨w, hw, hy⟩ := exists_float?_text_float y
  rw [h, hw, Option.some.injEq] at hz
  rw [← hx, ← hy, hz]

/-- A float that has the text of an integer is the nearest one. -/
theorem eq_ofInt_of_text_eq {i : Int64} {x : Binary64} (h : (int i).text = (float x).text) :
    x = .ofInt i.toInt := by
  obtain ⟨y, hy, hpoint⟩ := exists_float?_text_float x
  rw [← h, float?_text_int, Option.some.injEq] at hy
  have hnan : x.isNaN = false := by
    rw [Bool.eq_false_iff, ne_eq, ← x.point?_eq_none_iff, ← hpoint, ← hy,
      Binary64.point?_ofInt_int64]
    exact Option.some_ne_none _
  have hread : Numeral.float? (float x).text.toList = some x := by
    rw [text, String.toList_ofList, Numeral.float?_text hnan]
  rw [← h, float?_text_int] at hread
  exact (Option.some.inj hread).symm

/-- Whether `a` is an integer and `b` the float nearest to it. -/
def HasNearest (a b : Value) : Prop := ∃ i : Int64, a = int i ∧ b = float (.ofInt i.toInt)

/-- **Cells of one text that hold no string are equal,** or an integer and the nearest float. -/
theorem content_eq_or_nearest_of_text_eq (ha : a.str? = none) (hb : b.str? = none)
    (h : a.text = b.text) : a.content = b.content ∨ a.HasNearest b ∨ b.HasNearest a := by
  cases a with
  | str s => cases ha
  | int i =>
    cases b with
    | int j => exact .inl (by rw [eq_of_text_int_eq h])
    | float y => exact .inr (.inl ⟨i, rfl, by rw [eq_ofInt_of_text_eq h]⟩)
    | _ => cases isNumber_of_text_eq hb rfl h.symm
  | float x =>
    cases b with
    | int j => exact .inr (.inr ⟨j, rfl, by rw [eq_ofInt_of_text_eq h.symm]⟩)
    | float y => exact .inl (congrArg Sum.inr (point?_eq_of_text_float_eq h))
    | _ => cases isNumber_of_text_eq hb rfl h.symm
  | null =>
    cases b with
    | null => exact .inl rfl
    | bool y => cases y <;> exact absurd h (by decide)
    | str s => cases hb
    | _ => cases isNumber_of_text_eq ha rfl h
  | bool x =>
    cases b with
    | null => cases x <;> exact absurd h (by decide)
    | bool y => cases x <;> cases y <;> first | exact .inl rfl | exact absurd h (by decide)
    | str s => cases hb
    | _ => cases isNumber_of_text_eq ha rfl h

/-! ### An integer and the nearest float -/

/-- **An integer up to `2⁵³` is the float nearest to it.** -/
theorem exactValue_ofInt {i : Int64} (h : |i.toInt| ≤ 2 ^ 53) :
    (float (.ofInt i.toInt)).exactValue = (int i).exactValue := by
  have hsize : i.toInt.natAbs ≤ 2 ^ 53 := by
    rw [Int.abs_eq_natAbs] at h
    omega
  have hpoint := Binary64.point?_ofInt (Binary64.representable_mul_quantaPerOne hsize)
  calc (float (.ofInt i.toInt)).exactValue
      = (Binary64.ofInt i.toInt).point?.map Point.exactValue := Binary64.exactValue_eq _
    _ = (Number.int i).point?.map Point.exactValue := by rw [hpoint, Number.point?]
    _ = (int i).exactValue := (Number.int i).exactValue_eq.symm

/-- An integer and the float nearest to it are numbers that have exact values. -/
theorem exists_exactValue_of_nearest (h : a.HasNearest b ∨ b.HasNearest a) :
    a.isNumber = true ∧ b.isNumber = true ∧
      ∃ x y, a.exactValue = some x ∧ b.exactValue = some y := by
  have hfloat : ∀ i : Int64, ∃ x, (float (.ofInt i.toInt)).exactValue = some x := fun i =>
    ⟨_, (Binary64.exactValue_eq _).trans
      (congrArg (Option.map Point.exactValue) (Binary64.point?_ofInt_int64 i))⟩
  rcases h with ⟨i, rfl, rfl⟩ | ⟨i, rfl, rfl⟩
  · obtain ⟨y, hy⟩ := hfloat i
    exact ⟨rfl, rfl, _, y, rfl, hy⟩
  · obtain ⟨x, hx⟩ := hfloat i
    exact ⟨rfl, rfl, x, _, hx, rfl⟩

/-- The two are of different value only beyond `2⁵³`. -/
theorem exists_lt_abs_of_nearest (h : a.HasNearest b)
    (hne : a.exactValue ≠ b.exactValue) :
    ∃ i : Int64, 2 ^ 53 < |i.toInt| ∧ a = int i ∧ b = float (.ofInt i.toInt) := by
  obtain ⟨i, rfl, rfl⟩ := h
  exact ⟨i, not_le.1 fun hle => hne (exactValue_ofInt hle).symm, rfl, rfl⟩

/-! ### Comparing with two numbers -/

/-- The exact value of the number that a cell reads as, none if that is a NaN or there is none. -/
def readValue (v : Value) : Option ExactNumber := v.number?.bind Number.exactValue

theorem readValue_of_isNumber (h : a.isNumber = true) : a.readValue = a.exactValue := by
  cases a with
  | int _ | float _ => rfl
  | _ => cases h

/-- Cells that are not both strings have the loose order of the values that they read as. -/
theorem looseCompare?_eq_readValue (h : a.str? = none ∨ b.str? = none) :
    a.looseCompare? b = do return compare (← a.readValue) (← b.readValue) := by
  have hread : ∀ v : Value, v.readValue = v.point?.map Point.exactValue := by
    intro v
    rw [readValue, point?, Option.map_bind]
    exact congrArg _ (funext Number.exactValue_eq)
  rw [looseCompare?_eq_point? h, hread, hread]
  cases a.point? with
  | none => rfl
  | some p =>
    cases b.point? with
    | none => rfl
    | some r => exact congrArg some (Point.compare_exactValue p r).symm

theorem str?_of_isNumber (h : a.isNumber = true) : a.str? = none := by
  cases a with
  | str s => cases h
  | _ => rfl

/-- Whether a cell reads as a number from one of two numbers to the other, them included. -/
def LiesBetween (cell a b : Value) : Prop :=
  ∃ p x y, cell.readValue = some p ∧ a.exactValue = some x ∧ b.exactValue = some y ∧
    p ∈ Set.uIcc x y

/-- **Only what lies between two numbers has a different order with them.** -/
theorem liesBetween_of_looseCompare?_ne {x y : ExactNumber} (ha : a.isNumber = true)
    (hb : b.isNumber = true) (hx : a.exactValue = some x) (hy : b.exactValue = some y)
    (h : cell.looseCompare? a ≠ cell.looseCompare? b) : cell.LiesBetween a b := by
  rw [looseCompare?_eq_readValue (.inr (str?_of_isNumber ha)),
    looseCompare?_eq_readValue (.inr (str?_of_isNumber hb)), readValue_of_isNumber ha,
    readValue_of_isNumber hb, hx, hy] at h
  cases hp : cell.readValue with
  | none =>
    rw [hp] at h
    exact absurd rfl h
  | some p =>
    rw [hp] at h
    refine ⟨p, x, y, hp, hx, hy, ?_⟩
    by_contra hout
    refine h (congrArg some ?_)
    rw [Set.mem_uIcc, not_or, not_and, not_and] at hout
    rcases lt_or_ge p x with hpx | hpx
    · have hpy : p < y := not_le.1 fun hyp => hout.2 hyp hpx.le
      rw [compare_lt_iff_lt.2 hpx, compare_lt_iff_lt.2 hpy]
    · have hyp : y < p := not_le.1 fun hpy => hout.1 hpx hpy
      have hne : p ≠ x := by
        rintro rfl
        exact hout.2 hyp.le le_rfl
      rw [compare_gt_iff_gt.2 (hpx.lt_of_ne' hne), compare_gt_iff_gt.2 hyp]

/-- Numbers of one value have one order with every cell. -/
theorem looseCompare?_congr_exactValue (ha : a.isNumber = true) (hb : b.isNumber = true)
    (h : a.exactValue = b.exactValue) (cell : Value) :
    cell.looseCompare? a = cell.looseCompare? b := by
  rw [looseCompare?_eq_readValue (.inr (str?_of_isNumber ha)),
    looseCompare?_eq_readValue (.inr (str?_of_isNumber hb)), readValue_of_isNumber ha,
    readValue_of_isNumber hb, h]

end Value

namespace Comparison

variable {a b cell : Value}

/-- Against numbers the tests ask for nothing but the order. -/
theorem test_congr_looseCompare? (op : Comparison) (ha : a.isNumber = true)
    (hb : b.isNumber = true) (h : cell.looseCompare? a = cell.looseCompare? b) :
    op.test cell a = op.test cell b := by
  have hequal : cell.looseEq a = cell.looseEq b := by
    by_cases hcell : cell.isNumber = true
    · rw [Value.looseEq_eq_looseCompare? hcell ha, Value.looseEq_eq_looseCompare? hcell hb, h]
    · have hfalse : ∀ {v : Value}, v.isNumber = true → cell.looseEq v = false := by
        intro v hv
        rw [Bool.eq_false_iff]
        intro heq
        rcases Value.eq_or_isNumber_of_looseEq heq with rfl | ⟨hnumber, -⟩
        · exact hcell hv
        · exact hcell hnumber
      rw [hfalse ha, hfalse hb]
  cases op with
  | equal => exact hequal
  | notEqual => rw [test, test, hequal]
  | greater => rw [test, test, h]
  | less => rw [test, test, h]

/-- **Every operator tells numbers of different value apart,** by one of these numbers. -/
theorem exists_test_ne (op : Comparison) {x y : ExactNumber} (ha : a.isNumber = true)
    (hb : b.isNumber = true) (hx : a.exactValue = some x) (hy : b.exactValue = some y)
    (h : x ≠ y) : ∃ cell, op.test cell a ≠ op.test cell b := by
  have hself : ∀ {a : Value} {x : ExactNumber}, a.exactValue = some x →
      a.looseCompare? a = some .eq := by
    intro a x hx
    rw [Value.looseCompare?_of_exactValue hx hx, compare_eq_iff_eq.2 rfl]
  have hab := Value.looseCompare?_of_exactValue hx hy
  have hba := Value.looseCompare?_of_exactValue hy hx
  have heq : a.looseEq a = true ∧ a.looseEq b = false := by
    rw [Value.looseEq_eq_looseCompare? ha ha, Value.looseEq_eq_looseCompare? ha hb, hself hx, hab]
    exact ⟨rfl, by simpa using h⟩
  cases op with
  | equal => exact ⟨a, by simp [test, heq]⟩
  | notEqual => exact ⟨a, by simp [test, heq]⟩
  | greater =>
    rcases h.lt_or_gt with hlt | hgt
    · exact ⟨b, by simp [test, hba, hself hy, compare_gt_iff_gt.2 hlt]⟩
    · exact ⟨a, by simp [test, hab, hself hx, compare_gt_iff_gt.2 hgt]⟩
  | less =>
    rcases h.lt_or_gt with hlt | hgt
    · exact ⟨a, by simp [test, hab, hself hx, compare_lt_iff_lt.2 hlt]⟩
    · exact ⟨b, by simp [test, hba, hself hy, compare_lt_iff_lt.2 hgt]⟩

end Comparison
end TableQuery
