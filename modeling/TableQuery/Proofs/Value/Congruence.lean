/-
# Comparisons see no more than equality

Equal cells may hold different bits: the two zeros, or two NaNs. No comparison tells them apart.
Numbers compare by exact value, and a float has that of its point, so conditions answer alike on
equal cells and equal thresholds. Sorting compares by keys, and equal cells have one key.
-/

import TableQuery.Comparison
import TableQuery.Proofs.Value.Content
import TableQuery.Proofs.Value.SortOrder

namespace TableQuery

theorem Binary64.exactValue_congr {x y : Binary64} (h : x.point? = y.point?) :
    x.exactValue = y.exactValue := by
  rw [exactValue_eq, h, ← exactValue_eq]

theorem Number.compare?_congr {a a' b b' : Number} (ha : a.exactValue = a'.exactValue)
    (hb : b.exactValue = b'.exactValue) : a.compare? b = a'.compare? b' := by
  rw [compare?_eq, ha, hb, ← compare?_eq]

namespace Value

variable {a a' b b' : Value}

/-! ### Conditions -/

/-- On the left, floats at one point are loosely equal to the same cells and have one order with
them. -/
theorem loose_float_left {x y : Binary64} (h : x.point? = y.point?) (b : Value) :
    (float x).looseEq b = (float y).looseEq b ∧
      (float x).looseCompare? b = (float y).looseCompare? b := by
  have hnumber : ∀ n, (Number.float x).compare? n = (Number.float y).compare? n := fun n =>
    Number.compare?_congr (Binary64.exactValue_congr h) rfl
  cases b <;> simp [looseEq, looseCompare?, number?, isNumber, hnumber]

/-- On the right likewise. -/
theorem loose_float_right {x y : Binary64} (h : x.point? = y.point?) (a : Value) :
    a.looseEq (float x) = a.looseEq (float y) ∧
      a.looseCompare? (float x) = a.looseCompare? (float y) := by
  have hnumber : ∀ n : Number, n.compare? (.float x) = n.compare? (.float y) := fun n =>
    Number.compare?_congr rfl (Binary64.exactValue_congr h)
  cases a <;> simp [looseEq, looseCompare?, number?, isNumber, hnumber]

/-- **Equal cells compare loosely in one way.** -/
theorem loose_congr (ha : a.content = a'.content) (hb : b.content = b'.content) :
    a.looseEq b = a'.looseEq b' ∧ a.looseCompare? b = a'.looseCompare? b' := by
  have hleft : a.looseEq b = a'.looseEq b ∧ a.looseCompare? b = a'.looseCompare? b := by
    rcases eq_or_float_of_content_eq ha with rfl | ⟨x, y, rfl, rfl, h⟩
    · exact ⟨rfl, rfl⟩
    · exact loose_float_left h b
  have hright : a'.looseEq b = a'.looseEq b' ∧ a'.looseCompare? b = a'.looseCompare? b' := by
    rcases eq_or_float_of_content_eq hb with rfl | ⟨x, y, rfl, rfl, h⟩
    · exact ⟨rfl, rfl⟩
    · exact loose_float_right h a'
  exact ⟨hleft.1.trans hright.1, hleft.2.trans hright.2⟩

/-! ### Sorting -/

/-- What sorting sees of a cell: its rank, its exact value and its text. -/
def sortKey (a : Value) : ℕ × WithTop ExactNumber × String := (a.sortRank, a.magnitude, a.spelling)

/-- Keys are compared part by part. -/
def compareSortKeys (k l : ℕ × WithTop ExactNumber × String) : Ordering :=
  (compare k.1 l.1).then ((compare k.2.1 l.2.1).then (Collation.natural k.2.2 l.2.2))

theorem sortCompare_eq_compareSortKeys (a b : Value) :
    a.sortCompare b = compareSortKeys a.sortKey b.sortKey :=
  sortCompare_eq a b

/-- Equal cells have one exact value. -/
theorem exactValue_congr (h : a.content = b.content) : a.exactValue = b.exactValue := by
  rcases eq_or_float_of_content_eq h with rfl | ⟨x, y, rfl, rfl, hpoint⟩
  · rfl
  · exact Binary64.exactValue_congr hpoint

/-- **Equal cells have one key.** -/
theorem sortKey_congr (h : a.content = b.content) : a.sortKey = b.sortKey := by
  rw [sortKey, sortKey, magnitude, magnitude, exactValue_congr h]
  rcases eq_or_float_of_content_eq h with rfl | ⟨x, y, rfl, rfl, -⟩ <;> rfl

end Value

/-- **Equal cells pass the same tests,** also against equal thresholds. -/
theorem Comparison.test_congr (op : Comparison) {a a' b b' : Value} (ha : a.content = a'.content)
    (hb : b.content = b'.content) : op.test a b = op.test a' b' := by
  obtain ⟨heq, hcompare⟩ := Value.loose_congr ha hb
  cases op with
  | equal => exact heq
  | notEqual => rw [test, test, heq]
  | greater => rw [test, test, hcompare]
  | less => rw [test, test, hcompare]

end TableQuery
