/-
# The order of sorting

Sorting compares cells by three keys in turn: the rank of the kind, the exact value of a number, and
the text of a string (`sortCompare_eq`). The second key puts what is not a number on top of all
values, which is the place of a NaN. Where a rank has no use for a key, all its cells have one.

Each key is compared by a total preorder, so sorting compares by one as well, and two cells are
equal to it exactly if the three keys are.
-/

import TableQuery.Proofs.Collation.StrictOrder
import TableQuery.Proofs.Value.NumberOrder
import TableQuery.Value.Order

namespace TableQuery

/-- Comparing by a key is as good as comparing keys. -/
theorem transCmp_on {α β : Type} (cmp : β → β → Ordering) [Std.TransCmp cmp] (key : α → β) :
    Std.TransCmp fun a b => cmp (key a) (key b) where
  eq_swap := Std.OrientedCmp.eq_swap
  isLE_trans := Std.TransCmp.isLE_trans

namespace Value

/-- Whether the cell holds a number or a boolean. -/
def isNumeric : Value → Bool
  | bool _ | int _ | float _ => true
  | null | str _ => false

/-- Whether the cell holds a float that is not a number. -/
def isNaN : Value → Bool
  | float x => x.isNaN
  | _ => false

/-- The exact value of a number or a boolean, none of a NaN and of other cells. -/
def exactValue : Value → Option ExactNumber
  | bool b => some ((if b then 1 else 0 : ℚ) : WithTop ℚ)
  | int i => some ((i.toInt : ℚ) : WithTop ℚ)
  | float x => x.exactValue
  | null | str _ => none

/-! ### The three keys -/

/-- A value as a key: what has none stands above all values. -/
def orTop (value? : Option ExactNumber) : WithTop ExactNumber := value?.elim ⊤ WithTop.some

theorem compare_orTop_some (p q : ExactNumber) :
    compare (orTop (some p)) (orTop (some q)) = compare p q := by
  change compare (p : WithTop ExactNumber) (q : WithTop ExactNumber) = _
  rw [← cmp_eq_compare, ← cmp_eq_compare, WithTop.coe_strictMono.cmp_map_eq]

/-- The key of numeric cells. -/
def magnitude (a : Value) : WithTop ExactNumber := orTop a.exactValue

/-- The text of a string, and the empty one of other cells. -/
def spelling : Value → String
  | str s => s
  | null | bool _ | int _ | float _ => ""

/-- Numbers compare by value, and a NaN goes last. -/
theorem compareNaNLast_eq (a b : Number) :
    compareNaNLast a b = compare (orTop a.exactValue) (orTop b.exactValue) := by
  rw [compareNaNLast, ← a.isNone_exactValue, ← b.isNone_exactValue, Number.compare?_eq]
  cases a.exactValue with
  | none =>
    cases b.exactValue with
    | none => exact (compare_eq_iff_eq.2 rfl).symm
    | some q => exact (compare_gt_iff_gt.2 (WithTop.coe_lt_top q)).symm
  | some p =>
    cases b.exactValue with
    | none => exact (compare_lt_iff_lt.2 (WithTop.coe_lt_top p)).symm
    | some q => exact (compare_orTop_some p q).symm

/-- The number that a numeric cell is compared as has its exact value. -/
theorem exactValue_number? {a : Value} (h : a.isNumeric = true) :
    (a.number?.getD (.float .nan)).exactValue = a.exactValue := by
  cases a with
  | bool b => cases b <;> simp [number?, exactValue, Number.exactValue]
  | int i => rfl
  | float x => rfl
  | null => exact absurd h Bool.false_ne_true
  | str s => exact absurd h Bool.false_ne_true

/-- Cells of different ranks compare by rank. -/
theorem sortCompare_of_sortRank_ne {a b : Value} (h : a.sortRank ≠ b.sortRank) :
    a.sortCompare b = compare a.sortRank b.sortRank := by
  cases a <;> cases b <;> first | exact absurd rfl h | rfl

/-- Numeric cells compare by exact value. -/
theorem sortCompare_of_isNumeric {a b : Value} (ha : a.isNumeric = true)
    (hb : b.isNumeric = true) : a.sortCompare b = compare a.magnitude b.magnitude := by
  have hnumbers : compareNaNLast (a.number?.getD (.float .nan)) (b.number?.getD (.float .nan)) =
      compare a.magnitude b.magnitude := by
    rw [compareNaNLast_eq, exactValue_number? ha, exactValue_number? hb]
    rfl
  rw [← hnumbers]
  cases a <;> cases b <;> first
    | exact absurd ha Bool.false_ne_true
    | exact absurd hb Bool.false_ne_true
    | rfl

/-- **The three keys of sorting.** -/
theorem sortCompare_eq (a b : Value) :
    a.sortCompare b =
      (compare a.sortRank b.sortRank).then
        ((compare a.magnitude b.magnitude).then (Collation.natural a.spelling b.spelling)) := by
  have hempty : Collation.natural "" "" = .eq := Std.ReflCmp.compare_self
  by_cases h : a.sortRank = b.sortRank
  · rw [compare_eq_iff_eq.2 h, Ordering.eq_then]
    cases a with
    | null =>
      cases b with
      | null => rw [spelling, hempty, Ordering.then_eq, compare_eq_iff_eq.2 rfl, sortCompare]
      | _ => cases h
    | str s =>
      cases b with
      | str t =>
        have htop : compare (str s).magnitude (str t).magnitude = .eq := compare_eq_iff_eq.2 rfl
        rw [htop, Ordering.eq_then, sortCompare, spelling, spelling]
      | _ => cases h
    | _ =>
      cases b with
      | null | str _ => cases h
      | _ => rw [sortCompare_of_isNumeric rfl rfl, spelling, spelling, hempty, Ordering.then_eq]
  · rw [sortCompare_of_sortRank_ne h, Collation.then_of_ne_eq]
    rwa [ne_eq, compare_eq_iff_eq]

/-! ### A total preorder -/

instance : Std.TransCmp (fun a b : Value => Collation.natural a.spelling b.spelling) :=
  transCmp_on _ spelling

instance : Std.TransCmp sortCompare := by
  have : sortCompare = compareLex (compareOn sortRank)
      (compareLex (compareOn magnitude) fun a b => Collation.natural a.spelling b.spelling) := by
    funext a b
    exact sortCompare_eq a b
  rw [this]
  infer_instance

/-- Cells are equal to sorting exactly if their keys are. -/
theorem sortCompare_eq_eq_iff (a b : Value) :
    a.sortCompare b = .eq ↔
      a.sortRank = b.sortRank ∧ a.magnitude = b.magnitude ∧ a.spelling = b.spelling := by
  rw [sortCompare_eq, Ordering.then_eq_eq, Ordering.then_eq_eq, compare_eq_iff_eq,
    compare_eq_iff_eq, Std.LawfulEqCmp.compare_eq_iff_eq]

/-- Not being after is transitive, and if the ends are equal, so are the neighbours. -/
theorem sortCompare_trans {a b c : Value} (hab : a.sortCompare b ≠ .gt)
    (hbc : b.sortCompare c ≠ .gt) :
    a.sortCompare c ≠ .gt ∧
      (a.sortCompare c = .eq → a.sortCompare b = .eq ∧ b.sortCompare c = .eq) := by
  have hab := Ordering.isLE_iff_ne_gt.2 hab
  have hbc := Ordering.isLE_iff_ne_gt.2 hbc
  refine ⟨Ordering.isLE_iff_ne_gt.1 (Std.TransCmp.isLE_trans hab hbc), ?_⟩
  intro hac
  have hca : (c.sortCompare a).isLE = true := by
    rw [Std.OrientedCmp.eq_symm hac]
    rfl
  constructor
  · exact Std.OrientedCmp.isLE_antisymm hab (Std.TransCmp.isLE_trans hbc hca)
  · exact Std.OrientedCmp.isLE_antisymm hbc (Std.TransCmp.isLE_trans hca hab)

/-! ### The three ranks -/

theorem sortRank_of_isNumeric {a : Value} (h : a.isNumeric = true) : a.sortRank = 1 := by
  cases a <;> first | rfl | exact absurd h Bool.false_ne_true

/-- Numbers and booleans stand between the empty cells and the strings. -/
theorem sortCompare_null_isNumeric_str {a : Value} (h : a.isNumeric = true) :
    null.sortCompare a = .lt ∧ ∀ s, a.sortCompare (str s) = .lt := by
  have hrank := sortRank_of_isNumeric h
  constructor
  · have hne : null.sortRank ≠ a.sortRank := by
      rw [hrank]
      exact Nat.zero_ne_one
    rw [sortCompare_of_sortRank_ne hne, hrank]
    rfl
  · intro s
    have hne : a.sortRank ≠ (str s).sortRank := by
      rw [hrank]
      exact Nat.ne_of_lt Nat.one_lt_two
    rw [sortCompare_of_sortRank_ne hne, hrank]
    rfl

/-! ### Equal cells -/

theorem orTop_injective : Function.Injective orTop := by
  intro x y h
  cases x with
  | none =>
    cases y with
    | none => rfl
    | some q => exact absurd h WithTop.top_ne_coe
  | some p =>
    cases y with
    | none => exact absurd h WithTop.coe_ne_top
    | some q => exact congrArg some (WithTop.coe_injective h)

/-- The numeric cells without a value hold NaNs. -/
theorem exactValue_eq_none_iff {a : Value} (h : a.isNumeric = true) :
    a.exactValue = none ↔ a.isNaN = true := by
  cases a with
  | bool b => exact iff_of_false (Option.some_ne_none _) Bool.false_ne_true
  | int i => exact iff_of_false (Option.some_ne_none _) Bool.false_ne_true
  | float x =>
    rw [← Option.isNone_iff_eq_none]
    exact Bool.eq_iff_iff.1 (Number.float x).isNone_exactValue
  | null => exact absurd h Bool.false_ne_true
  | str s => exact absurd h Bool.false_ne_true

theorem isNumeric_of_isNaN {a : Value} (h : a.isNaN = true) : a.isNumeric = true := by
  cases a <;> first | rfl | exact absurd h Bool.false_ne_true

theorem isNumeric_of_exactValue {a : Value} {x : ExactNumber} (h : a.exactValue = some x) :
    a.isNumeric = true := by
  cases a <;> first | rfl | exact absurd h.symm (Option.some_ne_none x)

/-- **Numeric cells are equal to sorting** if both hold a NaN, or both have one exact value. -/
theorem sortCompare_eq_eq_iff_of_isNumeric {a b : Value} (ha : a.isNumeric = true)
    (hb : b.isNumeric = true) :
    a.sortCompare b = .eq ↔
      (a.isNaN = true ∧ b.isNaN = true) ∨ ∃ x, a.exactValue = some x ∧ b.exactValue = some x := by
  rw [sortCompare_of_isNumeric ha hb, compare_eq_iff_eq, magnitude, magnitude,
    orTop_injective.eq_iff, ← exactValue_eq_none_iff ha, ← exactValue_eq_none_iff hb]
  constructor
  · intro h
    cases hx : a.exactValue with
    | none => exact .inl ⟨rfl, h.symm.trans hx⟩
    | some x => exact .inr ⟨x, rfl, h.symm.trans hx⟩
  · rintro (⟨hna, hnb⟩ | ⟨x, hxa, hxb⟩)
    · rw [hna, hnb]
    · rw [hxa, hxb]

/-- A NaN goes after all other numeric cells. -/
theorem sortCompare_of_isNaN {a b : Value} (ha : a.isNaN = true) (hb : b.isNumeric = true)
    (hvalue : b.isNaN = false) : a.sortCompare b = .gt := by
  have ha' := isNumeric_of_isNaN ha
  have hnone := (exactValue_eq_none_iff ha').2 ha
  have hsome : b.exactValue ≠ none := by
    rw [ne_eq, exactValue_eq_none_iff hb, hvalue]
    exact Bool.false_ne_true
  obtain ⟨x, hx⟩ := Option.ne_none_iff_exists'.1 hsome
  rw [sortCompare_of_isNumeric ha' hb, magnitude, magnitude, hnone, hx, compare_gt_iff_gt]
  exact WithTop.coe_lt_top x

/-- **Equal cells** are both empty, both NaNs, of one exact value or the same string. -/
theorem sortCompare_eq_eq_iff_same (a b : Value) :
    a.sortCompare b = .eq ↔
      (a = null ∧ b = null) ∨ (a.isNaN = true ∧ b.isNaN = true) ∨
        (∃ x, a.exactValue = some x ∧ b.exactValue = some x) ∨ ∃ s, a = str s ∧ b = str s := by
  constructor
  · intro h
    obtain ⟨hrank, -, htext⟩ := (sortCompare_eq_eq_iff a b).1 h
    cases a with
    | null =>
      cases b with
      | null => exact .inl ⟨rfl, rfl⟩
      | _ => cases hrank
    | str s =>
      cases b with
      | str t =>
        obtain rfl : s = t := htext
        exact .inr (.inr (.inr ⟨s, rfl, rfl⟩))
      | _ => cases hrank
    | _ =>
      cases b with
      | null | str _ => cases hrank
      | _ =>
        rcases (sortCompare_eq_eq_iff_of_isNumeric rfl rfl).1 h with hnan | hvalue
        · exact .inr (.inl hnan)
        · exact .inr (.inr (.inl hvalue))
  · rintro (⟨rfl, rfl⟩ | ⟨ha, hb⟩ | ⟨x, ha, hb⟩ | ⟨s, rfl, rfl⟩)
    · exact Std.ReflCmp.compare_self
    · exact (sortCompare_eq_eq_iff_of_isNumeric (isNumeric_of_isNaN ha)
        (isNumeric_of_isNaN hb)).2 (.inl ⟨ha, hb⟩)
    · exact (sortCompare_eq_eq_iff_of_isNumeric (isNumeric_of_exactValue ha)
        (isNumeric_of_exactValue hb)).2 (.inr ⟨x, ha, hb⟩)
    · exact Std.ReflCmp.compare_self

/-- **Sorting compares by a total preorder of all cells.** The two ways round agree, not being after
is transitive, and the ends are equal only if both neighbours are. Empty cells come first, then
numbers and booleans, a NaN after all others, then strings; and cells are equal exactly if both are
empty, both hold NaNs, both have one exact value, or both hold one string. -/
theorem sortCompare_totalPreorder :
    (∀ a : Value, a.sortCompare a = .eq) ∧
    (∀ a b : Value, a.sortCompare b = (b.sortCompare a).swap) ∧
    (∀ a b c : Value, a.sortCompare b ≠ .gt → b.sortCompare c ≠ .gt →
      a.sortCompare c ≠ .gt ∧
        (a.sortCompare c = .eq → a.sortCompare b = .eq ∧ b.sortCompare c = .eq)) ∧
    (∀ a : Value, a.isNumeric = true →
      null.sortCompare a = .lt ∧ ∀ s, a.sortCompare (str s) = .lt) ∧
    (∀ s, null.sortCompare (str s) = .lt) ∧
    (∀ a b : Value, a.isNaN = true → b.isNaN = true → a.sortCompare b = .eq) ∧
    (∀ a b : Value, a.isNaN = true → b.isNumeric = true → b.isNaN = false →
      a.sortCompare b = .gt) ∧
    ∀ a b : Value, a.sortCompare b = .eq ↔
      (a = null ∧ b = null) ∨ (a.isNaN = true ∧ b.isNaN = true) ∨
        (∃ x, a.exactValue = some x ∧ b.exactValue = some x) ∨ ∃ s, a = str s ∧ b = str s := by
  refine ⟨fun a => Std.ReflCmp.compare_self, fun a b => Std.OrientedCmp.eq_swap,
    fun a b c => sortCompare_trans, fun a => sortCompare_null_isNumeric_str, fun s => rfl, ?_,
    fun a b => sortCompare_of_isNaN, sortCompare_eq_eq_iff_same⟩
  intro a b ha hb
  exact (sortCompare_eq_eq_iff_same a b).2 (.inr (.inl ⟨ha, hb⟩))

end Value
end TableQuery
