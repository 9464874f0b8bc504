/-
# Loose equality and loose order agree

Conditions ask whether a cell equals the threshold, and on which side of it the cell is. The two
questions are answered by different rules: equality keeps kinds apart where order reads both cells
as numbers. Still they never contradict each other. Cells that are loosely equal are the same cell
or numbers of one value, so neither is above the other (`looseCompare?_of_looseEq`). And each
question has the same answer from either side (`looseEq_comm`, `looseCompare?_swap`).

Cells of one kind, NaNs left out, always have an order, and they are loosely equal if it finds no
difference (`looseCompare?_of_sameKind`).
-/

import TableQuery.Proofs.Value.ExactOrder

namespace TableQuery

theorem Number.compare?_swap (a b : Number) : b.compare? a = (a.compare? b).map Ordering.swap := by
  rw [compare?_eq, compare?_eq]
  cases a.exactValue with
  | none => cases b.exactValue <;> rfl
  | some x =>
    cases b.exactValue with
    | none => rfl
    | some y =>
      have hswap : compare y x = (compare x y).swap := Std.OrientedCmp.eq_swap
      exact congrArg some hswap

namespace Value

variable {a b : Value}

/-! ### From the other side -/

/-- **Seen from the other side** the loose order is the reverse. -/
theorem looseCompare?_swap (a b : Value) :
    b.looseCompare? a = (a.looseCompare? b).map Ordering.swap := by
  have hnumbers : (do (← b.number?).compare? (← a.number?)) =
      (do (← a.number?).compare? (← b.number?)).map Ordering.swap := by
    cases a.number? with
    | none => cases b.number? <;> rfl
    | some m =>
      cases b.number? with
      | none => rfl
      | some n => exact m.compare?_swap n
  cases a with
  | str s =>
    cases b with
    | str s' => exact congrArg some Std.OrientedCmp.eq_swap
    | _ => exact hnumbers
  | int i =>
    cases b with
    | int j => exact congrArg some Std.OrientedCmp.eq_swap
    | _ => exact hnumbers
  | _ => cases b <;> exact hnumbers

/-- Cells that are loosely equal are the same cell, or both are numbers. -/
theorem eq_or_isNumber_of_looseEq (h : a.looseEq b = true) :
    a = b ∨ (a.isNumber = true ∧ b.isNumber = true) := by
  cases a with
  | null =>
    cases b with
    | null => exact .inl rfl
    | _ => exact absurd h Bool.false_ne_true
  | bool x =>
    cases b with
    | bool y => exact .inl (congrArg bool (beq_iff_eq.1 h))
    | _ => exact absurd h Bool.false_ne_true
  | str s =>
    cases b with
    | str s' => exact .inl (congrArg str (beq_iff_eq.1 h))
    | _ => exact absurd h Bool.false_ne_true
  | _ =>
    cases b with
    | int _ | float _ => exact .inr ⟨rfl, rfl⟩
    | _ => exact absurd h Bool.false_ne_true

/-- **Loose equality** is the same from both sides. -/
theorem looseEq_comm (a b : Value) : a.looseEq b = b.looseEq a := by
  have hsymm : ∀ {a b : Value}, a.looseEq b = true → b.looseEq a = true := by
    intro a b h
    rcases eq_or_isNumber_of_looseEq h with rfl | ⟨ha, hb⟩
    · exact h
    · rw [looseEq_eq_looseCompare? ha hb, beq_iff_eq] at h
      rw [looseEq_eq_looseCompare? hb ha, looseCompare?_swap a b, h]
      rfl
  exact Bool.eq_iff_iff.2 ⟨hsymm, hsymm⟩

/-! ### Equality and order -/

/-- **Of cells that are loosely equal neither is above the other.** -/
theorem looseCompare?_of_looseEq {o : Ordering} (h : a.looseEq b = true)
    (ho : a.looseCompare? b = some o) : o = .eq := by
  rcases eq_or_isNumber_of_looseEq h with rfl | ⟨ha, hb⟩
  · have hswap := looseCompare?_swap a a
    rw [ho, Option.map_some, Option.some.injEq] at hswap
    cases o with
    | eq => rfl
    | lt => cases hswap
    | gt => cases hswap
  · rw [looseEq_eq_looseCompare? ha hb, ho, beq_iff_eq, Option.some.injEq] at h
    exact h

/-- Whether both cells are strings, both are booleans, or both are numbers and neither is a NaN. -/
def sameKind : Value → Value → Bool
  | str _, str _ => true
  | bool _, bool _ => true
  | a, b => a.isNumber && b.isNumber && !a.isNaN && !b.isNaN

/-- **Cells of one kind have an order,** and they are loosely equal if it finds no difference. -/
theorem looseCompare?_of_sameKind (h : a.sameKind b = true) :
    ∃ o, a.looseCompare? b = some o ∧ (a.looseEq b = true ↔ o = .eq) := by
  have hnumbers : a.isNumber = true → b.isNumber = true → a.isNaN = false → b.isNaN = false →
      ∃ o, a.looseCompare? b = some o ∧ (a.looseEq b = true ↔ o = .eq) := by
    intro ha hb hvalue hvalue'
    obtain ⟨x, hx⟩ := exists_exactValue (isNumeric_of_isNumber ha) hvalue
    obtain ⟨y, hy⟩ := exists_exactValue (isNumeric_of_isNumber hb) hvalue'
    have ho := looseCompare?_of_exactValue hx hy
    refine ⟨compare x y, ho, ?_⟩
    rw [looseEq_eq_looseCompare? ha hb, ho, beq_iff_eq, Option.some.injEq]
  cases a with
  | str s =>
    cases b with
    | str s' =>
      exact ⟨compare s s', rfl, beq_iff_eq.trans Std.LawfulEqCmp.compare_eq_iff_eq.symm⟩
    | _ => cases h
  | bool x =>
    cases b with
    | bool y => cases x <;> cases y <;> exact ⟨_, rfl, by decide⟩
    | _ => cases h
  | null => cases b <;> cases h
  | _ =>
    cases b with
    | int _ | float _ =>
      simp only [sameKind, Bool.and_eq_true, Bool.not_eq_true'] at h
      exact hnumbers rfl rfl h.1.2 h.2
    | _ => cases h

end Value
end TableQuery
