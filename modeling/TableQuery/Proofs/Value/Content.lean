/-
# What equality sees of a cell

Equality of cells sees the kind and the content, but of a float only the point that it denotes: the
two zeros are equal, and so are all NaNs. So it is equality of `Value.content`, and hence an
equivalence.
-/

import TableQuery.Value.Basic

namespace TableQuery

/-- If equality of elements is equality of what `f` sees of them, so is equality of lists. -/
theorem list_beq_iff {α β : Type} [BEq α] {f : α → β}
    (h : ∀ a b : α, (a == b) = true ↔ f a = f b) (l l' : List α) :
    (l == l') = true ↔ l.map f = l'.map f := by
  induction l generalizing l' with
  | nil => cases l' <;> simp
  | cons a l ih =>
    cases l' with
    | nil => simp
    | cons b l' =>
      rw [List.cons_beq_cons, Bool.and_eq_true, h, ih, List.map_cons, List.map_cons,
        List.cons_eq_cons]

/-- And so is equality of options. -/
theorem option_beq_iff {α β : Type} [BEq α] {f : α → β}
    (h : ∀ a b : α, (a == b) = true ↔ f a = f b) (o o' : Option α) :
    (o == o') = true ↔ o.map f = o'.map f := by
  cases o <;> cases o' <;> simp [h]

/-- The floats without a point are the NaNs, so any two of them are the same. -/
theorem Binary64.same_of_isNaN {x y : Binary64} (hx : x.isNaN = true) (hy : y.isNaN = true) :
    x.same y = true := by
  rw [same_iff, (x.point?_eq_none_iff).2 hx, (y.point?_eq_none_iff).2 hy]

namespace Value

/-- Cells as equality sees them. -/
abbrev Content : Type := Value ⊕ Option Point

/-- What equality sees of a cell: the point of a float, and all of any other cell. -/
def content : Value → Content
  | float x => .inr x.point?
  | v => .inl v

/-- **Cells are equal if they have the same content.** -/
theorem beq_iff (a b : Value) : (a == b) = true ↔ a.content = b.content := by
  cases a <;> cases b <;> simp [content, Binary64.same_iff] <;> rfl

instance : EquivBEq Value where
  rfl {a} := (beq_iff a a).2 rfl
  symm {a b} h := (beq_iff b a).2 ((beq_iff a b).1 h).symm
  trans {a b c} hab hbc := (beq_iff a c).2 (((beq_iff a b).1 hab).trans ((beq_iff b c).1 hbc))

/-- Two cells of the same content are one cell, or floats at one point. -/
theorem eq_or_float_of_content_eq {a b : Value} (h : a.content = b.content) :
    a = b ∨ ∃ x y, a = float x ∧ b = float y ∧ x.point? = y.point? := by
  cases a with
  | float x =>
    cases b with
    | float y => exact .inr ⟨x, y, rfl, rfl, Sum.inr.inj h⟩
    | _ => cases h
  | _ =>
    cases b with
    | float y => cases h
    | _ => exact .inl (Sum.inl.inj h)

/-- Lists of cells are equal if they have the same contents from top to bottom. -/
theorem beq_list_iff (l l' : List Value) :
    (l == l') = true ↔ l.map content = l'.map content :=
  list_beq_iff beq_iff l l'

end Value
end TableQuery
