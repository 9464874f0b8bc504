/-
# Comparison operators

The four operators a condition can have. `=` and `<>` hold of complementary pairs of cells. Both
`>` and `<` fail of cells that have no order.
-/

import TableQuery.Value.Order

namespace TableQuery

/-- An operator between a cell and a threshold. -/
inductive Comparison where
  | equal
  | notEqual
  | greater
  | less
  deriving DecidableEq, Repr

namespace Comparison

/-- The sign of an operator. -/
def symbol : Comparison → String
  | equal => "="
  | notEqual => "<>"
  | greater => ">"
  | less => "<"

/-- Whether the operator holds between a cell and a threshold. -/
def test : Comparison → Value → Value → Bool
  | equal, cell, threshold => cell.looseEq threshold
  | notEqual, cell, threshold => !cell.looseEq threshold
  | greater, cell, threshold => cell.looseCompare? threshold == some .gt
  | less, cell, threshold => cell.looseCompare? threshold == some .lt

theorem symbol_injective {a b : Comparison} (h : a.symbol = b.symbol) : a = b := by
  revert h
  cases a <;> cases b <;> decide

end Comparison
end TableQuery
