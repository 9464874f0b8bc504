/-
# Comparing cells

Conditions and sorting compare cells by different rules.

* A *condition* compares loosely, and not every pair is comparable. Numbers compare by value,
  whatever their kind. For equality the two cells are of one kind or both numbers, and a NaN is
  equal to nothing. For order, two strings compare by code points, and any other pair as numbers,
  numerals and booleans included, if both cells are numbers in this sense and neither is a NaN.
* *Sorting* compares any two cells: empty ones first, then booleans and numbers by value, a NaN
  after all others, then strings in natural order.
-/

import TableQuery.Collation
import TableQuery.Value.Number

namespace TableQuery
namespace Value

/-- Loose equality, that of the conditions `=` and `<>`. -/
def looseEq : Value → Value → Bool
  | null, null => true
  | bool a, bool b => a == b
  | int i, int j => i == j
  | str a, str b => a == b
  | a, b =>
    if a.isNumber && b.isNumber then
      match a.number?, b.number? with
      | some x, some y => x.compare? y == some .eq
      | _, _ => false
    else
      false

/-- Loose order, that of the conditions `>` and `<`, none where the cells have no order. -/
def looseCompare? : Value → Value → Option Ordering
  | str a, str b => some (compare a b)
  | int i, int j => some (compare i j)
  | a, b => do (← a.number?).compare? (← b.number?)

/-- The place of a cell's kind in sorting. -/
def sortRank : Value → Nat
  | null => 0
  | bool _ | int _ | float _ => 1
  | str _ => 2

/-- Numbers in their order, followed by what is not a number. -/
def compareNaNLast (a b : Number) : Ordering :=
  match a.isNaN, b.isNaN with
  | true, true => .eq
  | true, false => .gt
  | false, true => .lt
  | false, false => (a.compare? b).getD .eq

/-- The order of sorting. -/
def sortCompare : Value → Value → Ordering
  | str a, str b => Collation.natural a b
  | int i, int j => compare i j
  | null, null => .eq
  | a, b =>
    if a.sortRank ≠ b.sortRank then compare a.sortRank b.sortRank
    else compareNaNLast (a.number?.getD (.float .nan)) (b.number?.getD (.float .nan))

/-- Cells in the order of sorting, equal ones in the order they came in. -/
def sort (cells : List Value) : List Value :=
  cells.mergeSort fun a b => (a.sortCompare b).isLE

end Value

namespace Collation

/-- Strings in natural order. -/
def sort (strings : List String) : List String :=
  strings.mergeSort fun a b => (natural a b).isLE

end Collation
end TableQuery
