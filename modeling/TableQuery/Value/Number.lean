/-
# Cells as numbers

There are two numeric readings of a cell. `Value.asFloat?` rounds everything to a float.
`Value.number?` keeps integers, and digit strings that fit an integer, as they are. The empty cell
and the strings that are no numeral have neither reading.

Numbers of the second reading are compared by value. Where an integer meets a float neither can be
rounded to the other kind, so the float is taken apart: if it is in the range of the integers its
whole part is one of them, and only where that is the integer at hand does the rest decide.
-/

import TableQuery.Binary64.Arithmetic
import TableQuery.Text.Blank
import TableQuery.Text.Numeral
import TableQuery.Value.Basic

namespace TableQuery

/-- An integer or a float. -/
inductive Number where
  | int (i : Int64)
  | float (x : Binary64)

namespace Number

/-- Whether the number is a float that is not a number. -/
def isNaN : Number → Bool
  | int _ => false
  | float x => x.isNaN

/-- Two to the power 63 with a sign: the first numbers that are too large for a signed word of 64
bits, the negative one just fitting. -/
def wordBound (negative : Bool) : Binary64 :=
  Binary64.ofMagnitude negative ((1023 + 63) * Binary64.exponentWeight)

/-- The order of an integer and a float, none if the float is a NaN. -/
def compareIntFloat? (i : Int64) (x : Binary64) : Option Ordering :=
  if x.isNaN then none
  else if x.isAtLeast (wordBound false) then some .lt
  else if x.isBelow (wordBound true) then some .gt
  else
    let whole := x.truncate
    match compare i whole with
    | .eq => Binary64.zero.compare? (x.sub (Binary64.ofInt whole.toInt))
    | order => some order

/-- The order of two numbers, none if one of them is a NaN. -/
def compare? : Number → Number → Option Ordering
  | int a, int b => some (compare a b)
  | float x, float y => x.compare? y
  | int a, float y => compareIntFloat? a y
  | float x, int b => (compareIntFloat? b x).map Ordering.swap

end Number

namespace Value

/-- The numeral inside a string: blanks around it are dropped. -/
private def numeral (s : String) : List Char := Text.trim s.toList

/-- A cell as a float: integers and numerals are rounded, booleans are one and zero. -/
def asFloat? : Value → Option Binary64
  | null => none
  | bool b => some (if b then Binary64.one else Binary64.zero)
  | int i => some (Binary64.ofInt i.toInt)
  | float x => some x
  | str s => Numeral.float? (numeral s)

/-- A cell as a number: a numeral is an integer if it reads as one, else a float. -/
def number? : Value → Option Number
  | null => none
  | bool b => some (.int (if b then 1 else 0))
  | int i => some (.int i)
  | float x => some (.float x)
  | str s =>
    match Numeral.int64? (numeral s) with
    | some i => some (.int i)
    | none => (Numeral.float? (numeral s)).map .float

end Value

end TableQuery
