/-
# The text of a cell

What a grid shows of a cell, and what a condition shows of a threshold that is not a string.
Strings stand for themselves, so different cells may share a text: the integer `1` and the string
`"1"`, or an integer and a float.
-/

import TableQuery.Binary64.Shortest
import TableQuery.Text.Numeral
import TableQuery.Value.Basic

namespace TableQuery

namespace Value

/-- The text of a cell. -/
def text : Value → String
  | null => "NULL"
  | bool b => if b then "true" else "false"
  | int i => String.ofList (Numeral.ofInt i.toInt)
  | float x => String.ofList x.text
  | str s => s

end Value

end TableQuery
