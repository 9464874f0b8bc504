/-
# Natural collation

The order in which people list names with numbers in them: `item2` before `item10`, `apple` before
`Banana`. Two strings are walked side by side, a run of digits or another character at a time. Runs
compare as the numbers they denote, other characters by their lowercase forms, and the first
difference decides.

Strings without a difference of this kind are told apart by the first pair that is written
differently: the run with fewer leading zeros comes first, and the lowercase letter before the
other. So only identical strings are equal.
-/

import TableQuery.Text.Lowercase

namespace TableQuery
namespace Collation

/-- Digit runs by the numbers they denote, of any size: leading zeros dropped, the longer run is
the larger number, and runs of one length compare digit by digit. -/
def compareRuns (l r : List Char) : Ordering :=
  let l := l.dropWhile (· == '0')
  let r := r.dropWhile (· == '0')
  (compare l.length r.length).then (compare l r)

/-- Characters of one lowercase form: lowercase before the others, then by code point. -/
def compareCase (l r : Char) : Ordering :=
  match Text.isLowercase l, Text.isLowercase r with
  | true, false => .lt
  | false, true => .gt
  | _, _ => compare l r

/-- The walk. `tie` is the first difference in writing so far, which decides where nothing else
does. -/
def walk (l r : List Char) (tie : Ordering) : Ordering :=
  match l, r with
  | [], [] => tie
  | [], _ :: _ => .lt
  | _ :: _, [] => .gt
  | c :: l', d :: r' =>
    if c.isDigit && d.isDigit then
      let lRun := c :: l'.takeWhile Char.isDigit
      let rRun := d :: r'.takeWhile Char.isDigit
      (compareRuns lRun rRun).then
        (walk (l'.dropWhile Char.isDigit) (r'.dropWhile Char.isDigit)
          (tie.then (compare lRun.length rRun.length)))
    else
      (compare (Text.lowercase c) (Text.lowercase d)).then
        (walk l' r' (tie.then (compareCase c d)))
  termination_by l.length
  decreasing_by
  · have := (List.dropWhile_suffix Char.isDigit (l := l')).length_le
    simp; omega
  · simp

/-- The natural order of two strings. -/
def natural (l r : String) : Ordering := walk l.toList r.toList .eq

end Collation
end TableQuery
