/-
# Numerals

Two readers share one notion of digits, `'0'` to `'9'`, and of sign, an optional `+` or `-` in
front.

* An *integer* is a sign and digits, at least one, and nothing else. It has to fit a signed word
  of 64 bits.
* A *decimal* is a sign, digits with at most one point among them, at least one digit in all, and
  optionally a power of ten: `e` or `E`, a sign and digits. Infinity and not-a-number are read
  under their usual names, in any case. The result is rounded once, from the exact value.

Every integer is a decimal too. Neither reader skips blanks. Integers are written without a plus
and without leading zeros.
-/

import TableQuery.Binary64.Rounding

namespace TableQuery
namespace Numeral

/-- Whether a leading minus is there, and what follows the sign. -/
def splitSign : List Char → Bool × List Char
  | '+' :: rest => (false, rest)
  | '-' :: rest => (true, rest)
  | cs => (false, cs)

/-- The number that decimal digits denote. -/
def valueOfDigits (digits : List Char) : Nat :=
  digits.foldl (fun n c => 10 * n + (c.toNat - '0'.toNat)) 0

/-- Whether a text is one or more digits. -/
def isDigits (cs : List Char) : Bool := !cs.isEmpty && cs.all Char.isDigit

/-- An integer with its sign, of any size. -/
def int? (cs : List Char) : Option Int :=
  let (negative, digits) := splitSign cs
  if isDigits digits then
    some (if negative then -(valueOfDigits digits : Int) else valueOfDigits digits)
  else
    none

/-- An integer that fits a signed word of 64 bits. -/
def int64? (cs : List Char) : Option Int64 := do
  let i ← int? cs
  if Int64.minValue.toInt ≤ i ∧ i ≤ Int64.maxValue.toInt then some (Int64.ofInt i) else none

/-- The power of ten written behind the digits of a decimal: nothing, or a marked integer. -/
def exponent? : List Char → Option Int
  | [] => some 0
  | c :: rest => if c = 'e' ∨ c = 'E' then int? rest else none

/-- A decimal without its sign. -/
def decimal? (cs : List Char) : Option Decimal :=
  let whole := cs.takeWhile Char.isDigit
  let (places, rest) :=
    match cs.dropWhile Char.isDigit with
    | '.' :: rest => (rest.takeWhile Char.isDigit, rest.dropWhile Char.isDigit)
    | rest => ([], rest)
  if whole.isEmpty && places.isEmpty then none
  else (exponent? rest).map fun e => ⟨valueOfDigits (whole ++ places), e - places.length⟩

/-- Whether a text is a name in lowercase letters, its own letters being of either case. -/
def isName (name : String) (cs : List Char) : Bool := cs.map Char.toLower == name.toList

/-- A float: a decimal, or the name of an infinity or of not-a-number. -/
def float? (cs : List Char) : Option Binary64 :=
  let (negative, rest) := splitSign cs
  match decimal? rest with
  | some d => some (Binary64.ofDecimal negative d)
  | none =>
    if isName "inf" rest || isName "infinity" rest then some (Binary64.infinity negative)
    else if isName "nan" rest then some Binary64.nan
    else none

/-- The numeral of an integer: decimal digits, a minus in front where it is negative. -/
def ofInt (i : Int) : List Char :=
  if i < 0 then '-' :: Nat.toDigits 10 i.natAbs else Nat.toDigits 10 i.natAbs

theorem toInt_ofInt {i : Int} (h : Int64.minValue.toInt ≤ i ∧ i ≤ Int64.maxValue.toInt) :
    (Int64.ofInt i).toInt = i := by
  have hmin : Int64.minValue.toInt = -9223372036854775808 := rfl
  have hmax : Int64.maxValue.toInt = 9223372036854775807 := rfl
  exact Int64.toInt_ofInt_of_le (by omega) (by omega)

theorem int64?_eq_some_iff {cs : List Char} {w : Int64} :
    int64? cs = some w ↔ int? cs = some w.toInt := by
  unfold int64?
  cases h : int? cs with
  | none => simp
  | some i =>
    simp only [Option.bind_eq_bind, Option.bind_some, Option.some.injEq]
    split
    · rename_i hi
      rw [Option.some.injEq]
      constructor
      · rintro rfl
        exact (toInt_ofInt hi).symm
      · rintro rfl
        exact Int64.ofInt_toInt w
    · rename_i hi
      constructor
      · simp
      · rintro rfl
        exact absurd ⟨w.minValue_le_toInt, w.toInt_le⟩ hi

end Numeral
end TableQuery
