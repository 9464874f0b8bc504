/-
# Rounding to binary64

A non-negative quotient of quanta goes to the nearest binary64 number, a half to the one whose
last bit is zero. One division does it: below `2⁵³` quanta the numbers are the integers; above,
between `2ˢ · 2⁵²` and `2ˢ · 2⁵³` quanta, they are the multiples of `2ˢ`. Since magnitude bits are
consecutive across those ranges, a quotient that rounds up to the end of its range carries into
the exponent by itself, and one that rounds past the largest finite number lands on infinity.

Integers and decimals are rounded from their exact values.
-/

import TableQuery.Binary64.Basic

namespace TableQuery

/-- The integer nearest to `n / d`, a half going to the even neighbour. -/
def divRound (n d : Nat) : Nat :=
  if 2 * (n % d) < d ∨ (2 * (n % d) = d ∧ n / d % 2 = 0) then n / d else n / d + 1

/-- A non-negative decimal number, `digits · 10 ^ exponent`. -/
structure Decimal where
  /-- The digits, read as one natural number. -/
  digits : Nat
  /-- The power of ten that the last digit counts. -/
  exponent : Int
  deriving DecidableEq, Repr

/-- A power of ten. -/
def tenPow (k : Nat) : Nat := Nat.pow 10 k

namespace Binary64

/-- The magnitude bits nearest to `num / den` quanta. -/
def nearestBits (num den : Nat) : Nat :=
  let shift := (num / den).log2 - 52
  min (shift * exponentWeight + divRound num (den <<< shift)) infinityBits

/-- The float nearest to an integer. -/
def ofInt (i : Int) : Binary64 :=
  ofMagnitude (decide (i < 0)) (nearestBits (i.natAbs * quantaPerOne) 1)

/-- The magnitude bits nearest to a decimal. The powers of ten that are worked out stay short: from
`10 ^ 400` on everything is infinite, and below `2 ^ -1076` everything is zero. -/
def nearestBitsOfDecimal (d : Decimal) : Nat :=
  if d.digits = 0 then 0
  else match d.exponent with
    | .ofNat e =>
      if 400 < e then infinityBits else nearestBits (d.digits * tenPow e * quantaPerOne) 1
    | .negSucc k =>
      if d.digits.log2 + 1077 < 3 * (k + 1) then 0
      else nearestBits (d.digits * quantaPerOne) (tenPow (k + 1))

/-- The float of the given sign nearest to a decimal. A decimal zero keeps its sign. -/
def ofDecimal (negative : Bool) (d : Decimal) : Binary64 :=
  ofMagnitude negative (nearestBitsOfDecimal d)

end Binary64

end TableQuery
