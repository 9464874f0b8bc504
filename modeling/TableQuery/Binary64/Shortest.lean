/-
# The shortest decimal of a float, and its text

A positive finite float stands for every real number that rounds to it. These form an interval
around it, which ends halfway to each neighbour and holds its ends if the last bit is zero. The
float is written with the coarsest power of ten that has a multiple in the interval. On each grid
only the two multiples around the float need a look, and the nearer one is taken where both
qualify, the larger one where both are equally near.

The text is positional, however large or small the number is: no exponent is written, and whole
numbers have no point.
-/

import TableQuery.Binary64.Rounding

namespace TableQuery

namespace Binary64

/-- The multiple of `10 ^ exponent` next to the float with magnitude bits `m` that rounds to it, if
there is one. Sizes are compared in halves of a quantum, times the denominator `10 ^ -exponent`
where the exponent is negative. -/
def onGrid? (m : Nat) (exponent : Int) : Option Decimal :=
  let v := quantaOfBits m
  let scale := tenPow (-exponent).toNat
  let step := quantaPerOne * tenPow exponent.toNat
  let low := (v + quantaOfBits (m - 1)) * scale
  let high := (v + quantaOfBits (m + 1)) * scale
  let rounds (digits : Nat) : Bool :=
    if m % 2 = 0 then decide (low ≤ 2 * digits * step ∧ 2 * digits * step ≤ high)
    else decide (low < 2 * digits * step ∧ 2 * digits * step < high)
  let below := v * scale / step
  match rounds below, rounds (below + 1) with
  | true, true =>
    if 2 * (v * scale % step) < step then some ⟨below, exponent⟩ else some ⟨below + 1, exponent⟩
  | true, false => some ⟨below, exponent⟩
  | false, true => some ⟨below + 1, exponent⟩
  | false, false => none

/-- The first decimal found on the grids `10 ^ (grids - 1074)`, `10 ^ (grids - 1075)`, … . The last
of them, `10 ^ -1074`, holds every finite float itself. -/
def shortestFrom (m : Nat) : Nat → Decimal
  | 0 => ⟨quantaOfBits m * Nat.pow 5 quantumPlaces, -quantumPlaces⟩
  | grids + 1 => (onGrid? m (grids + 1 - quantumPlaces)).getD (shortestFrom m grids)

/-- The exponent of a power of ten above the float with magnitude bits `m`. The float is below two
to the number of its binary places, and `30103 / 100000` is a little more than the decimal logarithm
of two. -/
def topExponent (m : Nat) : Int :=
  ((quantaOfBits m).log2 + 1 - quantumPlaces) * 30103 / 100000 + 2

/-- The shortest decimal that rounds to the positive finite float with magnitude bits `m`. -/
def shortest (m : Nat) : Decimal :=
  shortestFrom m (topExponent m + quantumPlaces).toNat

end Binary64

namespace Decimal

/-- The decimal written out, without an exponent. -/
def positional (d : Decimal) : List Char :=
  let digits := Nat.toDigits 10 d.digits
  match d.exponent with
  | .ofNat e => digits ++ List.replicate e '0'
  | .negSucc k =>
    let places := k + 1
    if places < digits.length then
      digits.take (digits.length - places) ++ '.' :: digits.drop (digits.length - places)
    else
      '0' :: '.' :: (List.replicate (places - digits.length) '0' ++ digits)

end Decimal

namespace Binary64

/-- The text of a float: its sign, and the shortest decimal that rounds to it. -/
def text (x : Binary64) : List Char :=
  let m := x.magnitudeBits
  let sign := if x.isNegative then ['-'] else []
  if infinityBits < m then "NaN".toList
  else if m = infinityBits then sign ++ "inf".toList
  else if m = 0 then sign ++ ['0']
  else sign ++ (shortest m).positional

end Binary64

end TableQuery
