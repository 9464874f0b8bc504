/-
# Arithmetic on binary64 numbers

The operations on floats that comparing a float with an integer takes: the order of two floats, the
whole part as a signed word of 64 bits, and the difference. A difference is worked out exactly, in
quanta, and rounded once.
-/

import TableQuery.Binary64.Rounding

namespace TableQuery
namespace Binary64

/-- The order of two floats, none if one of them is a NaN. -/
def compare? (x y : Binary64) : Option Ordering := do
  return compare (← x.point?) (← y.point?)

/-- Whether `x` is below `y`. A NaN is below nothing, and nothing is below it. -/
def isBelow (x y : Binary64) : Bool := x.compare? y == some .lt

/-- Whether `x` is `y` or above it. A NaN is at least nothing. -/
def isAtLeast (x y : Binary64) : Bool := x.compare? y == some .gt || x.compare? y == some .eq

/-- The whole part, cut off towards zero. Numbers beyond the signed words of 64 bits go to the
nearest of these, and a NaN goes to zero. -/
def truncate (x : Binary64) : Int64 :=
  match x.point? with
  | none => 0
  | some .negInf => Int64.minValue
  | some .posInf => Int64.maxValue
  | some (.finite quanta) =>
    let whole := quanta.tdiv quantaPerOne
    if whole < Int64.minValue.toInt then Int64.minValue
    else if Int64.maxValue.toInt < whole then Int64.maxValue
    else Int64.ofInt whole

/-- The float nearest to a number of quanta. Zero takes the given sign. -/
def ofQuanta (quanta : Int) (negativeZero : Bool) : Binary64 :=
  ofMagnitude (if quanta = 0 then negativeZero else decide (quanta < 0))
    (nearestBits quanta.natAbs 1)

/-- The difference of two floats. A difference of zero is negative only if it is that of the
negative zero and the positive one. -/
def sub (x y : Binary64) : Binary64 :=
  match x.point?, y.point? with
  | some (.finite a), some (.finite b) => ofQuanta (a - b) (x.isNegative && !y.isNegative)
  | none, _ => nan
  | _, none => nan
  | some p, some (.finite _) => infinity (p == .negInf)
  | some (.finite _), some p => infinity (p == .posInf)
  | some p, some q => if p = q then nan else infinity (p == .negInf)

end Binary64
end TableQuery
