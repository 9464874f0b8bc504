/-
# Binary64 numbers and the points they denote

A binary64 number is kept as its 64 bits: a sign bit, eleven exponent bits and fifty-two fraction
bits. Every finite one is an integer multiple of the smallest positive one, `2⁻¹⁰⁷⁴`. Measured in
that unit, the *quantum*, the value is a plain integer, so floats compare with each other and with
integers exactly, and nothing here rounds.

The bits below the sign are in the order of the values they denote: `quantaOfBits` is increasing,
and infinity and the NaNs follow the largest finite number.
-/

namespace TableQuery

/-- A binary64 number, given by its bits. -/
structure Binary64 where
  /-- Sign, exponent and fraction, most significant first. -/
  bits : UInt64
  deriving DecidableEq, Inhabited

namespace Binary64

/-- The weight of the sign bit among the bits. -/
def signWeight : Nat := 0x8000000000000000

/-- The weight of the lowest exponent bit, which is the number of fractions. -/
def exponentWeight : Nat := 0x10000000000000

/-- The bits below the sign. -/
def magnitudeBits (x : Binary64) : Nat := x.bits.toNat % signWeight

/-- Whether the sign bit is set. -/
def isNegative (x : Binary64) : Bool := decide (signWeight ≤ x.bits.toNat)

/-- The magnitude bits of infinity. Larger ones are those of a NaN. -/
def infinityBits : Nat := 2047 * exponentWeight

/-- Whether `x` is not a number. -/
def isNaN (x : Binary64) : Bool := decide (infinityBits < x.magnitudeBits)

/-- The number with the given sign and the given bits below it. -/
def ofMagnitude (negative : Bool) (m : Nat) : Binary64 :=
  ⟨UInt64.ofNat ((if negative then signWeight else 0) + m)⟩

/-- A NaN: the sign clear, half of the fraction. -/
def nan : Binary64 := ofMagnitude false (infinityBits + exponentWeight / 2)

/-- The infinity of the given sign. -/
def infinity (negative : Bool) : Binary64 := ofMagnitude negative infinityBits

/-- The number one. -/
def one : Binary64 := ofMagnitude false (1023 * exponentWeight)

/-- The number zero, its sign clear. -/
def zero : Binary64 := ofMagnitude false 0

/-- The quanta denoted by magnitude bits: the fraction alone where the exponent bits are zero, the
fraction under a leading one, shifted, elsewhere. -/
def quantaOfBits (m : Nat) : Nat :=
  if m / exponentWeight = 0 then m
  else (exponentWeight + m % exponentWeight) <<< (m / exponentWeight - 1)

/-- The binary places of a quantum behind the point. -/
def quantumPlaces : Nat := 1074

/-- The number of quanta in one. -/
def quantaPerOne : Nat := 1 <<< quantumPlaces

theorem quantaPerOne_pos : 0 < quantaPerOne := by
  rw [quantaPerOne, Nat.one_shiftLeft]
  exact Nat.two_pow_pos quantumPlaces

end Binary64

/-- A point of the number line closed by its two infinities. -/
inductive Point where
  /-- Below every number. -/
  | negInf
  /-- An integer number of quanta. -/
  | finite (quanta : Int)
  /-- Above every number. -/
  | posInf
  deriving DecidableEq

namespace Point

/-- The order of the closed number line. -/
protected def compare : Point → Point → Ordering
  | negInf, negInf => .eq
  | negInf, _ => .lt
  | finite _, negInf => .gt
  | finite a, finite b => Ord.compare a b
  | finite _, posInf => .lt
  | posInf, posInf => .eq
  | posInf, _ => .gt

instance : Ord Point := ⟨Point.compare⟩

/-- The point of an integer. -/
def ofInt (i : Int) : Point := finite (i * Binary64.quantaPerOne)

end Point

namespace Binary64

/-- The point that `x` denotes, none if it is not a number. -/
def point? (x : Binary64) : Option Point :=
  let m := x.magnitudeBits
  if m < infinityBits then
    some (.finite (if x.isNegative then -(quantaOfBits m : Int) else quantaOfBits m))
  else if m = infinityBits then
    some (if x.isNegative then .negInf else .posInf)
  else
    none

/-- Two floats are the same cell content if they denote the same point or neither is a number: the
two zeros are the same, and so are all NaNs. -/
def same (x y : Binary64) : Bool := decide (x.point? = y.point?)

theorem point?_eq_none_iff (x : Binary64) : x.point? = none ↔ x.isNaN = true := by
  unfold point? isNaN
  simp only [decide_eq_true_eq]
  split
  · simp; omega
  · split <;> simp <;> omega

theorem same_iff (x y : Binary64) : x.same y = true ↔ x.point? = y.point? := by
  simp [same]

end Binary64

end TableQuery
