/-
# The two readings of a cell agree

A cell reads as a number and as a float. Both come from one text where the cell holds a string: the
text of an integer is a decimal without places (`Numeral.float?_of_int?`). So the float is the
number rounded, for every cell (`Value.asFloat?_bind_point?`), and the two readings fail together.

Loose order looks at numbers before they are rounded. Rounding keeps order, so where the floats
differ they are in the order of the numbers, and numbers that are equal are so as floats
(`Value.looseCompare?_refines_asFloat?`). What loose order adds is a difference between numbers that
one float stands for.
-/

import TableQuery.Proofs.Binary64.Rounding
import TableQuery.Proofs.Value.LooseOrder

namespace TableQuery

namespace Numeral

/-- Digits alone are a decimal without places. -/
theorem decimal?_of_isDigits {cs : List Char} (h : isDigits cs = true) :
    decimal? cs = some ⟨valueOfDigits cs, 0⟩ := by
  rw [isDigits, Bool.and_eq_true, Bool.not_eq_true'] at h
  obtain ⟨hne, hall⟩ := h
  rw [List.all_eq_true] at hall
  have htake : cs.takeWhile Char.isDigit = cs := List.takeWhile_eq_self_iff.2 hall
  have hdrop : cs.dropWhile Char.isDigit = [] := List.dropWhile_eq_nil_iff.2 hall
  simp [decimal?, htake, hdrop, hne, exponent?]

/-- A decimal without places is rounded as the natural number that it is. -/
theorem nearestBitsOfDecimal_natural (n : ℕ) :
    Binary64.nearestBitsOfDecimal ⟨n, 0⟩ = Binary64.nearestBits (n * Binary64.quantaPerOne) 1 := by
  rcases Nat.eq_zero_or_pos n with rfl | hn
  · rw [Nat.zero_mul]
    rfl
  · rw [Binary64.nearestBitsOfDecimal, if_neg hn.ne']
    change (if 400 < 0 then _ else Binary64.nearestBits (n * 1 * _) 1) = _
    rw [if_neg (by decide), Nat.mul_one]

/-- With a sign it is rounded as the integer that it is; only the zero keeps its sign. -/
theorem point?_ofDecimal_zero (negative : Bool) (n : ℕ) :
    (Binary64.ofDecimal negative ⟨n, 0⟩).point? =
      (Binary64.ofInt (if negative then -(n : ℤ) else n)).point? := by
  have habs : (if negative then -(n : ℤ) else n).natAbs = n := by
    split <;> simp
  rcases Nat.eq_zero_or_pos n with rfl | hn
  · cases negative <;> decide
  · have hsign : decide ((if negative then -(n : ℤ) else n) < 0) = negative := by
      cases negative <;> simp [hn]
    rw [Binary64.ofDecimal, nearestBitsOfDecimal_natural, Binary64.ofInt, habs, hsign]

/-- **An integer numeral is a decimal, too,** and it is rounded as the integer. -/
theorem float?_of_int? {cs : List Char} {i : ℤ} (h : int? cs = some i) :
    ∃ x, float? cs = some x ∧ x.point? = (Binary64.ofInt i).point? := by
  unfold int? at h
  rw [float?]
  dsimp only at h ⊢
  split at h
  · rename_i hdigits
    rw [decimal?_of_isDigits hdigits]
    refine ⟨_, rfl, ?_⟩
    rw [point?_ofDecimal_zero]
    exact congrArg (fun i => (Binary64.ofInt i).point?) (Option.some.inj h)
  · cases h

end Numeral

namespace Binary64

theorem point?_zero : zero.point? = some (Point.ofInt 0) := by
  rw [Point.ofInt, zero_mul]
  decide

theorem point?_one : one.point? = some (Point.ofInt 1) := by
  have hquanta : quantaOfBits (1023 * exponentWeight) = quantaPerOne := by
    rw [Number.quantaOfBits_mul_exponentWeight, exponentWeight_eq, quantaPerOne_eq, ← Nat.pow_add,
      show 52 + 1022 = quantumPlaces from rfl]
  rw [one, point?_ofMagnitude false (by decide), hquanta, Point.ofInt, one_mul, if_neg (by decide)]

end Binary64

namespace Value

variable {a b : Value}

/-- The point that a cell denotes as a number, none of a NaN and of cells that are no numbers. -/
def point? (v : Value) : Option Point := v.number?.bind Number.point?

/-- **The float that a cell reads as denotes its point rounded,** and a cell without a point reads
as no float or as a NaN. -/
theorem asFloat?_bind_point? (v : Value) :
    v.asFloat?.bind Binary64.point? = v.point?.map Point.round := by
  cases v with
  | null => rfl
  | bool b =>
    have hword : (bool b).point? = some (Point.ofInt (if b then 1 else 0)) :=
      congrArg (fun i => some (Point.ofInt i)) (by cases b <;> decide)
    have hbit : (if b then Binary64.one else Binary64.zero).point? = (bool b).point? := by
      rw [hword]
      cases b with
      | false => exact Binary64.point?_zero
      | true => exact Binary64.point?_one
    rw [asFloat?, Option.bind_some, ← hbit, Binary64.round_point?]
  | int i =>
    rw [asFloat?, Option.bind_some, Binary64.point?_ofInt_int64, point?, number?, Option.bind_some,
      Number.point?, Option.map_some]
  | float x => exact x.round_point?.symm
  | str s =>
    rw [point?, number?, asFloat?]
    split
    · rename_i i hi
      obtain ⟨x, hx, hpoint⟩ := Numeral.float?_of_int? (Numeral.int64?_eq_some_iff.1 hi)
      rw [hx, Option.bind_some, hpoint, Binary64.point?_ofInt_int64, Option.bind_some,
        Number.point?, Option.map_some]
    · cases Numeral.float? _ with
      | none => rfl
      | some x => exact x.round_point?.symm

theorem all_isNaN_asFloat?_iff (v : Value) :
    v.asFloat?.all Binary64.isNaN = true ↔ v.point? = none := by
  have hround := asFloat?_bind_point? v
  cases h : v.asFloat? with
  | none =>
    rw [h, Option.bind_none] at hround
    exact iff_of_true rfl (Option.map_eq_none_iff.1 hround.symm)
  | some x =>
    rw [h, Option.bind_some] at hround
    rw [Option.all_some, ← Option.map_eq_none_iff, ← hround, x.point?_eq_none_iff]

/-- Cells that are not both strings have the loose order of their points. -/
theorem looseCompare?_eq_point? (h : a.str? = none ∨ b.str? = none) :
    a.looseCompare? b = do return compare (← a.point?) (← b.point?) := by
  have hnumbers : a.looseCompare? b = (do (← a.number?).compare? (← b.number?)) := by
    cases a with
    | str s =>
      cases b with
      | str s' => exact absurd h (by simp [str?])
      | _ => rfl
    | int i => cases b <;> rfl
    | _ => cases b <;> rfl
  rw [hnumbers, point?, point?]
  cases a.number? with
  | none => rfl
  | some m =>
    cases b.number? with
    | none =>
      change none = (m.point?).bind fun _ => none
      cases m.point? <;> rfl
    | some n => exact m.compare?_eq_point? n

/-- The value of the float that a cell reads as is that of the rounded point. -/
theorem exists_asFloat?_iff {v : Value} {p : ExactNumber} :
    (∃ x, v.asFloat? = some x ∧ x.exactValue = some p) ↔
      ∃ r, v.point? = some r ∧ r.round.exactValue = p := by
  have hvalue : v.asFloat?.bind Binary64.exactValue =
      v.point?.map fun r => r.round.exactValue := by
    have hpoint : Binary64.exactValue = Option.map Point.exactValue ∘ Binary64.point? :=
      funext Binary64.exactValue_eq
    rw [hpoint, ← Option.map_bind, asFloat?_bind_point?, Option.map_map]
    rfl
  rw [← Option.bind_eq_some_iff, hvalue, Option.map_eq_some_iff]

/-- **The exact order of cells refines the order of their floats,** unless both are strings. There
is no order exactly if a cell reads as no float or as a NaN. Floats that differ are in the order of
the cells, and cells that are equal read as floats of one value. -/
theorem looseCompare?_refines_asFloat? (h : a.str? = none ∨ b.str? = none) :
    (a.looseCompare? b = none ↔
      a.asFloat?.all Binary64.isNaN = true ∨ b.asFloat?.all Binary64.isNaN = true) ∧
    (∀ x y p q, a.asFloat? = some x → b.asFloat? = some y → x.exactValue = some p →
      y.exactValue = some q → p ≠ q → a.looseCompare? b = some (compare p q)) ∧
    (a.looseCompare? b = some .eq → ∃ x y p, a.asFloat? = some x ∧ b.asFloat? = some y ∧
      x.exactValue = some p ∧ y.exactValue = some p) := by
  have hpoints := looseCompare?_eq_point? h
  refine ⟨?_, fun x y p q hx hy hp hq hne => ?_, fun heq => ?_⟩
  · rw [hpoints, all_isNaN_asFloat?_iff, all_isNaN_asFloat?_iff]
    cases a.point? with
    | none => simp
    | some r => cases b.point? <;> simp
  · obtain ⟨r, hr, rfl⟩ := exists_asFloat?_iff.1 ⟨x, hx, hp⟩
    obtain ⟨s, hs, rfl⟩ := exists_asFloat?_iff.1 ⟨y, hy, hq⟩
    have hcompare := Point.compare_exactValue r.round s.round
    have hdiffer : compare r.round s.round ≠ .eq := by
      rwa [← hcompare, ne_eq, compare_eq_iff_eq]
    rw [hpoints, hr, hs, hcompare, (Point.compare_round r s).resolve_left hdiffer]
    rfl
  · obtain ⟨r, hr, hrest⟩ := Option.bind_eq_some_iff.1 (hpoints.symm.trans heq)
    obtain ⟨s, hs, hrest⟩ := Option.bind_eq_some_iff.1 hrest
    have hequal : compare r s = .eq := Option.some.inj hrest
    have hround : r.round.exactValue = s.round.exactValue := by
      rw [← compare_eq_iff_eq, Point.compare_exactValue]
      exact (Point.compare_round r s).elim id fun h => h.trans hequal
    obtain ⟨x, hx, hp⟩ := exists_asFloat?_iff.2 ⟨r, hr, rfl⟩
    obtain ⟨y, hy, hq⟩ := exists_asFloat?_iff.2 ⟨s, hs, hround.symm⟩
    exact ⟨x, y, _, hx, hy, hp, hq⟩

/-- The first integer that is no float is below the next one, also where that one is a padded
numeral with a sign, and the two floats are in the same order. -/
theorem looseCompare?_refines_asFloat?_two_pow_53_add_one :
    let a := int 9007199254740993
    let b := str " +009007199254740994 "
    (a.str? = none ∨ b.str? = none) ∧
    a.asFloat? = some ⟨0x4340000000000000⟩ ∧ b.asFloat? = some ⟨0x4340000000000001⟩ ∧
    a.looseCompare? b = some .lt := by
  intro a b
  have ha : a.asFloat? = some ⟨0x4340000000000000⟩ := by decide +kernel
  have hb : b.asFloat? = some ⟨0x4340000000000001⟩ := by decide +kernel
  obtain ⟨hnan, hfinite, hsign, hexponent, hfraction⟩ :
      let x : Binary64 := ⟨0x4340000000000000⟩
      x.isNaN = false ∧ x.magnitudeBits ≠ Binary64.infinityBits ∧ x.isNegative = false ∧
        x.exponentBits = 1076 ∧ x.fractionBits = 0 := by decide
  obtain ⟨hnan', hfinite', hsign', hexponent', hfraction'⟩ :
      let y : Binary64 := ⟨0x4340000000000001⟩
      y.isNaN = false ∧ y.magnitudeBits ≠ Binary64.infinityBits ∧ y.isNegative = false ∧
        y.exponentBits = 1076 ∧ y.fractionBits = 1 := by decide
  have hp : (⟨0x4340000000000000⟩ : Binary64).exactValue =
      some ((9007199254740992 : ℚ) : WithTop ℚ) := by
    norm_num [Binary64.exactValue, Binary64.rational, Binary64.rationalSize, hnan, hfinite, hsign,
      hexponent, hfraction]
  have hq : (⟨0x4340000000000001⟩ : Binary64).exactValue =
      some ((9007199254740994 : ℚ) : WithTop ℚ) := by
    norm_num [Binary64.exactValue, Binary64.rational, Binary64.rationalSize, hnan', hfinite',
      hsign', hexponent', hfraction']
  have hlt : (((9007199254740992 : ℚ) : WithTop ℚ) : ExactNumber) <
      ((9007199254740994 : ℚ) : WithTop ℚ) :=
    WithBot.coe_lt_coe.2 (WithTop.coe_lt_coe.2 (by norm_num))
  obtain ⟨-, hrefines, -⟩ := looseCompare?_refines_asFloat? (a := a) (b := b) (.inl rfl)
  refine ⟨.inl rfl, ha, hb, ?_⟩
  rw [hrefines _ _ _ _ ha hb hp hq hlt.ne, compare_lt_iff_lt.2 hlt]

end Value
end TableQuery
