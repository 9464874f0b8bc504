/-
# Numerals are read back

The numeral of an integer is read as that integer (`Numeral.int?_ofInt`), and as a float it is read
as the nearest one (`Numeral.float?_ofInt`). The text of a float is read as that float, to the bit,
unless it is a NaN (`Numeral.float?_text`): what a positional text shows is the decimal it was
written for, and the shortest decimal of a float rounds to it.

So texts tell integers apart, and they tell floats apart, but an integer and a float of one text
need not be of one value: the float is the one that the integer is rounded to.
-/

import TableQuery.Proofs.Binary64.Shortest
import TableQuery.Proofs.Collation.Numbers
import TableQuery.Proofs.Value.FloatReading

namespace TableQuery

namespace Numeral

variable {cs places : List Char}

/-! ### Digits -/

theorem all_isDigit_toDigits (n : ℕ) : (Nat.toDigits 10 n).all Char.isDigit = true :=
  List.all_eq_true.2 fun _ hc => Nat.isDigit_of_mem_toDigits (by decide) (by decide) hc

theorem isDigits_iff : isDigits cs = true ↔ cs ≠ [] ∧ cs.all Char.isDigit = true := by
  rw [isDigits, Bool.and_eq_true, Bool.not_eq_true', List.isEmpty_eq_false_iff]

theorem isDigits_toDigits (n : ℕ) : isDigits (Nat.toDigits 10 n) = true :=
  isDigits_iff.2 ⟨Nat.toDigits_ne_nil, all_isDigit_toDigits n⟩

theorem valueOfDigits_toDigits (n : ℕ) : valueOfDigits (Nat.toDigits 10 n) = n := by
  rw [Collation.valueOfDigits_eq_ofDigitChars, Nat.ofDigitChars_ten_toDigits]

/-- Zeros behind the digits multiply by ten. -/
theorem valueOfDigits_append_zeros (cs : List Char) (k : ℕ) :
    valueOfDigits (cs ++ List.replicate k '0') = valueOfDigits cs * 10 ^ k := by
  rw [Collation.valueOfDigits_eq_ofDigitChars, Nat.ofDigitChars_append,
    Nat.ofDigitChars_replicate_zero, ← Collation.valueOfDigits_eq_ofDigitChars, Nat.mul_comm]

/-- Zeros in front of the digits do not count. -/
theorem valueOfDigits_zeros_append (k : ℕ) (cs : List Char) :
    valueOfDigits (List.replicate k '0' ++ cs) = valueOfDigits cs := by
  rw [Collation.valueOfDigits_eq_ofDigitChars, Nat.ofDigitChars_append,
    Nat.ofDigitChars_replicate_zero, Nat.mul_zero, ← Collation.valueOfDigits_eq_ofDigitChars]

/-! ### Signs -/

theorem splitSign_of_isDigits (h : isDigits cs = true) (r : List Char) :
    splitSign (cs ++ r) = (false, cs ++ r) := by
  obtain ⟨hne, hall⟩ := isDigits_iff.1 h
  obtain ⟨c, cs, rfl⟩ := List.exists_cons_of_ne_nil hne
  have hdigit : c.isDigit = true := List.all_eq_true.1 hall c (List.mem_cons_self ..)
  have hsign : ∀ (sign : Char) (rest : List Char), sign.isDigit = false →
      c :: (cs ++ r) ≠ sign :: rest := by
    intro sign rest hsign heq
    rw [← (List.cons.inj heq).1, hdigit] at hsign
    cases hsign
  rw [List.cons_append, splitSign]
  · exact fun rest => hsign '+' rest (by decide)
  · exact fun rest => hsign '-' rest (by decide)

/-- A sign is read off the front of what has none. -/
theorem splitSign_append (negative : Bool) (h : splitSign cs = (false, cs)) :
    splitSign ((if negative then ['-'] else []) ++ cs) = (negative, cs) := by
  cases negative with
  | false => exact h
  | true => rfl

/-- A decimal behind a sign is read with it. -/
theorem float?_signed {d : Decimal} (negative : Bool) (hsign : splitSign cs = (false, cs))
    (hd : decimal? cs = some d) :
    float? ((if negative then ['-'] else []) ++ cs) = some (Binary64.ofDecimal negative d) := by
  rw [float?, splitSign_append negative hsign]
  dsimp only
  rw [hd]

/-! ### Integers -/

theorem ofInt_eq (i : ℤ) :
    ofInt i = (if decide (i < 0) then ['-'] else []) ++ Nat.toDigits 10 i.natAbs := by
  rw [ofInt]
  by_cases h : i < 0 <;> simp [h]

theorem splitSign_toDigits (n : ℕ) :
    splitSign (Nat.toDigits 10 n) = (false, Nat.toDigits 10 n) := by
  simpa using splitSign_of_isDigits (isDigits_toDigits n) []

/-- **The numeral of an integer is read as that integer.** -/
theorem int?_ofInt (i : ℤ) : int? (ofInt i) = some i := by
  rw [ofInt_eq, int?, splitSign_append _ (splitSign_toDigits _)]
  dsimp only
  rw [if_pos (isDigits_toDigits _), valueOfDigits_toDigits, Option.some.injEq]
  by_cases h : i < 0
  · rw [if_pos (by simpa using h)]
    omega
  · rw [if_neg (by simpa using h)]
    omega

/-- **As a float the numeral of an integer is read as the nearest one.** -/
theorem float?_ofInt (i : ℤ) : float? (ofInt i) = some (Binary64.ofInt i) := by
  rw [ofInt_eq, float?_signed _ (splitSign_toDigits _) (decimal?_of_isDigits (isDigits_toDigits _)),
    valueOfDigits_toDigits, Binary64.ofDecimal, nearestBitsOfDecimal_natural, Binary64.ofInt]

/-! ### Decimals -/

/-- Digits with a point among them are a decimal of that many places. -/
theorem decimal?_point (hcs : isDigits cs = true) (hplaces : places.all Char.isDigit = true) :
    decimal? (cs ++ '.' :: places) = some ⟨valueOfDigits (cs ++ places), -places.length⟩ := by
  obtain ⟨hne, hall⟩ := isDigits_iff.1 hcs
  have hwhole := List.all_eq_true.1 hall
  have hbehind := List.all_eq_true.1 hplaces
  have htake : (cs ++ '.' :: places).takeWhile Char.isDigit = cs := by
    rw [List.takeWhile_append_of_pos hwhole, List.takeWhile_cons_of_neg (by decide),
      List.append_nil]
  have hdrop : (cs ++ '.' :: places).dropWhile Char.isDigit = '.' :: places := by
    rw [List.dropWhile_append_of_pos hwhole, List.dropWhile_cons_of_neg (by decide)]
  have hplacesTake : places.takeWhile Char.isDigit = places := List.takeWhile_eq_self_iff.2 hbehind
  have hplacesDrop : places.dropWhile Char.isDigit = [] := List.dropWhile_eq_nil_iff.2 hbehind
  simp [decimal?, htake, hdrop, hplacesTake, hplacesDrop, hne, exponent?]

end Numeral

namespace Decimal

/-- The decimal as its positional text shows it: zeros in place of a positive exponent. -/
def written (d : Decimal) : Decimal :=
  match d.exponent with
  | .ofNat e => ⟨d.digits * 10 ^ e, 0⟩
  | .negSucc _ => d

theorem exponent_written_le (d : Decimal) : d.written.exponent ≤ 0 := by
  obtain ⟨digits, exponent⟩ := d
  cases exponent with
  | ofNat e => exact Int.le_refl 0
  | negSucc k => exact (Int.negSucc_lt_zero k).le

theorem numerator_written (d : Decimal) : d.written.numerator = d.numerator := by
  obtain ⟨digits, exponent⟩ := d
  cases exponent with
  | ofNat e =>
    simp only [written, numerator, Int.toNat_zero, tenPow_eq, Int.ofNat_eq_natCast,
      Int.toNat_natCast]
    ring
  | negSucc k => rfl

theorem denominator_written (d : Decimal) : d.written.denominator = d.denominator := by
  obtain ⟨digits, exponent⟩ := d
  cases exponent with
  | ofNat e => simp [written, denominator]
  | negSucc k => rfl

end Decimal

namespace Numeral

/-- A positional text is digits, or digits with a point among them, and it shows the decimal. -/
theorem positional_cases (d : Decimal) :
    (isDigits d.positional = true ∧ d.written = ⟨valueOfDigits d.positional, 0⟩) ∨
    ∃ whole places, d.positional = whole ++ '.' :: places ∧ isDigits whole = true ∧
      places.all Char.isDigit = true ∧
      d.written = ⟨valueOfDigits (whole ++ places), -places.length⟩ := by
  obtain ⟨digits, exponent⟩ := d
  have hall := all_isDigit_toDigits digits
  have hvalue := valueOfDigits_toDigits digits
  rw [Decimal.positional, Decimal.written]
  have hne : Nat.toDigits 10 digits ≠ [] := Nat.toDigits_ne_nil
  generalize Nat.toDigits 10 digits = cs at hall hvalue hne
  cases exponent with
  | ofNat e =>
    refine .inl ⟨isDigits_iff.2 ⟨by simp [hne], by simp [hall]⟩, ?_⟩
    dsimp only
    rw [valueOfDigits_append_zeros, hvalue]
  | negSucc k =>
    right
    dsimp only
    split
    · rename_i hpoint
      have hlength : (cs.drop (cs.length - (k + 1))).length = k + 1 := by
        rw [List.length_drop]
        omega
      have htake : cs.take (cs.length - (k + 1)) ≠ [] := by
        rw [← List.length_pos_iff, List.length_take]
        omega
      refine ⟨_, _, rfl, isDigits_iff.2 ⟨htake, ?_⟩, ?_, ?_⟩
      · exact List.all_eq_true.2 fun c hc => List.all_eq_true.1 hall c (List.mem_of_mem_take hc)
      · exact List.all_eq_true.2 fun c hc => List.all_eq_true.1 hall c (List.mem_of_mem_drop hc)
      · rw [List.take_append_drop, hvalue, hlength]
        rfl
    · rename_i hpoint
      have hlength : (List.replicate (k + 1 - cs.length) '0' ++ cs).length = k + 1 := by
        rw [List.length_append, List.length_replicate]
        omega
      refine ⟨['0'], _, rfl, rfl, by simp [hall], ?_⟩
      rw [hlength, ← List.append_assoc, List.singleton_append, ← List.replicate_succ,
        valueOfDigits_zeros_append, hvalue]
      rfl

/-- **A positional text shows its decimal.** -/
theorem decimal?_positional (d : Decimal) : decimal? d.positional = some d.written := by
  rcases positional_cases d with
    ⟨hdigits, hwritten⟩ | ⟨whole, places, htext, hwhole, hplaces, hwritten⟩
  · rw [decimal?_of_isDigits hdigits, hwritten]
  · rw [htext, decimal?_point hwhole hplaces, hwritten]

theorem splitSign_positional (d : Decimal) : splitSign d.positional = (false, d.positional) := by
  rcases positional_cases d with ⟨hdigits, -⟩ | ⟨whole, places, htext, hwhole, -⟩
  · simpa using splitSign_of_isDigits hdigits []
  · rw [htext]
    exact splitSign_of_isDigits hwhole _

end Numeral

namespace Binary64

/-- A float is put together from its sign and the bits below it. -/
theorem ofMagnitude_magnitudeBits (x : Binary64) :
    ofMagnitude x.isNegative x.magnitudeBits = x := by
  have hlt : x.bits.toNat < 2 ^ 64 := x.bits.toNat_lt
  have hS : signWeight = 2 ^ 63 := by norm_num [signWeight]
  have hbits : (if x.isNegative then signWeight else 0) + x.magnitudeBits = x.bits.toNat := by
    rw [isNegative, magnitudeBits, hS]
    by_cases h : 2 ^ 63 ≤ x.bits.toNat
    · rw [if_pos (by simpa using h)]
      omega
    · rw [if_neg (by simpa using h)]
      omega
  rw [ofMagnitude, hbits, UInt64.ofNat_toNat]

end Binary64

namespace Numeral

/-- **The text of a float is read as that float,** unless it is a NaN. -/
theorem float?_text {x : Binary64} (h : x.isNaN = false) : float? x.text = some x := by
  have hnan : ¬Binary64.infinityBits < x.magnitudeBits := by simpa [Binary64.isNaN] using h
  have hself := x.ofMagnitude_magnitudeBits
  simp only [Binary64.text, if_neg hnan]
  split
  · rename_i hinfinite
    have hdecimal : decimal? "inf".toList = none := by decide
    have hname : isName "inf" "inf".toList = true := by decide
    rw [float?, splitSign_append _ rfl]
    dsimp only
    rw [hdecimal]
    dsimp only
    rw [hname, Bool.true_or, if_pos rfl, Binary64.infinity, ← hinfinite, hself]
  · split
    · rename_i hzero
      have hbits : Binary64.nearestBitsOfDecimal ⟨0, 0⟩ = 0 := rfl
      have hdecimal : decimal? ['0'] = some ⟨0, 0⟩ := by decide
      rw [float?_signed _ rfl hdecimal, Binary64.ofDecimal, hbits, ← hzero, hself]
    · rename_i hinfinite hzero
      have hpos := Nat.pos_of_ne_zero hzero
      have hencloses := Binary64.encloses_shortest hpos
      rw [← Decimal.numerator_written, ← Decimal.denominator_written] at hencloses
      have hbits := Binary64.nearestBitsOfDecimal_of_encloses hpos (by omega)
        (Decimal.exponent_written_le _) hencloses
      rw [float?_signed _ (splitSign_positional _) (decimal?_positional _), Binary64.ofDecimal,
        hbits, hself]

/-- The text of a NaN is read as one, so the text of any float is read as one at the same point. -/
theorem exists_float?_text (x : Binary64) : ∃ y, float? x.text = some y ∧ y.point? = x.point? := by
  cases h : x.isNaN with
  | false => exact ⟨x, float?_text h, rfl⟩
  | true =>
    have htext : x.text = "NaN".toList := by
      rw [Binary64.text, if_pos (by simpa [Binary64.isNaN] using h)]
    refine ⟨.nan, by rw [htext]; decide, ?_⟩
    rw [(x.point?_eq_none_iff).2 h]
    decide

end Numeral
end TableQuery
