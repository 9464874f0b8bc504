/-
# Natural collation is a strict total order

Both levels at which tokens compare are orders by a function of the token, and lists of tokens
compare lexicographically at each level, so the two levels together are an order of texts. What has
to be seen is that there is one such function for keys although runs and characters are compared by
different rules. Every run can stand at the place of a single digit: forms of other characters
do not start with a digit, so each lies below all digits or above all of them.

Texts that are equal at both levels have the same tokens. A run is determined by the number it
denotes and its length, and a character by its own code point, which decides between characters of
one case.
-/

import TableQuery.Proofs.Collation.Tokens

namespace TableQuery
namespace Collation

open Std

/-- The digits of a run that count, its leading zeros dropped. -/
def significant (digits : List Char) : List Char := digits.dropWhile (· == '0')

/-- Digit runs by the numbers they denote, as an order by two functions of the run. -/
theorem compareRuns_eq (l r : List Char) :
    compareRuns l r =
      (compare (significant l).length (significant r).length).then
        (compare (significant l) (significant r)) := rfl

/-- A run is its leading zeros and the digits that count. -/
theorem replicate_append_significant (l : List Char) :
    List.replicate (l.length - (significant l).length) '0' ++ significant l = l := by
  have hsplit : l.takeWhile (· == '0') ++ significant l = l := List.takeWhile_append_dropWhile
  have hlength : (l.takeWhile (· == '0')).length = l.length - (significant l).length := by
    have := congrArg List.length hsplit
    rw [List.length_append] at this
    omega
  have hzeros : l.takeWhile (· == '0') = List.replicate (l.takeWhile (· == '0')).length '0' := by
    rw [List.eq_replicate_iff]
    exact ⟨rfl, fun c hc => by simpa using List.all_eq_true.1 List.all_takeWhile c hc⟩
  rw [← hlength, ← hzeros, hsplit]

theorem eq_of_significant_eq {l r : List Char} (hs : significant l = significant r)
    (hl : l.length = r.length) : l = r := by
  rw [← replicate_append_significant l, hs, hl, replicate_append_significant]

/-! ### Characters -/

theorem compare_char_of_lt {c d : Char} (h : c.toNat < d.toNat) : compare c d = .lt := by
  change compareOfLessAndEq c d = .lt
  rw [compareOfLessAndEq, if_pos (Char.lt_def.2 h)]

/-- Two digits compare with the form of another character alike, and neither is equal to it. -/
theorem compare_digit_lowercase {c d e : Char} (hc : c.isDigit = true) (hd : d.isDigit = true)
    (he : e.isDigit = false) :
    compare [c] (Text.lowercase e) = compare [d] (Text.lowercase e) := by
  obtain ⟨f, fs, hf⟩ := List.exists_cons_of_ne_nil (Text.lowercase_ne_nil e)
  have hfd : f.isDigit = false := (Text.isDigit_of_lowercase_eq_cons hf).trans he
  rw [Text.isDigit_iff] at hc hd
  rw [Bool.eq_false_iff, ne_eq, Text.isDigit_iff] at hfd
  rw [hf, List.compare_cons_cons, List.compare_cons_cons]
  rcases Nat.lt_or_ge f.toNat 48 with h | h
  · have hgt : ∀ a : Char, 48 ≤ a.toNat → compare a f = .gt := fun a ha =>
      OrientedCmp.gt_of_lt (compare_char_of_lt (by omega))
    rw [hgt c hc.1, hgt d hd.1]
  · have hlt : ∀ a : Char, a.toNat ≤ 57 → compare a f = .lt := fun a ha =>
      compare_char_of_lt (by omega)
    rw [hlt c hc.2, hlt d hd.2]

/-- Characters of one lowercase form, as an order by two functions of the character. -/
theorem compareCase_eq (c d : Char) :
    compareCase c d =
      (compare (!Text.isLowercase c) (!Text.isLowercase d)).then (compare c d) := by
  unfold compareCase
  rcases Text.isLowercase c <;> rcases Text.isLowercase d <;> rfl

theorem compareCase_eq_eq_iff {c d : Char} : compareCase c d = .eq ↔ c = d := by
  rw [compareCase_eq, Ordering.then_eq_eq, LawfulEqOrd.compare_eq_iff_eq,
    LawfulEqOrd.compare_eq_iff_eq]
  constructor
  · exact And.right
  · rintro rfl
    exact ⟨rfl, rfl⟩

namespace Token

/-! ### Keys -/

/-- Where a token stands among the lowercase forms. All runs stand at one digit. -/
def place : Token → List Char
  | run _ _ _ => ['0']
  | other c _ => Text.lowercase c

/-- The digits of a run that count, and none of another character. -/
def digits : Token → List Char
  | run c l _ => significant (c :: l)
  | other _ _ => []

theorem isDigit_of_all {c : Char} {l : List Char} (h : (c :: l).all Char.isDigit = true) :
    c.isDigit = true := by
  rw [List.all_cons, Bool.and_eq_true] at h
  exact h.1

/-- A digit compares with another character as the place of its run does. -/
theorem compare_lowercase_eq_place {c d : Char} (hc : c.isDigit = true) (hd : d.isDigit = false) :
    compare (Text.lowercase c) (Text.lowercase d) = compare ['0'] (Text.lowercase d) := by
  rw [Text.lowercase_of_isDigit hc, compare_digit_lowercase hc (d := '0') (by decide) hd]

/-- **One order of keys:** tokens compare by their places, and runs, which share one, by the
numbers they denote. -/
theorem compareKey_eq (t u : Token) :
    t.compareKey u =
      (compare t.place u.place).then
        ((compare t.digits.length u.digits.length).then (compare t.digits u.digits)) := by
  rcases t with ⟨c, l, hl⟩ | ⟨c, hc⟩ <;> rcases u with ⟨d, r, hr⟩ | ⟨d, hd⟩
  · exact compareRuns_eq (c :: l) (d :: r)
  · have hdigit := isDigit_of_all hl
    have hne := compare_lowercase_ne_eq (c := c) (d := d) (by simp [hdigit, hd])
    have hplace := compare_lowercase_eq_place hdigit hd
    exact hplace.trans (then_of_ne_eq (hplace ▸ hne) _).symm
  · have hdigit := isDigit_of_all hr
    have hne := compare_lowercase_ne_eq (c := c) (d := d) (by simp [hdigit, hc])
    have hplace : compare (Text.lowercase c) (Text.lowercase d) =
        compare (Text.lowercase c) ['0'] := by
      rw [OrientedOrd.eq_swap, compare_lowercase_eq_place hdigit hc, ← OrientedOrd.eq_swap]
    exact hplace.trans (then_of_ne_eq (hplace ▸ hne) _).symm
  · exact Ordering.then_eq.symm

instance : TransCmp compareKey := by
  have : compareKey = compareLex (compareOn place)
      (compareLex (compareOn fun t => t.digits.length) (compareOn digits)) := by
    funext t u
    exact compareKey_eq t u
  rw [this]
  infer_instance

/-! ### Spelling -/

instance : TransCmp compareCase := by
  have : compareCase = compareLex (compareOn fun c => !Text.isLowercase c) (compareOn id) := by
    funext c d
    exact compareCase_eq c d
  rw [this]
  infer_instance

/-- Runs by length, then the other characters by case. -/
instance : TransCmp compareSpelling where
  eq_swap {t u} := by
    rcases t with ⟨c, l, hl⟩ | ⟨c, hc⟩ <;> rcases u with ⟨d, r, hr⟩ | ⟨d, hd⟩
    · exact OrientedOrd.eq_swap
    · rfl
    · rfl
    · have h : compareCase c d = (compareCase d c).swap := OrientedCmp.eq_swap
      exact h
  isLE_trans {t u v} htu huv := by
    rcases t with ⟨c, l, hl⟩ | ⟨c, hc⟩ <;> rcases u with ⟨d, r, hr⟩ | ⟨d, hd⟩ <;>
      rcases v with ⟨e, s, hs⟩ | ⟨e, he⟩
    · exact TransOrd.isLE_trans htu huv
    · rfl
    · exact absurd huv Bool.false_ne_true
    · rfl
    · exact absurd htu Bool.false_ne_true
    · exact absurd htu Bool.false_ne_true
    · exact absurd huv Bool.false_ne_true
    · have h : (compareCase c e).isLE := TransCmp.isLE_trans (b := d) htu huv
      exact h

/-- **Key and spelling make a token.** A run is told by the digits that count and its length. -/
theorem eq_of_compare_eq {t u : Token} (hkey : t.compareKey u = .eq)
    (hspelling : t.compareSpelling u = .eq) : t = u := by
  rcases t with ⟨c, l, hl⟩ | ⟨c, hc⟩ <;> rcases u with ⟨d, r, hr⟩ | ⟨d, hd⟩
  · have hdigits : significant (c :: l) = significant (d :: r) := by
      have h : compareRuns (c :: l) (d :: r) = .eq := hkey
      rw [compareRuns_eq, Ordering.then_eq_eq] at h
      exact LawfulEqOrd.eq_of_compare h.2
    have hlength : (c :: l).length = (d :: r).length := LawfulEqOrd.eq_of_compare hspelling
    obtain ⟨rfl, rfl⟩ := List.cons.inj (eq_of_significant_eq hdigits hlength)
    rfl
  · cases (show Ordering.lt = .eq from hspelling)
  · cases (show Ordering.gt = .eq from hspelling)
  · obtain rfl := compareCase_eq_eq_iff.1 hspelling
    rfl

end Token

/-! ### Texts -/

instance : TransCmp compareTokens :=
  inferInstanceAs (TransCmp (compareLex (List.compareLex Token.compareKey)
    (List.compareLex Token.compareSpelling)))

/-- Lists of tokens that differ neither in keys nor in spelling are the same. -/
theorem eq_of_compareTokens_eq {ts us : List Token} (h : compareTokens ts us = .eq) : ts = us := by
  rw [compareTokens, compareLex_eq_eq] at h
  obtain ⟨hkeys, hspellings⟩ := h
  induction ts generalizing us with
  | nil =>
    cases us with
    | nil => rfl
    | cons u us => exact absurd hkeys (by rw [List.compareLex_nil_cons]; decide)
  | cons t ts ih =>
    cases us with
    | nil => exact absurd hkeys (by rw [List.compareLex_cons_nil]; decide)
    | cons u us =>
      rw [List.compareLex_cons_cons, Ordering.then_eq_eq] at hkeys hspellings
      rw [Token.eq_of_compare_eq hkeys.1 hspellings.1, ih hkeys.2 hspellings.2]

instance : TransCmp natural where
  eq_swap {a b} := by
    rw [natural_eq, natural_eq]
    exact OrientedCmp.eq_swap
  isLE_trans {a b c} hab hbc := by
    rw [natural_eq] at hab hbc ⊢
    exact TransCmp.isLE_trans hab hbc

instance : LawfulEqCmp natural where
  eq_of_compare {a b} h := by
    rw [natural_eq] at h
    exact String.toList_inj.1 (tokens_injective (eq_of_compareTokens_eq h))

/-- **Natural collation is a strict total order of all strings:** the two ways round agree, only
identical strings are equal, and being before is transitive. -/
theorem natural_strictTotalOrder :
    (∀ a b, natural a b = (natural b a).swap) ∧
    (∀ a b, natural a b = .eq ↔ a = b) ∧
    ∀ a b c, natural a b = .lt → natural b c = .lt → natural a c = .lt := by
  refine ⟨fun a b => OrientedCmp.eq_swap, fun a b => LawfulEqCmp.compare_eq_iff_eq, ?_⟩
  intro a b c hab hbc
  exact TransCmp.lt_trans hab hbc

end Collation
end TableQuery
