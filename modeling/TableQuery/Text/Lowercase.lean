/-
# Lowercase

The lowercase form of a character, by the case mapping of Unicode, and the property of being
lowercase. Every form is one character but that of the capital I with a dot above, which is a small
`i` and the combining dot. The mapping looks at one character only, so a sigma at the end of a word
is mapped like any other.

What collation needs of it: a digit is its own form, and no other character's form starts with a
digit.
-/

import TableQuery.Text.Lowercase.Ranges

namespace TableQuery
namespace Text

/-- The lowercase form of a character. -/
def lowercase (c : Char) : List Char :=
  if c.toNat < 128 then [c.toLower]
  else if c = '\u0130' then ['i', '\u0307']
  else match capitals.find? (·.contains c.toNat) with
    | some s => [Char.ofNat (s.small + (c.toNat - s.first))]
    | none => [c]

/-- Whether a character has the property `Lowercase`. -/
def isLowercase (c : Char) : Bool :=
  if c.toNat < 128 then c.isLower else smallLetters.any (·.contains c.toNat)

theorem isDigit_iff (c : Char) : c.isDigit = true ↔ 48 ≤ c.toNat ∧ c.toNat ≤ 57 := by
  simp [Char.isDigit, UInt32.le_iff_toNat_le]

theorem toNat_toLower (c : Char) :
    c.toLower.toNat = if 65 ≤ c.toNat ∧ c.toNat ≤ 90 then c.toNat + 32 else c.toNat := by
  have hc : c.val.toNat = c.toNat := rfl
  have hA : 'A'.val.toNat = 65 := rfl
  have hZ : 'Z'.val.toNat = 90 := rfl
  unfold Char.toLower
  simp only [ge_iff_le, UInt32.le_iff_toNat_le, hA, hZ, hc]
  split <;> rename_i h
  · change (c.val + 32).toNat = _
    have h32 : (32 : UInt32).toNat = 32 := rfl
    rw [UInt32.toNat_add, hc]
    omega
  · rfl

theorem toNat_charOfNat (n : Nat) : (Char.ofNat n).toNat = n ∨ (Char.ofNat n).toNat = 0 := by
  by_cases h : n.isValidChar
  · left
    rw [Char.ofNat, dif_pos h]
    rfl
  · right
    rw [Char.ofNat, dif_neg h]
    rfl

theorem lowercase_ne_nil (c : Char) : lowercase c ≠ [] := by
  unfold lowercase
  split
  · simp
  · split
    · simp
    · split <;> simp

theorem lowercase_of_isDigit {c : Char} (h : c.isDigit = true) : lowercase c = [c] := by
  rw [isDigit_iff] at h
  rw [lowercase, if_pos (by omega)]
  have : c.toLower = c := by
    apply Char.toNat_inj.1
    rw [toNat_toLower, if_neg (by omega)]
  rw [this]

/-- **Only digits have forms that start with a digit.** -/
theorem isDigit_of_lowercase_eq_cons {c d : Char} {cs : List Char}
    (h : lowercase c = d :: cs) : d.isDigit = c.isDigit := by
  by_cases hc : c.isDigit = true
  · rw [lowercase_of_isDigit hc] at h
    rw [(List.cons.inj h).1]
  · rw [Bool.eq_false_iff.2 hc, Bool.eq_false_iff, ne_eq, isDigit_iff]
    rw [isDigit_iff] at hc
    unfold lowercase at h
    split at h
    · obtain ⟨rfl, -⟩ := List.cons.inj h
      rw [toNat_toLower]
      split <;> omega
    · split at h
      · obtain ⟨rfl, -⟩ := List.cons.inj h
        decide
      · split at h
        · rename_i s hs
          have := small_ge_of_mem_capitals (List.mem_of_find?_eq_some hs)
          obtain ⟨rfl, -⟩ := List.cons.inj h
          rcases toNat_charOfNat (s.small + (c.toNat - s.first)) with hn | hn <;> omega
        · obtain ⟨rfl, -⟩ := List.cons.inj h
          exact hc

end Text
end TableQuery
