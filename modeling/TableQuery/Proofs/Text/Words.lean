/-
# Where words and quoted strings end

A text that is put together from pieces can be taken apart again if every piece shows where it ends.
A *word* has no blank and no comma in it, so it ends where a blank or a comma stands, or the text
does (`IsWord.append_inj`). A quoted string ends at the first apostrophe that is not followed by
another one, since those inside it come in pairs (`quote_append_inj`).

The texts of numbers, booleans and the empty cell are words without apostrophes.
-/

import TableQuery.Text.Quoted
import TableQuery.Value.Text

namespace TableQuery
namespace Text

/-- Whether a character ends a word: a blank or a comma. -/
def isSeparator (c : Char) : Bool := c == ' ' || c == ','

/-- A text without separators. -/
def IsWord (cs : List Char) : Prop := ∀ c ∈ cs, isSeparator c = false

-- Found by instance search this would try every character, not those of the list.
instance (cs : List Char) : Decidable (IsWord cs) := List.decidableBAll _ cs

/-- A text before which a word ends: it has no first character, or that is a separator. -/
def EndsWord (cs : List Char) : Prop := ∀ c ∈ cs.head?, isSeparator c = true

theorem endsWord_nil : EndsWord [] := fun _ h => nomatch h

theorem endsWord_cons {c : Char} (h : isSeparator c = true) (cs : List Char) :
    EndsWord (c :: cs) := by
  rintro d ⟨⟩
  exact h

variable {a b r s : List Char}

/-- **A word in front of a separator can be read back.** -/
theorem IsWord.append_inj (ha : IsWord a) (hb : IsWord b) (hr : EndsWord r) (hs : EndsWord s)
    (h : a ++ r = b ++ s) : a = b ∧ r = s := by
  induction a generalizing b with
  | nil =>
    cases b with
    | nil => exact ⟨rfl, h⟩
    | cons c b =>
      have hc := hr c (by rw [← List.nil_append r, h]; rfl)
      exact absurd ((hb c (List.mem_cons_self ..)).symm.trans hc) Bool.false_ne_true
  | cons c a ih =>
    cases b with
    | nil =>
      have hc := hs c (by rw [← List.nil_append s, ← h]; rfl)
      exact absurd ((ha c (List.mem_cons_self ..)).symm.trans hc) Bool.false_ne_true
    | cons d b =>
      obtain ⟨rfl, htail⟩ := List.cons.inj h
      obtain ⟨rfl, hrest⟩ := ih (fun e he => ha e (List.mem_cons_of_mem c he))
        (fun e he => hb e (List.mem_cons_of_mem c he)) htail
      exact ⟨rfl, hrest⟩

/-! ### Quoted strings -/

/-- What is written for a character inside quotes, before the rest. -/
theorem doubleQuotes_cons (c : Char) (cs : List Char) :
    doubleQuotes (c :: cs) = (if c = '\'' then ['\'', '\''] else [c]) ++ doubleQuotes cs := by
  rw [doubleQuotes, List.flatMap_cons]
  rfl

/-- Also inside quotes a character shows itself first. -/
theorem head?_doubleQuotes_cons (c : Char) (cs r : List Char) :
    (doubleQuotes (c :: cs) ++ r).head? = some c := by
  rw [doubleQuotes_cons]
  split
  · rename_i hc
    exact congrArg some hc.symm
  · rfl

/-- **The apostrophe that ends a quoted string is the first that is not followed by another.** -/
theorem doubleQuotes_append_inj (hr : r.head? ≠ some '\'') (hs : s.head? ≠ some '\'')
    (h : doubleQuotes a ++ '\'' :: r = doubleQuotes b ++ '\'' :: s) : a = b ∧ r = s := by
  induction a generalizing b with
  | nil =>
    cases b with
    | nil => exact ⟨rfl, (List.cons.inj h).2⟩
    | cons c b =>
      rw [doubleQuotes_cons] at h
      split at h
      -- The closing apostrophe of one is the first of a pair in the other.
      · exact absurd (congrArg List.head? (List.cons.inj h).2) hr
      · rename_i hc
        exact absurd (List.cons.inj h).1.symm hc
  | cons c a ih =>
    cases b with
    | nil =>
      rw [doubleQuotes_cons] at h
      split at h
      · exact absurd (congrArg List.head? (List.cons.inj h).2.symm) hs
      · rename_i hc
        exact absurd (List.cons.inj h).1 hc
    | cons d b =>
      have hhead := congrArg List.head? h
      rw [head?_doubleQuotes_cons, head?_doubleQuotes_cons] at hhead
      obtain rfl := Option.some.inj hhead
      rw [doubleQuotes_cons, doubleQuotes_cons, List.append_assoc, List.append_assoc] at h
      obtain ⟨rfl, hrest⟩ := ih (List.append_cancel_left h)
      exact ⟨rfl, hrest⟩

theorem EndsWord.head?_ne_quote (h : EndsWord r) : r.head? ≠ some '\'' :=
  fun hhead => absurd (h '\'' hhead) (by decide)

/-- **A quoted string in front of a separator can be read back,** whatever it contains. -/
theorem quote_append_inj (hr : EndsWord r) (hs : EndsWord s) (h : quote a ++ r = quote b ++ s) :
    a = b ∧ r = s := by
  rw [quote, quote, List.cons_append, List.cons_append, List.append_assoc, List.append_assoc] at h
  exact doubleQuotes_append_inj hr.head?_ne_quote hs.head?_ne_quote (List.cons.inj h).2

/-! ### Numerals -/

/-- A character that may stand in the text of a number, or in a name such as `NaN`. -/
def isNumeralChar (c : Char) : Bool := c.isAlphanum || c == '-' || c == '.'

/-- A text of such characters. -/
def IsNumeral (cs : List Char) : Prop := ∀ c ∈ cs, isNumeralChar c = true

instance (cs : List Char) : Decidable (IsNumeral cs) := List.decidableBAll _ cs

theorem IsNumeral.isWord (h : IsNumeral a) : IsWord a := by
  intro c hc
  rw [Bool.eq_false_iff]
  intro hsep
  have hchar := h c hc
  rw [isSeparator, Bool.or_eq_true, beq_iff_eq, beq_iff_eq] at hsep
  rcases hsep with rfl | rfl <;> exact absurd hchar (by decide)

theorem IsNumeral.quote_not_mem (h : IsNumeral a) : '\'' ∉ a :=
  fun hmem => absurd (h '\'' hmem) (by decide)

theorem IsNumeral.append (ha : IsNumeral a) (hb : IsNumeral b) : IsNumeral (a ++ b) := by
  intro c hc
  rcases List.mem_append.1 hc with hc | hc
  · exact ha c hc
  · exact hb c hc

theorem IsNumeral.cons {c : Char} (hc : isNumeralChar c = true) (ha : IsNumeral a) :
    IsNumeral (c :: a) := by
  intro d hd
  rcases List.mem_cons.1 hd with rfl | hd
  · exact hc
  · exact ha d hd

theorem isNumeral_replicate (n : Nat) : IsNumeral (List.replicate n '0') := by
  intro c hc
  rw [List.eq_of_mem_replicate hc]
  rfl

theorem isNumeral_toDigits (n : Nat) : IsNumeral (Nat.toDigits 10 n) := by
  intro c hc
  have hdigit : c.isDigit = true := Nat.isDigit_of_mem_toDigits (by decide) (by decide) hc
  rw [isNumeralChar, Char.isAlphanum, hdigit, Bool.or_true]
  rfl

theorem isNumeral_ofInt (i : Int) : IsNumeral (Numeral.ofInt i) := by
  rw [Numeral.ofInt]
  split
  · exact (isNumeral_toDigits _).cons rfl
  · exact isNumeral_toDigits _

theorem isNumeral_positional (d : Decimal) : IsNumeral d.positional := by
  have hdigits := isNumeral_toDigits d.digits
  rw [Decimal.positional]
  dsimp only
  split
  · exact hdigits.append (isNumeral_replicate _)
  · split
    · exact (IsNumeral.append (fun c hc => hdigits c (List.mem_of_mem_take hc))
        (.cons rfl fun c hc => hdigits c (List.mem_of_mem_drop hc)))
    · exact .cons rfl (.cons rfl ((isNumeral_replicate _).append hdigits))

theorem isNumeral_text_float (x : Binary64) : IsNumeral x.text := by
  have hsign : IsNumeral (if x.isNegative then ['-'] else []) := by
    split
    · exact .cons rfl fun _ h => nomatch h
    · exact fun _ h => nomatch h
  rw [Binary64.text]
  split
  · decide
  · split
    · exact hsign.append (by decide)
    · split
      · exact hsign.append (.cons rfl fun _ h => nomatch h)
      · exact hsign.append (isNumeral_positional _)

end Text

/-- **The text of a cell that holds no string is a numeral** or looks like one. -/
theorem Value.isNumeral_text {v : Value} (h : v.str? = none) : Text.IsNumeral v.text.toList := by
  cases v with
  | null => decide
  | bool b => cases b <;> decide
  | int i =>
    rw [text, String.toList_ofList]
    exact Text.isNumeral_ofInt i.toInt
  | float x =>
    rw [text, String.toList_ofList]
    exact Text.isNumeral_text_float x
  | str s => cases h

end TableQuery
