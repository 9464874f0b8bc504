/-
# Tokens of a text

Collation never cuts a text into pieces, yet it compares pieces: it moves on by a whole run of
digits or by one other character, in both texts at once. Those pieces are the *tokens* of a text.

Tokens compare at two levels. The *key* of a run is the number it denotes and that of another
character is its lowercase form; the leading digit stands for a run that meets another character.
What is left to tell tokens of one key apart is their *spelling*: the length of a run, and the case
of a character.

`walk_eq` says what the walk does: it compares the lists of tokens by key, and where that finds no
difference it answers with the tie it was given, and then with the first difference in spelling.
The walk looks at keys and spellings at once and keeps the first difference in spelling for later;
the two passes over the tokens give the same answer because a difference of keys ends the walk.
-/

import TableQuery.Collation

namespace TableQuery
namespace Collation

/-- A run of digits, or another character. -/
inductive Token where
  /-- One or more digits. -/
  | run (first : Char) (rest : List Char) (isRun : (first :: rest).all Char.isDigit = true)
  /-- A character that is no digit. -/
  | other (c : Char) (notDigit : c.isDigit = false)

namespace Token

/-- The characters of a token. -/
def chars : Token → List Char
  | run first rest _ => first :: rest
  | other c _ => [c]

/-- The character a token starts with. -/
def leading : Token → Char
  | run first _ _ => first
  | other c _ => c

/-- Tokens by their keys: runs by the numbers they denote, any other pair by the lowercase forms of
the leading characters. -/
def compareKey : Token → Token → Ordering
  | run c l _, run d r _ => compareRuns (c :: l) (d :: r)
  | t, u => compare (Text.lowercase t.leading) (Text.lowercase u.leading)

/-- Tokens of one key by their spelling: the shorter run, which has fewer leading zeros, comes
first, and of characters the lowercase one. A run and another character never have one key. -/
def compareSpelling : Token → Token → Ordering
  | run c l _, run d r _ => compare (c :: l).length (d :: r).length
  | other c _, other d _ => compareCase c d
  | run _ _ _, other _ _ => .lt
  | other _ _, run _ _ _ => .gt

end Token

/-- The tokens of a text. -/
def tokens : List Char → List Token
  | [] => []
  | c :: cs =>
    if h : c.isDigit = true then
      .run c (cs.takeWhile Char.isDigit) (by simp [h]) :: tokens (cs.dropWhile Char.isDigit)
    else
      .other c (by simpa using h) :: tokens cs
  termination_by cs => cs.length
  decreasing_by
  · have := (List.dropWhile_suffix Char.isDigit (l := cs)).length_le
    simp; omega
  · simp

@[simp] theorem tokens_nil : tokens [] = [] := by rw [tokens]

theorem tokens_of_isDigit {c : Char} {cs : List Char} (h : c.isDigit = true) :
    tokens (c :: cs) =
      .run c (cs.takeWhile Char.isDigit) (by simp [h]) :: tokens (cs.dropWhile Char.isDigit) := by
  rw [tokens, dif_pos h]

theorem tokens_of_not_isDigit {c : Char} {cs : List Char} (h : c.isDigit = false) :
    tokens (c :: cs) = .other c h :: tokens cs := by
  rw [tokens, dif_neg (by simp [h])]

theorem tokens_cons_ne_nil (c : Char) (cs : List Char) : tokens (c :: cs) ≠ [] := by
  rw [tokens]
  split <;> simp

/-- **Nothing is lost:** a text is its tokens, one after the other. -/
theorem flatMap_chars_tokens (cs : List Char) : (tokens cs).flatMap Token.chars = cs := by
  fun_induction tokens cs with
  | case1 => rfl
  | case2 c cs h ih => simp [Token.chars, ih]
  | case3 c cs h ih => simp [Token.chars, ih]

theorem tokens_injective {l r : List Char} (h : tokens l = tokens r) : l = r := by
  rw [← flatMap_chars_tokens l, h, flatMap_chars_tokens]

/-! ### The walk -/

/-- A digit and another character differ in lowercase. -/
theorem compare_lowercase_ne_eq {c d : Char} (h : c.isDigit ≠ d.isDigit) :
    compare (Text.lowercase c) (Text.lowercase d) ≠ .eq := by
  rw [ne_eq, Std.LawfulEqOrd.compare_eq_iff_eq]
  intro heq
  obtain ⟨e, es, he⟩ := List.exists_cons_of_ne_nil (Text.lowercase_ne_nil c)
  apply h
  rw [← Text.isDigit_of_lowercase_eq_cons he, Text.isDigit_of_lowercase_eq_cons (heq ▸ he)]

/-- After a difference nothing matters. -/
theorem then_of_ne_eq {o : Ordering} (h : o ≠ .eq) (a : Ordering) : o.then a = o := by
  cases o
  · rfl
  · exact absurd rfl h
  · rfl

/-- Comparing heads and tails at two levels, with a tie kept from before, is comparing the heads at
both levels, keeping the tie, and going on with the tails. -/
theorem then_then_then (key keys tie spelling spellings : Ordering) :
    (key.then keys).then (tie.then (spelling.then spellings)) =
      key.then (keys.then ((tie.then spelling).then spellings)) := by
  rw [Ordering.then_assoc, Ordering.then_assoc]

/-- **The walk compares tokens at two levels:** first all of them by key, then, behind the tie it
was given, all of them by spelling. -/
theorem walk_eq (l r : List Char) (tie : Ordering) :
    walk l r tie =
      (List.compareLex Token.compareKey (tokens l) (tokens r)).then
        (tie.then (List.compareLex Token.compareSpelling (tokens l) (tokens r))) := by
  fun_induction walk l r tie with
  | case1 tie => simp [List.compareLex_nil_nil]
  | case2 tie d r =>
    obtain ⟨u, us, hu⟩ := List.exists_cons_of_ne_nil (tokens_cons_ne_nil d r)
    rw [tokens_nil, hu, List.compareLex_nil_cons]
    rfl
  | case3 tie c l =>
    obtain ⟨t, ts, ht⟩ := List.exists_cons_of_ne_nil (tokens_cons_ne_nil c l)
    rw [tokens_nil, ht, List.compareLex_cons_nil]
    rfl
  | case4 tie c l d r h lRun rRun ih =>
    rw [Bool.and_eq_true] at h
    rw [ih, tokens_of_isDigit h.1, tokens_of_isDigit h.2, List.compareLex_cons_cons,
      List.compareLex_cons_cons, then_then_then]
    rfl
  | case5 tie c l d r h ih =>
    rcases hc : c.isDigit <;> rcases hd : d.isDigit
    · rw [ih, tokens_of_not_isDigit hc, tokens_of_not_isDigit hd, List.compareLex_cons_cons,
        List.compareLex_cons_cons, then_then_then]
      rfl
    -- A digit against another character ends the walk, which stays within no run.
    · have hne := compare_lowercase_ne_eq (c := c) (d := d) (by simp [hc, hd])
      rw [tokens_of_not_isDigit hc, tokens_of_isDigit hd, List.compareLex_cons_cons,
        Ordering.then_assoc, then_of_ne_eq hne]
      exact (then_of_ne_eq hne _).symm
    · have hne := compare_lowercase_ne_eq (c := c) (d := d) (by simp [hc, hd])
      rw [tokens_of_isDigit hc, tokens_of_not_isDigit hd, List.compareLex_cons_cons,
        Ordering.then_assoc, then_of_ne_eq hne]
      exact (then_of_ne_eq hne _).symm
    · simp [hc, hd] at h

/-- Lists of tokens, by keys and then by spelling. A proper beginning of a list comes first. -/
def compareTokens : List Token → List Token → Ordering :=
  compareLex (List.compareLex Token.compareKey) (List.compareLex Token.compareSpelling)

/-- The natural order of two strings is that of their tokens. -/
theorem natural_eq (l r : String) :
    natural l r = compareTokens (tokens l.toList) (tokens r.toList) :=
  walk_eq _ _ _

end Collation
end TableQuery
