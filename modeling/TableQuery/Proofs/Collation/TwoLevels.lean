/-
# Collation at two levels

Every text is split in one way into runs of digits, as long as possible, and other characters
(`isSplit_iff`). Collation compares these tokens at two levels: first all of them, runs by the
numbers they denote and any other pair by the lowercase forms of the leading characters
(`Token.compareFirst`), and where that finds no difference the first pair that is written
differently decides (`compareWriting`).

A beginning that ends in no digit is a beginning of the tokens as well, and does not matter. Of
strings that differ at the first level only the first level matters: neither case nor leading
zeros.
-/

import TableQuery.Proofs.Collation.Numbers
import TableQuery.Proofs.Collation.Scan
import Mathlib.Data.List.Chain

namespace TableQuery
namespace Collation

open Std Numeral

namespace Token

/-- Whether a token is a run of digits. -/
def isRun : Token → Bool
  | run _ _ _ => true
  | other _ _ => false

/-- Tokens at the first level: runs by the numbers they denote, any other pair by the lowercase
forms of the leading characters. -/
def compareFirst : Token → Token → Ordering
  | run c l _, run d r _ => compare (valueOfDigits (c :: l)) (valueOfDigits (d :: r))
  | t, u => compare (Text.lowercase t.leading) (Text.lowercase u.leading)

theorem compareFirst_eq_compareKey : compareFirst = compareKey := by
  funext t u
  rcases t with ⟨c, l, hl⟩ | ⟨c, hc⟩ <;> rcases u with ⟨d, r, hr⟩ | ⟨d, hd⟩
  · exact (compareRuns_eq_compare_valueOfDigits hl hr).symm
  · rfl
  · rfl
  · rfl

/-- Tokens are told apart by how they are written. -/
theorem chars_injective {t u : Token} (h : t.chars = u.chars) : t = u := by
  rcases t with ⟨c, l, hl⟩ | ⟨c, hc⟩ <;> rcases u with ⟨d, r, hr⟩ | ⟨d, hd⟩
  · obtain ⟨rfl, rfl⟩ := List.cons.inj h
    rfl
  · obtain ⟨rfl, -⟩ := List.cons.inj h
    rw [isDigit_of_all hl] at hd
    cases hd
  · obtain ⟨rfl, -⟩ := List.cons.inj h
    rw [isDigit_of_all hr] at hc
    cases hc
  · obtain ⟨rfl, -⟩ := List.cons.inj h
    rfl

end Token

/-! ### The one split of a text -/

/-- The tokens are a split of a text: in a row they are the text, and no run follows a run, so that
every run is as long as it can be. -/
structure IsSplit (ts : List Token) (text : List Char) : Prop where
  text : ts.flatMap Token.chars = text
  maximal : ts.IsChain fun t u => ¬(t.isRun = true ∧ u.isRun = true)

/-- What starts with no digit starts with no run. -/
theorem isRun_head?_tokens {cs : List Char} (h : ∀ c ∈ cs.head?, c.isDigit = false) :
    ∀ t ∈ (tokens cs).head?, t.isRun = false := by
  intro t ht
  cases cs with
  | nil => simp at ht
  | cons c cs =>
    rw [tokens_of_not_isDigit (h c rfl)] at ht
    cases ht
    rfl

theorem isDigit_head?_dropWhile (cs : List Char) :
    ∀ c ∈ (cs.dropWhile Char.isDigit).head?, c.isDigit = false := by
  intro c hc
  have hnot := List.head?_dropWhile_not Char.isDigit cs
  rw [hc] at hnot
  simpa using hnot

theorem isSplit_tokens (cs : List Char) : IsSplit (tokens cs) cs := by
  refine ⟨flatMap_chars_tokens cs, ?_⟩
  fun_induction tokens cs with
  | case1 => exact .nil
  | case2 c cs h ih =>
    refine ih.cons fun u hu hruns => ?_
    rw [isRun_head?_tokens (isDigit_head?_dropWhile cs) u hu] at hruns
    cases hruns.2
  | case3 c cs h ih =>
    refine ih.cons fun u _ hruns => ?_
    cases hruns.1

/-- Behind a run the text goes on with no digit. -/
theorem IsSplit.isDigit_head? {t : Token} {ts : List Token} {text : List Char}
    (h : IsSplit (t :: ts) text) (ht : t.isRun = true) :
    ∀ c ∈ (ts.flatMap Token.chars).head?, c.isDigit = false := by
  intro c hc
  rcases ts with _ | ⟨⟨d, r, hr⟩ | ⟨d, hd⟩, ts⟩
  · cases hc
  · exact absurd ⟨ht, rfl⟩ (List.isChain_cons_cons.1 h.maximal).1
  · cases hc
    exact hd

/-- A run and what goes on with no digit come apart behind the run. -/
theorem takeWhile_dropWhile_append {l rest : List Char} (hl : l.all Char.isDigit = true)
    (hrest : ∀ c ∈ rest.head?, c.isDigit = false) :
    (l ++ rest).takeWhile Char.isDigit = l ∧ (l ++ rest).dropWhile Char.isDigit = rest := by
  rw [List.all_eq_true] at hl
  rw [List.takeWhile_append_of_pos hl, List.dropWhile_append_of_pos hl]
  cases rest with
  | nil => exact ⟨List.append_nil l, rfl⟩
  | cons c rest =>
    have hc := hrest c rfl
    rw [List.takeWhile_cons_of_neg (by simp [hc]), List.dropWhile_cons_of_neg (by simp [hc])]
    exact ⟨List.append_nil l, rfl⟩

/-- **A text has one split:** its tokens. -/
theorem isSplit_iff {ts : List Token} {text : List Char} : IsSplit ts text ↔ ts = tokens text := by
  constructor
  · intro h
    induction ts generalizing text with
    | nil =>
      rw [← h.text]
      exact tokens_nil.symm
    | cons t ts ih =>
      have hts : ts = tokens (ts.flatMap Token.chars) := ih ⟨rfl, h.maximal.tail⟩
      rw [← h.text, List.flatMap_cons]
      rcases t with ⟨c, l, hl⟩ | ⟨c, hc⟩
      · obtain ⟨htake, hdrop⟩ := takeWhile_dropWhile_append (l := l)
          (by rw [List.all_cons, Bool.and_eq_true] at hl; exact hl.2) (h.isDigit_head? rfl)
        rw [Token.chars, List.cons_append, tokens_of_isDigit (Token.isDigit_of_all hl), hdrop,
          ← hts]
        simp only [htake]
      · rw [Token.chars, List.singleton_append, tokens_of_not_isDigit hc, ← hts]
  · rintro rfl
    exact isSplit_tokens text

/-! ### Beginnings -/

/-- What ends in no digit ends in no run. -/
theorem isRun_getLast?_tokens {p : List Char} (h : ∀ c ∈ p.getLast?, c.isDigit = false) :
    ∀ t ∈ (tokens p).getLast?, t.isRun = false := by
  intro t ht
  obtain ⟨ts, hts⟩ := List.getLast?_eq_some_iff.1 ht
  rcases t with ⟨c, l, hl⟩ | ⟨c, hc⟩
  · exfalso
    have hp : p = ts.flatMap Token.chars ++ (c :: l) := by
      rw [← flatMap_chars_tokens p, hts, List.flatMap_append]
      simp [Token.chars]
    have hlast : (c :: l).getLast (List.cons_ne_nil c l) ∈ p.getLast? := by
      rw [hp, List.getLast?_append_of_ne_nil _ (List.cons_ne_nil c l)]
      exact List.getLast?_eq_some_getLast _
    have hdigit := List.all_eq_true.1 hl _ (List.getLast_mem (List.cons_ne_nil c l))
    rw [h _ hlast] at hdigit
    cases hdigit
  · rfl

/-- **A beginning that ends in no digit is a beginning of the tokens.** -/
theorem tokens_append {p : List Char} (h : ∀ c ∈ p.getLast?, c.isDigit = false) (x : List Char) :
    tokens (p ++ x) = tokens p ++ tokens x := by
  symm
  rw [← isSplit_iff]
  constructor
  · rw [List.flatMap_append, flatMap_chars_tokens, flatMap_chars_tokens]
  · refine List.isChain_append.2 ⟨(isSplit_tokens p).maximal, (isSplit_tokens x).maximal, ?_⟩
    intro t ht u _ hruns
    rw [isRun_getLast?_tokens h t ht] at hruns
    cases hruns.1

/-- Lists compare by what follows a common beginning. -/
theorem compareLex_append {α : Type} (cmp : α → α → Ordering) [ReflCmp cmp] (p x y : List α) :
    List.compareLex cmp (p ++ x) (p ++ y) = List.compareLex cmp x y := by
  induction p with
  | nil => rfl
  | cons a p ih =>
    have ha : cmp a a = .eq := ReflCmp.compare_self
    rw [List.cons_append, List.cons_append, List.compareLex_cons_cons, ha, ih]
    rfl

/-- **A common beginning that ends in no digit does not matter.** -/
theorem natural_append {p : String} (h : ∀ c ∈ p.toList.getLast?, c.isDigit = false)
    (x y : String) : natural (p ++ x) (p ++ y) = natural x y := by
  rw [natural_eq, natural_eq, String.toList_append, String.toList_append, tokens_append h,
    tokens_append h, compareTokens, compareLex, compareLex, compareLex_append, compareLex_append]

/-! ### The first level and the second -/

/-- Two strings at the first level. -/
def compareFirstLevel (a b : String) : Ordering :=
  List.compareLex Token.compareFirst (tokens a.toList) (tokens b.toList)

/-- Tokens side by side at the second level: the first two that are written differently decide. -/
def compareWriting (ts us : List Token) : Ordering :=
  match (ts.zip us).find? fun pair => pair.1.chars != pair.2.chars with
  | some (t, u) => t.compareSpelling u
  | none => .eq

/-- Of tokens with equal keys the first difference in spelling is the first in writing. -/
theorem compareLex_compareSpelling {ts us : List Token}
    (h : List.compareLex Token.compareKey ts us = .eq) :
    List.compareLex Token.compareSpelling ts us = compareWriting ts us := by
  induction ts generalizing us with
  | nil =>
    cases us with
    | nil => rw [List.compareLex_nil_nil]; rfl
    | cons u us => cases h
  | cons t ts ih =>
    cases us with
    | nil => cases h
    | cons u us =>
      rw [List.compareLex_cons_cons, Ordering.then_eq_eq] at h
      rw [List.compareLex_cons_cons, compareWriting, List.zip_cons_cons]
      by_cases hchars : t.chars = u.chars
      · obtain rfl := Token.chars_injective hchars
        have hself : t.compareSpelling t = .eq := ReflCmp.compare_self
        rw [hself, Ordering.eq_then, ih h.2, List.find?_cons_of_neg (by simp)]
        rfl
      · have hne : t.compareSpelling u ≠ .eq := fun heq =>
          hchars (congrArg Token.chars (Token.eq_of_compare_eq h.1 heq))
        rw [then_of_ne_eq hne, List.find?_cons_of_pos (by simpa using hchars)]

/-- **The two levels.** -/
theorem natural_eq_then (a b : String) :
    natural a b =
      (compareFirstLevel a b).then (compareWriting (tokens a.toList) (tokens b.toList)) := by
  rw [natural_eq, compareTokens, compareLex, compareFirstLevel, Token.compareFirst_eq_compareKey]
  by_cases h : List.compareLex Token.compareKey (tokens a.toList) (tokens b.toList) = .eq
  · rw [h, Ordering.eq_then, Ordering.eq_then, compareLex_compareSpelling h]
  · rw [then_of_ne_eq h, then_of_ne_eq h]

/-- Strings that differ at the first level compare by it alone. -/
theorem natural_congr_firstLevel {a a' b b' : String} (ha : compareFirstLevel a a' = .eq)
    (hb : compareFirstLevel b b' = .eq) (h : compareFirstLevel a b ≠ .eq) :
    natural a' b' = natural a b := by
  have hlevel : compareFirstLevel a b = compareFirstLevel a' b' := by
    rw [compareFirstLevel, Token.compareFirst_eq_compareKey] at ha hb
    rw [compareFirstLevel, compareFirstLevel, Token.compareFirst_eq_compareKey]
    exact (TransCmp.congr_left ha).trans (TransCmp.congr_right hb)
  rw [natural_eq_then, natural_eq_then, ← hlevel, then_of_ne_eq h, then_of_ne_eq h]

/-- **Natural collation compares tokens at two levels.** The tokens of a text are its one split into
runs of digits and other characters. All of them are compared at the first level, lists with a
common beginning by what follows, and only where that finds no difference the first pair that is
written differently decides. So a common beginning that ends in no digit does not matter, and
strings that differ at the first level may be replaced by others that are equal to them there.
The scan by byte offsets cuts no string inside a character and ends with this order. -/
theorem natural_twoLevels :
    (∀ text ts, IsSplit ts text ↔ ts = tokens text) ∧
    (∀ a b, natural a b =
      (compareFirstLevel a b).then (compareWriting (tokens a.toList) (tokens b.toList))) ∧
    (∀ p x y : String, (∀ c ∈ p.toList.getLast?, c.isDigit = false) →
      natural (p ++ x) (p ++ y) = natural x y) ∧
    (∀ a a' b b', compareFirstLevel a a' = .eq → compareFirstLevel b b' = .eq →
      compareFirstLevel a b ≠ .eq → natural a' b' = natural a b) ∧
    ∀ a b, (∀ c, Reached a b c → round? a b c ≠ none) ∧ scan? a b = some (natural a b) := by
  refine ⟨fun text ts => isSplit_iff, natural_eq_then, fun p x y hp => natural_append hp x y,
    fun a a' b b' => natural_congr_firstLevel, fun a b => ⟨fun c => Reached.round?_ne_none, ?_⟩⟩
  exact scan?_eq_natural a b

end Collation
end TableQuery
