/-
# The scan is the walk

The scan of two strings by byte offsets keeps step with the walk over their characters
(`Cursor.Ahead.inStep`). Both offsets of a cursor stand at characters (`Cursor.Ahead`), and a round
moves them on by the bytes of a whole character or of a whole run. A run is as many bytes as it has
digits, for a digit is one byte and no other character starts with the byte of a digit.

So with every round the characters ahead become fewer, from whatever cursor, and the loop of rounds
ends (`scanFrom?`). From the beginnings of two strings no round cuts a string inside a character,
and the answer is the natural order (`scan?_eq_natural`).
-/

import TableQuery.Collation.Scan

namespace TableQuery
namespace Collation

/-! ### Cuts at characters -/

theorem isValid_append (p t : String) :
    (⟨p.utf8ByteSize⟩ : String.Pos.Raw).IsValid (p ++ t) :=
  String.Pos.Raw.isValid_iff_exists_append.2 ⟨p, t, rfl, rfl⟩

theorem textFrom?_append (p t : String) : textFrom? (p ++ t) p.utf8ByteSize = some t := by
  rw [textFrom?, dif_pos (isValid_append p t), Option.some.injEq]
  exact (String.Pos.splits ⟨_, isValid_append p t⟩).eq_right ⟨rfl, rfl⟩

theorem textUpTo?_append (p t : String) : textUpTo? (p ++ t) p.utf8ByteSize = some p := by
  rw [textUpTo?, dif_pos (isValid_append p t), Option.some.injEq]
  exact (String.Pos.splits ⟨_, isValid_append p t⟩).eq_left ⟨rfl, rfl⟩

/-- A text is cut between a beginning and the rest. -/
theorem exists_of_textFrom? {s t : String} {i : Nat} (h : textFrom? s i = some t) :
    ∃ p, s = p ++ t ∧ p.utf8ByteSize = i := by
  unfold textFrom? at h
  split at h
  · rename_i hvalid
    obtain rfl := Option.some.inj h
    have hsplits := String.Pos.splits ⟨_, hvalid⟩
    have hoffset := congrArg String.Pos.Raw.byteIdx hsplits.offset_eq_rawEndPos
    exact ⟨_, hsplits.eq_append, hoffset.symm⟩
  · cases h

/-- A text that can be cut somewhere can be cut behind what follows there. -/
theorem textFrom?_add {s p t : String} {i : Nat} (h : textFrom? s i = some (p ++ t)) :
    textFrom? s (i + p.utf8ByteSize) = some t := by
  obtain ⟨q, rfl, rfl⟩ := exists_of_textFrom? h
  rw [← String.utf8ByteSize_append, ← String.append_assoc]
  exact textFrom?_append _ _

/-! ### Runs as bytes -/

theorem utf8EncodeChar_of_isDigit {c : Char} (h : c.isDigit = true) :
    String.utf8EncodeChar c = [UInt8.ofNat c.toNat] := by
  rw [Text.isDigit_iff] at h
  have hval : c.val.toNat = c.toNat := rfl
  rw [String.utf8EncodeChar]
  simp only [hval]
  rw [if_pos (by omega)]

theorem isDigitByte_ofNat {n : Nat} (h : n < 256) :
    isDigitByte (UInt8.ofNat n) = (decide (48 ≤ n) && decide (n ≤ 57)) := by
  simp [isDigitByte, UInt8.le_iff_toNat_le, Nat.mod_eq_of_lt h]

/-- The first byte of a character is that of a digit only if the character is one: it is the code
point itself or at least 192. -/
theorem takeWhile_utf8EncodeChar {c : Char} (h : c.isDigit = false) (bytes : List UInt8) :
    (String.utf8EncodeChar c ++ bytes).takeWhile isDigitByte = [] := by
  have hval : c.val.toNat = c.toNat := rfl
  rw [Bool.eq_false_iff, ne_eq, Text.isDigit_iff] at h
  fun_cases String.utf8EncodeChar c <;>
    rw [List.cons_append, List.takeWhile_cons_of_neg] <;>
    rw [isDigitByte_ofNat (by omega), Bool.and_eq_true, decide_eq_true_iff, decide_eq_true_iff] <;>
    omega

theorem toList_bytes_ofList (cs : List Char) :
    (String.ofList cs).toByteArray.data.toList = cs.flatMap String.utf8EncodeChar := by
  rw [String.toByteArray_ofList, List.utf8Encode, List.toList_data_toByteArray]

/-- A digit is one byte, so a run has as many bytes as digits. -/
theorem utf8ByteSize_run {run : List Char} (h : run.all Char.isDigit = true) :
    (String.ofList run).utf8ByteSize = run.length := by
  induction run with
  | nil => rfl
  | cons c run ih =>
    rw [List.all_cons, Bool.and_eq_true] at h
    have hsize : c.utf8Size = 1 := by
      rw [← String.length_utf8EncodeChar, utf8EncodeChar_of_isDigit h.1, List.length_singleton]
    rw [← List.singleton_append, String.ofList_append, String.utf8ByteSize_append, ih h.2,
      List.length_append, ← String.singleton_eq_ofList, String.utf8ByteSize_singleton, hsize]
    rfl

/-- The digits that a text starts with, counted in bytes. -/
theorem length_takeWhile_isDigitByte (cs : List Char) :
    ((cs.flatMap String.utf8EncodeChar).takeWhile isDigitByte).length =
      (cs.takeWhile Char.isDigit).length := by
  induction cs with
  | nil => rfl
  | cons c cs ih =>
    rw [List.flatMap_cons]
    cases hc : c.isDigit with
    | true =>
      have hbyte : isDigitByte (UInt8.ofNat c.toNat) = true := by
        rw [Text.isDigit_iff] at hc
        rw [isDigitByte_ofNat (by omega)]
        simp [hc.1, hc.2]
      rw [utf8EncodeChar_of_isDigit hc, List.singleton_append, List.takeWhile_cons_of_pos hbyte,
        List.takeWhile_cons_of_pos hc, List.length_cons, List.length_cons, ih]
    | false =>
      rw [takeWhile_utf8EncodeChar hc, List.takeWhile_cons_of_neg (by simp [hc])]
      rfl

/-- **A run is cut off behind its last digit**, never inside a character. -/
theorem leadingRun?_ofList (cs : List Char) :
    leadingRun? (String.ofList cs) = some (String.ofList (cs.takeWhile Char.isDigit)) := by
  have hsplit : String.ofList cs =
      String.ofList (cs.takeWhile Char.isDigit) ++ String.ofList (cs.dropWhile Char.isDigit) := by
    rw [← String.ofList_append, List.takeWhile_append_dropWhile]
  rw [leadingRun?, toList_bytes_ofList, length_takeWhile_isDigitByte,
    ← utf8ByteSize_run List.all_takeWhile]
  conv => lhs; arg 1; rw [hsplit]
  exact textUpTo?_append _ _

/-! ### Rounds -/

/-- The cursor stands at characters, with `l` and `r` ahead. -/
structure Cursor.Ahead (a b : String) (c : Cursor) (l r : List Char) : Prop where
  left : textFrom? a c.left = some (String.ofList l)
  right : textFrom? b c.right = some (String.ofList r)

/-- Behind what is ahead up to some point the rest is ahead. -/
theorem textFrom?_drop {s : String} {i : Nat} {p t : List Char}
    (h : textFrom? s i = some (String.ofList (p ++ t))) :
    textFrom? s (i + (String.ofList p).utf8ByteSize) = some (String.ofList t) := by
  rw [String.ofList_append] at h
  exact textFrom?_add h

/-- Behind the first character of what is ahead the rest is ahead. -/
theorem textFrom?_add_utf8Size {s : String} {i : Nat} {x : Char} {t : List Char}
    (h : textFrom? s i = some (String.ofList (x :: t))) :
    textFrom? s (i + x.utf8Size) = some (String.ofList t) := by
  rw [← List.singleton_append] at h
  rw [← String.utf8ByteSize_singleton, String.singleton_eq_ofList]
  exact textFrom?_drop h

theorem all_isDigit_run {x : Char} (hx : x.isDigit = true) (t : List Char) :
    (x :: t.takeWhile Char.isDigit).all Char.isDigit = true := by
  rw [List.all_cons, hx, List.all_takeWhile]
  rfl

/-- Behind the run of digits that is ahead the rest is ahead. -/
theorem textFrom?_add_run {s : String} {i : Nat} {x : Char} {t : List Char}
    (h : textFrom? s i = some (String.ofList (x :: t))) :
    textFrom? s (i + (String.ofList (x :: t.takeWhile Char.isDigit)).utf8ByteSize) =
      some (String.ofList (t.dropWhile Char.isDigit)) := by
  refine textFrom?_drop ?_
  rwa [List.cons_append, List.takeWhile_append_dropWhile]

/-- The round at a cursor keeps step with the walk of what is ahead: it answers as the walk does, or
goes on, farther on, to a cursor from which the walk answers the same. -/
def Cursor.InStep (a b : String) (c : Cursor) (l r : List Char) : Prop :=
  round? a b c = some (.inl (walk l r c.tie)) ∨
    ∃ next l' r', round? a b c = some (.inr next) ∧ next.Ahead a b l' r' ∧
      l'.length < l.length ∧ walk l' r' next.tie = walk l r c.tie

/-- A difference of keys ends the round as it ends the walk. -/
theorem Cursor.InStep.of_settle {a b : String} {c next : Cursor} {l r l' r' : List Char}
    {keys : Ordering} (hround : round? a b c = some (settle keys next))
    (hwalk : walk l r c.tie = keys.then (walk l' r' next.tie))
    (hahead : next.Ahead a b l' r') (hlt : l'.length < l.length) : c.InStep a b l r := by
  unfold InStep
  rw [hround, hwalk]
  cases keys with
  | lt => exact .inl rfl
  | eq => exact .inr ⟨next, l', r', rfl, hahead, hlt, rfl⟩
  | gt => exact .inl rfl

/-- **One round keeps step with the walk.** All its cuts are at characters, and so is the cursor
that it goes on from. -/
theorem Cursor.Ahead.inStep {a b : String} {c : Cursor} {l r : List Char} (hc : c.Ahead a b l r) :
    c.InStep a b l r := by
  have hround := round?.eq_1 a b c
  simp only [hc.left, hc.right, Option.bind_eq_bind, Option.bind_some,
    String.toList_ofList] at hround
  rcases l with _ | ⟨x, l⟩ <;> rcases r with _ | ⟨y, r⟩
  · exact .inl (by rw [hround, walk]; rfl)
  · exact .inl (by rw [hround, walk]; rfl)
  · exact .inl (by rw [hround, walk]; rfl)
  · simp only [List.head?_cons] at hround
    by_cases h : (x.isDigit && y.isDigit) = true
    · obtain ⟨hx, hy⟩ := Bool.and_eq_true_iff.1 h
      have hshorter := (List.dropWhile_suffix Char.isDigit (l := l)).length_le
      simp only [if_pos h, leadingRun?_ofList, List.takeWhile_cons_of_pos hx,
        List.takeWhile_cons_of_pos hy, Option.bind_some, String.toList_ofList] at hround
      refine .of_settle hround ?_ ⟨textFrom?_add_run hc.left, textFrom?_add_run hc.right⟩
        (Nat.lt_succ_of_le hshorter)
      rw [walk, if_pos h, utf8ByteSize_run (all_isDigit_run hx l),
        utf8ByteSize_run (all_isDigit_run hy r)]
    · rw [if_neg h] at hround
      refine .of_settle hround ?_
        ⟨textFrom?_add_utf8Size hc.left, textFrom?_add_utf8Size hc.right⟩ (Nat.lt_succ_self _)
      rw [walk, if_neg h]

/-! ### The loop of rounds -/

/-- How many characters of the left string are ahead, none where it cannot be cut. -/
def Cursor.remaining (a : String) (c : Cursor) : Nat :=
  ((textFrom? a c.left).getD "").toList.length

theorem Cursor.Ahead.remaining_eq {a b : String} {c : Cursor} {l r : List Char}
    (hc : c.Ahead a b l r) : c.remaining a = l.length := by
  rw [remaining, hc.left, Option.getD_some, String.toList_ofList]

/-- A round that has an outcome stands at characters. -/
theorem Cursor.exists_ahead {a b : String} {c : Cursor} {outcome : Ordering ⊕ Cursor}
    (h : round? a b c = some outcome) : ∃ l r, c.Ahead a b l r := by
  rw [round?] at h
  cases hl : textFrom? a c.left with
  | none => simp [hl] at h
  | some l =>
    cases hr : textFrom? b c.right with
    | none => simp [hl, hr] at h
    | some r =>
      refine ⟨l.toList, r.toList, ?_, ?_⟩
      · rw [hl, String.ofList_toList]
      · rw [hr, String.ofList_toList]

/-- **A round that does not answer gets on.** -/
theorem Cursor.remaining_lt {a b : String} {c next : Cursor}
    (h : round? a b c = some (.inr next)) : next.remaining a < c.remaining a := by
  obtain ⟨l, r, hc⟩ := exists_ahead h
  rcases hc.inStep with hanswer | ⟨next', l', r', hnext, hahead, hlt, -⟩
  · rw [h] at hanswer
    cases hanswer
  · rw [h] at hnext
    cases hnext
    rwa [hahead.remaining_eq, hc.remaining_eq]

/-- The rounds from a cursor on, until there is an answer. -/
def scanFrom? (a b : String) (c : Cursor) : Option Ordering :=
  match _ : round? a b c with
  | none => none
  | some (.inl answer) => some answer
  | some (.inr next) => scanFrom? a b next
termination_by c.remaining a
decreasing_by exact Cursor.remaining_lt ‹_›

/-- The scan of two strings. -/
def scan? (a b : String) : Option Ordering := scanFrom? a b .start

/-- The scan is a round, and where that does not answer the scan from farther on. -/
theorem scanFrom?_eq_bind (a b : String) (c : Cursor) :
    scanFrom? a b c = (round? a b c).bind (Sum.elim some (scanFrom? a b)) := by
  rw [scanFrom?]
  split <;> rename_i hround <;> rw [hround] <;> rfl

/-- **The scan answers as the walk does.** -/
theorem Cursor.Ahead.scanFrom?_eq {a b : String} {c : Cursor} {l r : List Char}
    (hc : c.Ahead a b l r) : scanFrom? a b c = some (walk l r c.tie) := by
  induction hn : l.length using Nat.strongRecOn generalizing c l r with
  | ind n ih =>
    rw [scanFrom?_eq_bind]
    rcases hc.inStep with hanswer | ⟨next, l', r', hnext, hahead, hlt, hwalk⟩
    · rw [hanswer]
      rfl
    · rw [hnext, ← hwalk]
      exact ih l'.length (hn ▸ hlt) hahead rfl

/-! ### Whole scans -/

theorem Cursor.ahead_start (a b : String) : start.Ahead a b a.toList b.toList := by
  constructor
  · rw [String.ofList_toList]
    exact textFrom?_append "" a
  · rw [String.ofList_toList]
    exact textFrom?_append "" b

/-- The cursors that the scan of two strings comes to. -/
inductive Reached (a b : String) : Cursor → Prop
  | start : Reached a b .start
  | next {c next : Cursor} : Reached a b c → round? a b c = some (.inr next) → Reached a b next

/-- Wherever the scan comes to, it stands at characters. -/
theorem Reached.ahead {a b : String} {c : Cursor} (h : Reached a b c) :
    ∃ l r, c.Ahead a b l r := by
  induction h with
  | start => exact ⟨_, _, Cursor.ahead_start a b⟩
  | next _ hround ih =>
    obtain ⟨l, r, hc⟩ := ih
    rcases hc.inStep with hanswer | ⟨next, l', r', hnext, hahead, -⟩
    · rw [hround] at hanswer
      cases hanswer
    · rw [hround] at hnext
      cases hnext
      exact ⟨l', r', hahead⟩

/-- **No round cuts a string inside a character.** -/
theorem Reached.round?_ne_none {a b : String} {c : Cursor} (h : Reached a b c) :
    round? a b c ≠ none := by
  obtain ⟨l, r, hc⟩ := h.ahead
  rcases hc.inStep with hanswer | ⟨next, l', r', hnext, -⟩
  · rw [hanswer]
    exact Option.some_ne_none _
  · rw [hnext]
    exact Option.some_ne_none _

/-- **The scan ends with the natural order.** -/
theorem scan?_eq_natural (a b : String) : scan? a b = some (natural a b) :=
  (Cursor.ahead_start a b).scanFrom?_eq

end Collation
end TableQuery
