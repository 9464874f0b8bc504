/-
# Rounds of a scan

Collation need not take strings apart: two byte offsets say how far it has come, one in either
string. A round looks at the characters behind the offsets, compares two runs of digits or two other
characters, and moves the offsets on by the bytes of what it has compared. The scan of two strings
is a loop of rounds, put together where they are known to come to an end.

A string can be cut only where a character starts or at its end. A round at offsets elsewhere has no
outcome, so having one says that all its cuts were possible.
-/

import TableQuery.Collation

namespace TableQuery
namespace Collation

/-! ### Cuts -/

/-- The part of a string from a byte offset on, if the string can be cut there. -/
def textFrom? (s : String) (i : Nat) : Option String :=
  if h : (⟨i⟩ : String.Pos.Raw).IsValid s then some (s.sliceFrom ⟨⟨i⟩, h⟩).copy else none

/-- The part of a string up to a byte offset, if the string can be cut there. -/
def textUpTo? (s : String) (i : Nat) : Option String :=
  if h : (⟨i⟩ : String.Pos.Raw).IsValid s then some (s.sliceTo ⟨⟨i⟩, h⟩).copy else none

/-- Whether a byte is that of a digit. -/
def isDigitByte (b : UInt8) : Bool := 48 ≤ b && b ≤ 57

/-- The run of digits that a string starts with, cut off behind as many bytes as are digits. -/
def leadingRun? (s : String) : Option String :=
  textUpTo? s (s.toByteArray.data.toList.takeWhile isDigitByte).length

/-! ### Rounds -/

/-- Where the scan stands: a byte offset in either string, and the first difference in writing so
far. -/
structure Cursor where
  left : Nat
  right : Nat
  tie : Ordering

/-- Both strings from their beginnings. -/
def Cursor.start : Cursor := ⟨0, 0, .eq⟩

/-- What the comparison of two keys makes of a round: the answer if they differ, else the cursor to
go on from. -/
def settle (keys : Ordering) (next : Cursor) : Ordering ⊕ Cursor :=
  match keys with
  | .eq => .inr next
  | answer => .inl answer

/-- A round of the scan: the answer, or the cursor to go on from. -/
def round? (a b : String) (c : Cursor) : Option (Ordering ⊕ Cursor) := do
  let l ← textFrom? a c.left
  let r ← textFrom? b c.right
  match l.toList.head?, r.toList.head? with
  | none, none => return .inl c.tie
  | none, some _ => return .inl .lt
  | some _, none => return .inl .gt
  | some x, some y =>
    if x.isDigit && y.isDigit then
      let lRun ← leadingRun? l
      let rRun ← leadingRun? r
      return settle (compareRuns lRun.toList rRun.toList)
        ⟨c.left + lRun.utf8ByteSize, c.right + rRun.utf8ByteSize,
          c.tie.then (compare lRun.utf8ByteSize rRun.utf8ByteSize)⟩
    else
      return settle (compare (Text.lowercase x) (Text.lowercase y))
        ⟨c.left + x.utf8Size, c.right + y.utf8Size, c.tie.then (compareCase x y)⟩

end Collation
end TableQuery
