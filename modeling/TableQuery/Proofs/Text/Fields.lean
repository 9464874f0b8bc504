/-
# Fields and lines

Texts that are joined can be found again. Fields joined by a separator of three characters stand
where their widths say (`fieldAt_intercalate`), whatever is in them, and so do the separators
(`take_drop_separator`). Lines that end in a newline each are the pieces between newlines
(`splitOn_flatMap_newline`).

A line that has lost the blanks at its end and is filled up with spaces again differs from what it
was in blanks only. If a bar stands before the last field, none of the other fields has changed
(`spaceEnd_intercalate`).
-/

import TableQuery.Text.Blank
import Mathlib.Algebra.GroupWithZero.Nat
import Mathlib.Data.List.DropRight

namespace TableQuery
namespace Text

variable {sep : List Char} {fields : List (List Char)} {field : List Char} {j : ℕ}

/-! ### Joined fields -/

/-- Where the field of a column starts: behind the fields before it, and three characters behind
each of these. -/
def fieldStart (widths : List ℕ) (j : ℕ) : ℕ := ((widths.take j).map (· + 3)).sum

/-- The characters in the field of a column. -/
def fieldAt (widths : List ℕ) (line : List Char) (j : ℕ) : List Char :=
  (line.drop (fieldStart widths j)).take (widths.getD j 0)

theorem fieldStart_zero (widths : List ℕ) : fieldStart widths 0 = 0 := rfl

theorem fieldStart_cons_succ (w : ℕ) (widths : List ℕ) (j : ℕ) :
    fieldStart (w :: widths) (j + 1) = w + 3 + fieldStart widths j := by
  rw [fieldStart, List.take_succ_cons, List.map_cons, List.sum_cons, fieldStart]

/-- From where a field starts on, the joined fields are those from this one on. -/
theorem drop_fieldStart (hsep : sep.length = 3) (hj : j < fields.length) :
    (sep.intercalate fields).drop (fieldStart (fields.map List.length) j) =
      sep.intercalate (fields.drop j) := by
  induction fields generalizing j with
  | nil => simp at hj
  | cons field fields ih =>
    cases j with
    | zero => rfl
    | succ j =>
      have hj' : j < fields.length := Nat.lt_of_succ_lt_succ hj
      have hne : fields ≠ [] := List.ne_nil_of_length_pos (Nat.zero_lt_of_lt hj')
      have hlength : (field ++ sep).length = field.length + 3 := by rw [List.length_append, hsep]
      rw [List.map_cons, fieldStart_cons_succ, List.intercalate_cons_of_ne_nil hne,
        ← List.drop_drop, ← hlength, List.drop_left, ih hj', List.drop_succ_cons]

/-- What the joined fields are from a field on. -/
theorem drop_fieldStart_of_getElem? (hsep : sep.length = 3) (hfield : fields[j]? = some field) :
    (sep.intercalate fields).drop (fieldStart (fields.map List.length) j) =
      sep.intercalate (field :: fields.drop (j + 1)) := by
  obtain ⟨hj, rfl⟩ := List.getElem?_eq_some_iff.1 hfield
  rw [drop_fieldStart hsep hj, ← List.drop_eq_getElem_cons]

/-- **A field stands where the widths of those before it say.** -/
theorem fieldAt_intercalate (hsep : sep.length = 3) (hfield : fields[j]? = some field) :
    fieldAt (fields.map List.length) (sep.intercalate fields) j = field := by
  have hwidth : (fields.map List.length).getD j 0 = field.length := by
    rw [List.getD_eq_getElem?_getD, List.getElem?_map, hfield, Option.map_some, Option.getD_some]
  rw [fieldAt, hwidth, drop_fieldStart_of_getElem? hsep hfield]
  cases fields.drop (j + 1) with
  | nil => rw [List.intercalate_singleton, List.take_length]
  | cons next rest => rw [List.intercalate_cons_cons, List.append_assoc, List.take_left]

/-- **A separator stands behind every field but the last.** -/
theorem take_drop_separator (hsep : sep.length = 3) (hfield : fields[j]? = some field)
    (hj : j + 1 < fields.length) :
    ((sep.intercalate fields).drop (fieldStart (fields.map List.length) j + field.length)).take 3 =
      sep := by
  have hne : fields.drop (j + 1) ≠ [] := by
    rw [ne_eq, List.drop_eq_nil_iff, not_le]
    exact hj
  rw [← List.drop_drop, drop_fieldStart_of_getElem? hsep hfield,
    List.intercalate_cons_of_ne_nil hne, List.append_assoc, List.drop_left, ← hsep, List.take_left]

/-- The length of joined fields is told by their widths. -/
theorem length_intercalate_add (hsep : sep.length = 3) (hne : fields ≠ []) :
    (sep.intercalate fields).length + 3 = fieldStart (fields.map List.length) fields.length := by
  induction fields with
  | nil => exact absurd rfl hne
  | cons field fields ih =>
    rw [List.length_cons, List.map_cons, fieldStart_cons_succ]
    cases fields with
    | nil => rw [List.intercalate_singleton, List.length_nil, fieldStart_zero]
    | cons next rest =>
      rw [← ih (List.cons_ne_nil _ _), List.intercalate_cons_cons, List.length_append,
        List.length_append, hsep]
      omega

theorem intercalate_append_singleton (sep last : List Char) (fields : List (List Char)) :
    sep.intercalate (fields ++ [last]) = fields.flatMap (· ++ sep) ++ last := by
  induction fields with
  | nil => rw [List.nil_append, List.intercalate_singleton, List.flatMap_nil, List.nil_append]
  | cons field fields ih =>
    rw [List.cons_append, List.intercalate_cons_of_ne_nil (List.append_ne_nil_of_right_ne_nil _
      (List.cons_ne_nil _ _)), ih, List.flatMap_cons, List.append_assoc, List.append_assoc,
      List.append_assoc]

theorem mem_intercalate {c : Char} (h : c ∈ sep.intercalate fields) :
    c ∈ sep ∨ ∃ field ∈ fields, c ∈ field := by
  induction fields with
  | nil => cases h
  | cons field fields ih =>
    cases fields with
    | nil => exact .inr ⟨field, List.mem_cons_self, by rwa [List.intercalate_singleton] at h⟩
    | cons next rest =>
      rw [List.intercalate_cons_cons, List.mem_append, List.mem_append] at h
      rcases h with (h | h) | h
      · exact .inr ⟨field, List.mem_cons_self, h⟩
      · exact .inl h
      · exact (ih h).imp_right fun ⟨f, hf, hc⟩ => ⟨f, List.mem_cons_of_mem _ hf, hc⟩

/-- **Lines are what stands between newlines.** -/
theorem splitOn_flatMap_newline {lines : List (List Char)} (h : ∀ line ∈ lines, '\n' ∉ line) :
    (lines.flatMap (· ++ ['\n'])).splitOn '\n' = lines ++ [[]] := by
  have hjoin : lines.flatMap (· ++ ['\n']) = ['\n'].intercalate (lines ++ [[]]) := by
    rw [intercalate_append_singleton, List.append_nil]
  rw [hjoin, List.splitOn_intercalate]
  · intro line hline
    rcases List.mem_append.1 hline with hline | hline
    · exact h line hline
    · rw [List.mem_singleton.1 hline]
      exact List.not_mem_nil
  · exact List.append_ne_nil_of_right_ne_nil _ (List.cons_ne_nil _ _)

/-! ### Blanks at the end -/

theorem trimEnd_eq_nil_iff {cs : List Char} : trimEnd cs = [] ↔ ∀ c ∈ cs, isBlank c = true :=
  List.rdropWhile_eq_nil_iff

theorem trimEnd_sublist (cs : List Char) : (trimEnd cs).Sublist cs :=
  List.IsPrefix.sublist <| List.rdropWhile_prefix isBlank cs

theorem length_trimEnd_le (cs : List Char) : (trimEnd cs).length ≤ cs.length :=
  (trimEnd_sublist cs).length_le

theorem trimEnd_trimEnd (cs : List Char) : trimEnd (trimEnd cs) = trimEnd cs :=
  List.rdropWhile_idempotent isBlank cs

theorem trimEnd_append_of_ne_nil {cs ds : List Char} (h : trimEnd ds ≠ []) :
    trimEnd (cs ++ ds) = cs ++ trimEnd ds := by
  rw [trimEnd, ne_eq, List.reverse_eq_nil_iff] at h
  rw [trimEnd, List.reverse_append, List.dropWhile_append, if_neg (by simpa using h),
    List.reverse_append, List.reverse_reverse, trimEnd]

/-- A text with spaces in the place of the blanks at its end. -/
def spaceEnd (cs : List Char) : List Char :=
  trimEnd cs ++ List.replicate (cs.length - (trimEnd cs).length) ' '

theorem length_spaceEnd (cs : List Char) : (spaceEnd cs).length = cs.length := by
  have hle := length_trimEnd_le cs
  rw [spaceEnd, List.length_append, List.length_replicate]
  omega

theorem trimEnd_spaceEnd (cs : List Char) : trimEnd (spaceEnd cs) = trimEnd cs := by
  rw [spaceEnd, trimEnd_append_blanks, trimEnd_trimEnd]
  intro c hc
  rw [List.eq_of_mem_replicate hc]
  rfl

/-- **Only the end changes:** what stands before it stays, unless it ends in other blanks itself. -/
theorem spaceEnd_append {cs : List Char} (ds : List Char) (h : spaceEnd cs = cs) :
    spaceEnd (cs ++ ds) = cs ++ spaceEnd ds := by
  by_cases hds : trimEnd ds = []
  · have hle := length_trimEnd_le cs
    have htrim : trimEnd (cs ++ ds) = trimEnd cs := trimEnd_append_blanks (trimEnd_eq_nil_iff.1 hds)
    have hsplit : (cs ++ ds).length - (trimEnd cs).length =
        (cs.length - (trimEnd cs).length) + ds.length := by
      rw [List.length_append]
      omega
    rw [spaceEnd, htrim, hsplit, ← List.replicate_append_replicate, ← List.append_assoc,
      ← spaceEnd, h, spaceEnd, hds, List.nil_append, List.length_nil, Nat.sub_zero]
  · rw [spaceEnd, trimEnd_append_of_ne_nil hds, spaceEnd, List.append_assoc, List.length_append,
      List.length_append, Nat.add_sub_add_left]

/-- A bar and a space behind it stay. -/
theorem spaceEnd_append_bar (cs : List Char) :
    spaceEnd (cs ++ " | ".toList) = cs ++ " | ".toList := by
  have hbar : trimEnd " | ".toList ≠ [] := by decide
  have hend : spaceEnd " | ".toList = " | ".toList := by decide
  rw [spaceEnd, trimEnd_append_of_ne_nil hbar, List.append_assoc, List.length_append,
    List.length_append, Nat.add_sub_add_left]
  exact congrArg (cs ++ ·) hend

/-- Fields with spaces in the place of the blanks at the end of the last one. -/
def spaceLast : List (List Char) → List (List Char)
  | [] => []
  | [field] => [spaceEnd field]
  | field :: next :: rest => field :: spaceLast (next :: rest)

/-- **A bar keeps blanks apart:** of joined fields only the last one has spaces in the place of
blanks. -/
theorem spaceEnd_intercalate (fields : List (List Char)) :
    spaceEnd (" | ".toList.intercalate fields) = " | ".toList.intercalate (spaceLast fields) := by
  induction fields with
  | nil => rfl
  | cons field fields ih =>
    cases fields with
    | nil => rw [spaceLast, List.intercalate_singleton, List.intercalate_singleton]
    | cons next rest =>
      have hne : spaceLast (next :: rest) ≠ [] := by cases rest <;> simp [spaceLast]
      rw [spaceLast, List.intercalate_cons_cons, List.intercalate_cons_of_ne_nil hne,
        spaceEnd_append _ (spaceEnd_append_bar field), ih]

theorem getElem?_spaceLast (fields : List (List Char)) (j : ℕ) :
    (spaceLast fields)[j]? =
      fields[j]?.map fun field => if j + 1 = fields.length then spaceEnd field else field := by
  induction fields generalizing j with
  | nil => rfl
  | cons field fields ih =>
    cases fields with
    | nil => cases j <;> simp [spaceLast]
    | cons next rest =>
      cases j with
      | zero => simp [spaceLast]
      | succ j => simpa [spaceLast] using ih j

theorem map_length_spaceLast (fields : List (List Char)) :
    (spaceLast fields).map List.length = fields.map List.length := by
  apply List.ext_getElem?
  intro j
  rw [List.getElem?_map, List.getElem?_map, getElem?_spaceLast, Option.map_map]
  congr 1
  funext field
  rw [Function.comp_apply]
  split
  · exact length_spaceEnd field
  · rfl

end Text
end TableQuery
