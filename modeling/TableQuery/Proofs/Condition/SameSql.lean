/-
# What the SQL of a condition says of the rows it selects

Conditions on one column that have one SQL text have one operator, and thresholds that are the same
string or have one text. So they give every cell the same flag, unless the thresholds are an integer
beyond `2⁵³` and the float it is rounded to, which SQL shows alike. Then only the exact values of
the two decide whether the conditions agree (`Condition.classify_eq_iff_of_sql_eq`), and they differ
at most in rows whose cell reads as a number from one threshold to the other.
-/

import TableQuery.Proofs.Query.Sql
import TableQuery.Proofs.Query.Stages
import TableQuery.Proofs.Value.SameText

namespace TableQuery
namespace Condition

open Text

variable {c d : Condition}

/-- On one column a condition can be read back, whatever the name of the column. -/
theorem sameSql_of_column_eq (hcolumn : c.column = d.column) (h : c.sql = d.sql) :
    c.SameSql d := by
  have htext := congrArg String.toList h
  rw [toList_sql, toList_sql, hcolumn] at htext
  obtain ⟨hsymbol, hrest⟩ := (isWord_symbol c.comparison).append_inj (isWord_symbol d.comparison)
    (endsWord_cons rfl _) (endsWord_cons rfl _) (List.cons.inj (List.append_cancel_left htext)).2
  have hthreshold : (thresholdSql c.threshold).toList ++ [] =
      (thresholdSql d.threshold).toList ++ [] := congrArg (· ++ []) (List.cons.inj hrest).2
  exact ⟨hcolumn, Comparison.symbol_injective (String.toList_inj.1 hsymbol),
    (thresholdSql_append_inj endsWord_nil endsWord_nil hthreshold).1⟩

/-- **Thresholds that SQL cannot tell apart** are equal, or an integer and the nearest float. -/
theorem content_eq_or_nearest_of_sameThreshold {a b : Value} (h : SameThreshold a b) :
    a.content = b.content ∨ a.HasNearest b ∨ b.HasNearest a := by
  rcases h with ⟨s, rfl, rfl⟩ | ⟨ha, hb, htext⟩
  · exact .inl rfl
  · exact Value.content_eq_or_nearest_of_text_eq ha hb htext

/-! ### Flags and tests -/

/-- A table of one column and one cell, which shows how a condition tests the cell. -/
theorem flags_ofCell (c : Condition) (cell : Value) :
    c.flags (.ofColumns [⟨c.column, [cell]⟩]) = [c.test cell] := by
  have hcolumns : (Table.ofColumns [⟨c.column, [cell]⟩]).columns = #[⟨c.column, [cell]⟩] :=
    Table.columns_ofColumns (by simp)
  have hcell : (Table.ofColumns [⟨c.column, [cell]⟩]).column? c.column = some [cell] := by
    rw [Table.column?_eq_some_iff, hcolumns]
    simp
  rw [flags, hcell]
  rfl

/-- **Conditions on one column classify alike exactly if they test alike.** -/
theorem classify_eq_iff (hcolumn : c.column = d.column) :
    (∀ catalog source t, c.classify catalog source t = d.classify catalog source t) ↔
      ∀ cell, c.test cell = d.test cell := by
  constructor
  · intro h cell
    have hvalue := congrArg Logged.value (h (.empty {}) "" (.ofColumns [⟨c.column, [cell]⟩]))
    rw [value_classify, value_classify, flags_ofCell, hcolumn, flags_ofCell] at hvalue
    exact (List.cons.inj (Prod.mk.inj hvalue).1).1
  · intro h catalog source t
    rw [classify, classify, hcolumn, funext h]

/-- Flags that differ are those of a cell that is tested differently. -/
theorem exists_test_ne_of_flags_ne (hcolumn : c.column = d.column) {t : Table} {i : ℕ}
    (h : (c.flags t)[i]? ≠ (d.flags t)[i]?) :
    ∃ cell, (c.cells t)[i]? = some cell ∧ c.test cell ≠ d.test cell := by
  have hcells : d.cells t = c.cells t := by rw [cells, cells, hcolumn]
  rw [flags_eq, flags_eq, hcells, List.getElem?_map, List.getElem?_map] at h
  cases hcell : (c.cells t)[i]? with
  | none =>
    rw [hcell] at h
    exact absurd rfl h
  | some cell =>
    rw [hcell] at h
    exact ⟨cell, rfl, fun heq => h (congrArg some heq)⟩

/-! ### Thresholds of one text -/

/-- **Tests that SQL cannot tell apart** agree on all cells exactly if their thresholds have one
exact value, and two that do not agree on a cell have it between their thresholds. -/
theorem test_eq_iff_of_sameSql (h : c.SameSql d) :
    ((∀ cell, c.test cell = d.test cell) ↔ c.threshold.exactValue = d.threshold.exactValue) ∧
      ∀ cell, c.test cell ≠ d.test cell → cell.LiesBetween c.threshold d.threshold := by
  simp only [test, h.comparison]
  rcases content_eq_or_nearest_of_sameThreshold h.threshold with hcontent | hnearest
  · have htest : ∀ cell, d.comparison.test cell c.threshold = d.comparison.test cell d.threshold :=
      fun cell => d.comparison.test_congr rfl hcontent
    exact ⟨iff_of_true htest (Value.exactValue_congr hcontent), fun cell hne =>
      absurd (htest cell) hne⟩
  · obtain ⟨hc, hd, x, y, hx, hy⟩ := Value.exists_exactValue_of_nearest hnearest
    refine ⟨⟨fun htest => ?_, fun hvalue cell => ?_⟩, fun cell hne => ?_⟩
    · by_contra hvalue
      have hxy : x ≠ y := fun hxy => hvalue (by rw [hx, hy, hxy])
      obtain ⟨cell, hne⟩ := d.comparison.exists_test_ne hc hd hx hy hxy
      exact hne (htest cell)
    · exact d.comparison.test_congr_looseCompare? hc hd
        (Value.looseCompare?_congr_exactValue hc hd hvalue cell)
    · refine Value.liesBetween_of_looseCompare?_ne hc hd hx hy fun hcompare => hne ?_
      exact d.comparison.test_congr_looseCompare? hc hd hcompare

/-- **Conditions on one column that have one SQL text** classify every table alike exactly if their
thresholds have one exact value. Otherwise the thresholds are an integer beyond `2⁵³` and the float
nearest to it, and they differ only in rows whose cell reads as a number from one to the other. -/
theorem classify_eq_iff_of_sql_eq (hcolumn : c.column = d.column) (hsql : c.sql = d.sql) :
    ((∀ catalog source t, c.classify catalog source t = d.classify catalog source t) ↔
      c.threshold.exactValue = d.threshold.exactValue) ∧
    (c.threshold.exactValue ≠ d.threshold.exactValue →
      (∃ i : Int64, 2 ^ 53 < |i.toInt| ∧
        ((c.threshold = .int i ∧ d.threshold = .float (.ofInt i.toInt)) ∨
          (d.threshold = .int i ∧ c.threshold = .float (.ofInt i.toInt)))) ∧
      ∀ (catalog : Catalog) (source : String) (t : Table) (i : ℕ),
        (c.classify catalog source t).value.1[i]? ≠ (d.classify catalog source t).value.1[i]? →
        ∃ cell, (c.cells t)[i]? = some cell ∧ cell.LiesBetween c.threshold d.threshold) := by
  have hsame := sameSql_of_column_eq hcolumn hsql
  obtain ⟨htest, hbetween⟩ := test_eq_iff_of_sameSql hsame
  refine ⟨(classify_eq_iff hcolumn).trans htest, fun hne => ?_⟩
  refine ⟨?_, fun catalog source t i hflag => ?_⟩
  · rcases content_eq_or_nearest_of_sameThreshold hsame.threshold with
      hcontent | hnearest | hnearest
    · exact absurd (Value.exactValue_congr hcontent) hne
    · obtain ⟨i, hi, hc, hd⟩ := Value.exists_lt_abs_of_nearest hnearest hne
      exact ⟨i, hi, .inl ⟨hc, hd⟩⟩
    · obtain ⟨i, hi, hd, hc⟩ := Value.exists_lt_abs_of_nearest hnearest hne.symm
      exact ⟨i, hi, .inr ⟨hd, hc⟩⟩
  · rw [value_classify, value_classify] at hflag
    obtain ⟨cell, hcell, hdiffer⟩ := exists_test_ne_of_flags_ne hcolumn hflag
    exact ⟨cell, hcell, hbetween cell hdiffer⟩

/-- Two to the power 53 is the last integer before those that are no floats. As an integer and as a
float it makes conditions of one text, and they classify every table alike. -/
theorem classify_eq_iff_of_sql_eq_two_pow_53 :
    let c : Condition := ⟨"x", .less, .int 9007199254740992⟩
    let d : Condition := ⟨"x", .less, .float ⟨0x4340000000000000⟩⟩
    (c.column = d.column ∧ c.sql = d.sql) ∧
      ∀ catalog source t, c.classify catalog source t = d.classify catalog source t := by
  intro c d
  have htext : (Value.int 9007199254740992).text =
      (Value.float ⟨0x4340000000000000⟩).text := by decide +kernel
  have hsql : c.sql = d.sql := by simp only [c, d, sql, thresholdSql, htext]
  have hfloat : Binary64.ofInt (9007199254740992 : Int64).toInt = ⟨0x4340000000000000⟩ := by
    decide +kernel
  have hsmall : |(9007199254740992 : Int64).toInt| ≤ 2 ^ 53 := by decide +kernel
  have hvalue := Value.exactValue_ofInt hsmall
  rw [hfloat] at hvalue
  have hcolumn : c.column = d.column := rfl
  exact ⟨⟨hcolumn, hsql⟩, (classify_eq_iff_of_sql_eq hcolumn hsql).1.2 hvalue.symm⟩

/-- Two to the power 55 is a float whose shortest text is that of an integer two above it. Only the
integer equals a cell that holds it. -/
theorem classify_ne_of_sql_eq :
    let c : Condition := ⟨"x", .equal, .int 36028797018963970⟩
    let d : Condition := ⟨"x", .equal, .float ⟨0x4360000000000000⟩⟩
    let t : Table := .ofColumns [⟨"x", [.int 36028797018963970]⟩]
    c.column = d.column ∧ c.sql = d.sql ∧
      (c.classify (.empty {}) "t" t).value.1 = [true] ∧
      (d.classify (.empty {}) "t" t).value.1 = [false] := by
  intro c d t
  have htext : (Value.int 36028797018963970).text =
      (Value.float ⟨0x4360000000000000⟩).text := by decide +kernel
  have hc : c.test (.int 36028797018963970) = true := by decide +kernel
  have hd : d.test (.int 36028797018963970) = false := by decide +kernel
  refine ⟨rfl, by simp only [c, d, sql, thresholdSql, htext], ?_, ?_⟩
  · rw [value_classify, flags_ofCell c, hc]
  · rw [value_classify, flags_ofCell d, hd]

end Condition
end TableQuery
