/-
# The SQL text of a query is unambiguous

Names are words, so each shows where it ends: at a comma in a list of columns, and at a blank
elsewhere. What follows shows which part of the query comes next, and a threshold is either quoted
or the text of a number, so it ends where the next part begins or the text ends, even if a string
holds quotes or looks like SQL itself. So the text gives all parts of the query back, but for a
threshold that is no string: of that only its text (`Query.sql_unambiguous`).

Each lemma takes one part off the front of two equal texts: the parts are the same, and so is what
follows them.
-/

import TableQuery.Proofs.Text.Words
import TableQuery.Query

namespace TableQuery

open Text

/-- A name that can stand in SQL without quotes. -/
def IsName (name : String) : Prop := name ≠ "" ∧ ' ' ∉ name.toList ∧ ',' ∉ name.toList

instance (name : String) : Decidable (IsName name) := inferInstanceAs (Decidable (_ ∧ _ ∧ _))

theorem IsName.isWord {name : String} (h : IsName name) : IsWord name.toList := by
  intro c hc
  rw [Bool.eq_false_iff]
  intro hsep
  rw [isSeparator, Bool.or_eq_true, beq_iff_eq, beq_iff_eq] at hsep
  rcases hsep with rfl | rfl
  · exact h.2.1 hc
  · exact h.2.2 hc

theorem IsName.head? {name : String} (h : IsName name) (r : List Char) :
    ∃ c, (name.toList ++ r).head? = some c ∧ isSeparator c = false := by
  have hne : name.toList ≠ [] := fun hnil => h.1 (String.toList_eq_nil_iff.1 hnil)
  obtain ⟨c, cs, hcs⟩ := List.exists_cons_of_ne_nil hne
  refine ⟨c, by rw [hcs]; rfl, h.isWord c ?_⟩
  rw [hcs]
  exact List.mem_cons_self ..

variable {r s : List Char}

/-! ### Projections -/

/-- What stands behind the first name of a list: the other names, each behind a comma. -/
def behindFirst (names : List String) : List Char :=
  names.flatMap fun name => ',' :: ' ' :: name.toList

theorem endsWord_behindFirst (names : List String) (r : List Char) :
    EndsWord (behindFirst names ++ ' ' :: r) := by
  cases names with
  | nil => exact endsWord_cons rfl r
  | cons name names => exact endsWord_cons rfl _

/-- The other names of a list can be read back. -/
theorem behindFirst_append_inj {names names' : List String} (h : ∀ name ∈ names, IsName name)
    (h' : ∀ name ∈ names', IsName name)
    (htext : behindFirst names ++ ' ' :: r = behindFirst names' ++ ' ' :: s) :
    names = names' ∧ r = s := by
  induction names generalizing names' with
  | nil =>
    cases names' with
    | nil => exact ⟨rfl, (List.cons.inj htext).2⟩
    | cons name' names' => exact absurd (List.cons.inj htext).1 (by decide)
  | cons name names ih =>
    cases names' with
    | nil => exact absurd (List.cons.inj htext).1 (by decide)
    | cons name' names' =>
      have hfirst : name.toList ++ (behindFirst names ++ ' ' :: r) =
          name'.toList ++ (behindFirst names' ++ ' ' :: s) := by
        simpa [behindFirst] using htext
      obtain ⟨hname, hrest⟩ := (h name (List.mem_cons_self ..)).isWord.append_inj
        (h' name' (List.mem_cons_self ..)).isWord (endsWord_behindFirst names r)
        (endsWord_behindFirst names' s) hfirst
      obtain ⟨rfl, hrs⟩ := ih (fun n hn => h n (List.mem_cons_of_mem name hn))
        (fun n hn => h' n (List.mem_cons_of_mem name' hn)) hrest
      exact ⟨by rw [String.toList_inj.1 hname], hrs⟩

theorem Projection.toList_sql_cons (name : String) (names : List String) :
    (Projection.sql ⟨name :: names⟩).toList = name.toList ++ behindFirst names := by
  have hrest : ∀ name : String, ([',', ' '].intercalate ((name :: names).map String.toList)) =
      name.toList ++ behindFirst names := by
    induction names with
    | nil => simp [behindFirst]
    | cons name' names ih =>
      intro name
      rw [List.map_cons, List.map_cons, List.intercalate_cons_cons, ← List.map_cons, ih name']
      simp [behindFirst]
  rw [sql, String.toList_intercalate]
  exact hrest name

/-- **A list of columns can be read back,** also an empty one. -/
theorem Projection.sql_append_inj {p p' : Projection} (h : ∀ name ∈ p.names, IsName name)
    (h' : ∀ name ∈ p'.names, IsName name)
    (htext : p.sql.toList ++ ' ' :: r = p'.sql.toList ++ ' ' :: s) : p = p' ∧ r = s := by
  obtain ⟨names⟩ := p
  obtain ⟨names'⟩ := p'
  -- A blank at once is an empty list, as no name starts with one.
  have hblank : ∀ {name : String} {r s : List Char}, IsName name → ' ' :: r ≠ name.toList ++ s := by
    intro name r s hname heq
    obtain ⟨c, hhead, hc⟩ := hname.head? s
    rw [← heq] at hhead
    obtain rfl := Option.some.inj hhead
    exact absurd hc (by decide)
  have hempty : (Projection.sql ⟨[]⟩).toList = [] := rfl
  cases names with
  | nil =>
    cases names' with
    | nil => exact ⟨rfl, (List.cons.inj htext).2⟩
    | cons name' names' =>
      rw [hempty, toList_sql_cons, List.append_assoc] at htext
      exact absurd htext (hblank (h' name' (List.mem_cons_self ..)))
  | cons name names =>
    rw [toList_sql_cons, List.append_assoc] at htext
    cases names' with
    | nil =>
      rw [hempty] at htext
      exact absurd htext.symm (hblank (h name (List.mem_cons_self ..)))
    | cons name' names' =>
      rw [toList_sql_cons, List.append_assoc] at htext
      obtain ⟨hname, hrest⟩ := (h name (List.mem_cons_self ..)).isWord.append_inj
        (h' name' (List.mem_cons_self ..)).isWord (endsWord_behindFirst names r)
        (endsWord_behindFirst names' s) htext
      obtain ⟨rfl, hrs⟩ := behindFirst_append_inj
        (fun n hn => h n (List.mem_cons_of_mem name hn))
        (fun n hn => h' n (List.mem_cons_of_mem name' hn)) hrest
      exact ⟨by rw [String.toList_inj.1 hname], hrs⟩

/-! ### Conditions -/

theorem Value.eq_str_of_str? {v : Value} {text : String} (h : v.str? = some text) :
    v = .str text := by
  cases v with
  | str s => exact congrArg str (Option.some.inj h)
  | _ => cases h

/-- Two thresholds that SQL cannot tell apart: one string, or two other cells of one text. -/
def SameThreshold (a b : Value) : Prop :=
  (∃ s, a = .str s ∧ b = .str s) ∨ (a.str? = none ∧ b.str? = none ∧ a.text = b.text)

namespace Condition

theorem thresholdSql_of_str?_eq_none {v : Value} (h : v.str? = none) :
    thresholdSql v = v.text := by
  cases v with
  | str s => cases h
  | _ => rfl

/-- A string begins with an apostrophe, and no other threshold does. -/
theorem thresholdSql_str_append_ne (text : String) {v : Value} (h : v.str? = none)
    (hs : EndsWord s) : (thresholdSql (.str text)).toList ++ r ≠ (thresholdSql v).toList ++ s := by
  intro heq
  have hhead := congrArg List.head? heq
  have hquote : ((thresholdSql (.str text)).toList ++ r).head? = some '\'' := by
    rw [thresholdSql, String.toList_ofList, quote]
    rfl
  rw [thresholdSql_of_str?_eq_none h, hquote] at hhead
  cases hv : v.text.toList with
  | nil =>
    rw [hv, List.nil_append] at hhead
    exact hs.head?_ne_quote hhead.symm
  | cons c cs =>
    rw [hv] at hhead
    obtain rfl := Option.some.inj hhead
    refine (Value.isNumeral_text h).quote_not_mem ?_
    rw [hv]
    exact List.mem_cons_self ..

/-- **A threshold can be read back,** up to the text of what is no string. -/
theorem thresholdSql_append_inj {a b : Value} (hr : EndsWord r) (hs : EndsWord s)
    (h : (thresholdSql a).toList ++ r = (thresholdSql b).toList ++ s) :
    SameThreshold a b ∧ r = s := by
  cases ha : a.str? with
  | some text =>
    obtain rfl := Value.eq_str_of_str? ha
    cases hb : b.str? with
    | some text' =>
      obtain rfl := Value.eq_str_of_str? hb
      rw [thresholdSql, thresholdSql, String.toList_ofList, String.toList_ofList] at h
      obtain ⟨htext, hrest⟩ := quote_append_inj hr hs h
      obtain rfl := String.toList_inj.1 htext
      exact ⟨.inl ⟨text, rfl, rfl⟩, hrest⟩
    | none => exact absurd h (thresholdSql_str_append_ne text hb hs)
  | none =>
    cases hb : b.str? with
    | some text' =>
      obtain rfl := Value.eq_str_of_str? hb
      exact absurd h.symm (thresholdSql_str_append_ne text' ha hr)
    | none =>
      rw [thresholdSql_of_str?_eq_none ha, thresholdSql_of_str?_eq_none hb] at h
      obtain ⟨htext, hrest⟩ := (Value.isNumeral_text ha).isWord.append_inj
        (Value.isNumeral_text hb).isWord hr hs h
      exact ⟨.inr ⟨ha, hb, String.toList_inj.1 htext⟩, hrest⟩

theorem toList_sql (c : Condition) :
    c.sql.toList = c.column.toList ++
      ' ' :: (c.comparison.symbol.toList ++ ' ' :: (thresholdSql c.threshold).toList) := by
  simp [sql]

theorem isWord_symbol (op : Comparison) : IsWord op.symbol.toList := by
  cases op <;> decide

/-- Two conditions that SQL cannot tell apart. -/
structure SameSql (c d : Condition) : Prop where
  column : c.column = d.column
  comparison : c.comparison = d.comparison
  threshold : SameThreshold c.threshold d.threshold

/-- **A condition can be read back,** up to the text of a threshold that is no string. -/
theorem sql_append_inj {c d : Condition} (hc : IsName c.column) (hd : IsName d.column)
    (hr : EndsWord r) (hs : EndsWord s) (h : c.sql.toList ++ r = d.sql.toList ++ s) :
    c.SameSql d ∧ r = s := by
  simp only [toList_sql, List.append_assoc, List.cons_append] at h
  obtain ⟨hcolumn, hrest⟩ :=
    hc.isWord.append_inj hd.isWord (endsWord_cons rfl _) (endsWord_cons rfl _) h
  obtain ⟨hsymbol, hrest⟩ := (isWord_symbol c.comparison).append_inj (isWord_symbol d.comparison)
    (endsWord_cons rfl _) (endsWord_cons rfl _) (List.cons.inj hrest).2
  obtain ⟨hthreshold, hrs⟩ := thresholdSql_append_inj hr hs (List.cons.inj hrest).2
  exact ⟨⟨String.toList_inj.1 hcolumn, Comparison.symbol_injective (String.toList_inj.1 hsymbol),
    hthreshold⟩, hrs⟩

end Condition

/-! ### Directions -/

namespace Direction

theorem keyword_injective {a b : SortOrder} (h : a.keyword = b.keyword) : a = b := by
  revert h
  cases a <;> cases b <;> decide

/-- **A direction can be read back,** as nothing follows it. -/
theorem sql_injective {d e : Direction} (hd : IsName d.column) (he : IsName e.column)
    (h : d.sql = e.sql) : d = e := by
  have htext : d.column.toList ++ ' ' :: d.order.keyword.toList =
      e.column.toList ++ ' ' :: e.order.keyword.toList := by
    simpa [sql] using congrArg String.toList h
  obtain ⟨hcolumn, hrest⟩ :=
    hd.isWord.append_inj he.isWord (endsWord_cons rfl _) (endsWord_cons rfl _) htext
  have horder := keyword_injective (String.toList_inj.1 (List.cons.inj hrest).2)
  obtain ⟨column, order⟩ := d
  obtain ⟨column', order'⟩ := e
  obtain rfl : column = column' := String.toList_inj.1 hcolumn
  obtain rfl : order = order' := horder
  rfl

end Direction

/-! ### Queries -/

namespace Query

/-- Whether all names in a query can stand in SQL without quotes. -/
structure IsNamed (q : Query) : Prop where
  columns : ∀ name ∈ q.columns.names, IsName name
  source : IsName q.source
  condition : ∀ c ∈ q.condition?, IsName c.column
  direction : ∀ d ∈ q.direction?, IsName d.column

theorem toList_optionalSql_none {α : Type} (sql : α → String) :
    (optionalSql sql none).toList = [] := rfl

theorem toList_optionalSql_some {α : Type} (sql : α → String) (a : α) :
    (optionalSql sql (some a)).toList = ' ' :: (sql a).toList := by
  simp [optionalSql]

theorem endsWord_optionalSql {α : Type} (sql : α → String) (part? : Option α) :
    EndsWord (optionalSql sql part?).toList := by
  cases part? with
  | none => exact endsWord_nil
  | some part =>
    rw [toList_optionalSql_some]
    exact endsWord_cons rfl _

theorem toList_sortSql (d : Direction) :
    d.sortSql.toList = "ORDER BY ".toList ++ d.sql.toList := String.toList_append

theorem toList_filterSql (c : Condition) :
    c.filterSql.toList = "WHERE ".toList ++ c.sql.toList := String.toList_append

/-- Whether and how a query sorts can be read back. -/
theorem optionalSql_sortSql_inj {d? e? : Option Direction} (hd : ∀ d ∈ d?, IsName d.column)
    (he : ∀ e ∈ e?, IsName e.column)
    (h : (optionalSql Direction.sortSql d?).toList = (optionalSql Direction.sortSql e?).toList) :
    d? = e? := by
  cases d? with
  | none =>
    cases e? with
    | none => rfl
    | some e => rw [toList_optionalSql_some] at h; cases h
  | some d =>
    cases e? with
    | none => rw [toList_optionalSql_some] at h; cases h
    | some e =>
      rw [toList_optionalSql_some, toList_optionalSql_some, toList_sortSql, toList_sortSql] at h
      have hsql := List.append_cancel_left (List.cons.inj h).2
      rw [Direction.sql_injective (hd d rfl) (he e rfl) (String.toList_inj.1 hsql)]

/-- Whether and how a query filters can be read back, before what says how it sorts. -/
theorem optionalSql_filterSql_append_inj {c? c'? : Option Condition} {d? e? : Option Direction}
    (hc : ∀ c ∈ c?, IsName c.column) (hc' : ∀ c ∈ c'?, IsName c.column)
    (h : (optionalSql Condition.filterSql c?).toList ++ (optionalSql Direction.sortSql d?).toList =
      (optionalSql Condition.filterSql c'?).toList ++ (optionalSql Direction.sortSql e?).toList) :
    Option.Rel Condition.SameSql c? c'? ∧
      (optionalSql Direction.sortSql d?).toList = (optionalSql Direction.sortSql e?).toList := by
  -- What says how to filter and what says how to sort begin differently.
  have hne : ∀ (c : Condition) (r : List Char) (d? : Option Direction),
      (optionalSql Condition.filterSql (some c)).toList ++ r ≠
        (optionalSql Direction.sortSql d?).toList := by
    intro c r d? heq
    rw [toList_optionalSql_some, toList_filterSql] at heq
    cases d? with
    | none => cases heq
    | some d =>
      rw [toList_optionalSql_some, toList_sortSql] at heq
      exact absurd (List.cons.inj (List.cons.inj heq).2).1 (by decide)
  cases c? with
  | none =>
    rw [toList_optionalSql_none, List.nil_append] at h
    cases c'? with
    | none => exact ⟨.none, h⟩
    | some c' => exact absurd h.symm (hne c' _ d?)
  | some c =>
    cases c'? with
    | none => exact absurd h (hne c _ e?)
    | some c' =>
      rw [toList_optionalSql_some, toList_optionalSql_some, toList_filterSql, toList_filterSql,
        List.cons_append, List.cons_append, List.append_assoc, List.append_assoc] at h
      obtain ⟨hsame, hrest⟩ := Condition.sql_append_inj (hc c rfl) (hc' c' rfl)
        (endsWord_optionalSql _ d?) (endsWord_optionalSql _ e?)
        (List.append_cancel_left (List.cons.inj h).2)
      exact ⟨.some hsame, hrest⟩

theorem toList_sql (q : Query) :
    q.sql.toList = "SELECT ".toList ++ (q.columns.sql.toList ++ ' ' :: ("FROM ".toList ++
      (q.source.toList ++ ((optionalSql Condition.filterSql q.condition?).toList ++
        (optionalSql Direction.sortSql q.direction?).toList)))) := by
  simp [sql, sourceSql]

/-- **The SQL text of a query is unambiguous.** Queries whose names are words have one text only if
they have the same columns, source and direction, and conditions on the same column by the same
comparison with the same threshold, or with two that are no strings and have one text. -/
theorem sql_unambiguous {q r : Query} (hq : q.IsNamed) (hr : r.IsNamed) (h : q.sql = r.sql) :
    q.columns = r.columns ∧ q.source = r.source ∧
      Option.Rel Condition.SameSql q.condition? r.condition? ∧ q.direction? = r.direction? := by
  have htext := congrArg String.toList h
  rw [toList_sql, toList_sql] at htext
  obtain ⟨hcolumns, hrest⟩ := Projection.sql_append_inj hq.columns hr.columns
    (List.append_cancel_left htext)
  have hends : ∀ q : Query, EndsWord ((optionalSql Condition.filterSql q.condition?).toList ++
      (optionalSql Direction.sortSql q.direction?).toList) := by
    intro q
    cases q.condition? with
    | none => exact endsWord_optionalSql _ _
    | some c =>
      rw [toList_optionalSql_some]
      exact endsWord_cons rfl _
  obtain ⟨hsource, hrest⟩ := hq.source.isWord.append_inj hr.source.isWord (hends q) (hends r)
    (List.append_cancel_left hrest)
  obtain ⟨hcondition, hrest⟩ := optionalSql_filterSql_append_inj hq.condition hr.condition hrest
  exact ⟨hcolumns, String.toList_inj.1 hsource, hcondition,
    optionalSql_sortSql_inj hq.direction hr.direction hrest⟩

/-- The articles of a price, by name. -/
def ofPrice (price : Value) : Query where
  columns := ⟨["article", "stock"]⟩
  source := "articles"
  condition? := some ⟨"price", .equal, price⟩
  direction? := some ⟨"article", .ascending⟩

/-- The integer and the float one make one text, and nothing else differs in the queries. -/
theorem sql_unambiguous_ofPrice :
    let q := ofPrice (.int 1)
    let r := ofPrice (.float .one)
    (q.IsNamed ∧ r.IsNamed ∧ q.sql = r.sql) ∧
    q.columns = r.columns ∧ q.source = r.source ∧
      Option.Rel Condition.SameSql q.condition? r.condition? ∧ q.direction? = r.direction? := by
  intro q r
  have hnamed : ∀ price, (ofPrice price).IsNamed := by
    intro price
    have hcolumns : ∀ name ∈ ["article", "stock"], IsName name := by decide
    have hsource : IsName "articles" := by decide
    have hprice : IsName "price" := by decide
    refine ⟨hcolumns, hsource, ?_, ?_⟩
    · rintro c ⟨⟩
      exact hprice
    · rintro d ⟨⟩
      exact hcolumns "article" (by decide)
  have hone : (Value.int 1).text = (Value.float .one).text := by decide +kernel
  have hsql : q.sql = r.sql := by
    simp only [q, r, ofPrice, sql, optionalSql, Condition.filterSql, Condition.sql,
      Condition.thresholdSql, hone]
  exact ⟨⟨hnamed _, hnamed _, hsql⟩, sql_unambiguous (hnamed _) (hnamed _) hsql⟩

end Query
end TableQuery
