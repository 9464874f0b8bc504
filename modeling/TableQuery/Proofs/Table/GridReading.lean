/-
# Reading a grid back

What a grid shows can be read from it. The rule tells the widths of the columns by its crosses
(`ruleWidths_gridRule`), and a line that is filled up with spaces to the length of the rule has each
text in the field of its column (`showsTexts_gridLine`). The blanks at the end of a line are not
written, so those of a text in the last column are lost, and no others.

If no text has a newline, the lines can be told apart as well, and two tables with one grid show the
same names and the same texts up to blanks at their ends (`grid_readable`). Bars and crosses inside
of texts do no harm, because fields are found by their places.
-/

import TableQuery.Proofs.Text.Fields
import TableQuery.Table.Grid
import TableQuery.Table.Lemmas
import Mathlib.Order.Bounds.Basic
import Mathlib.Order.MinMax

namespace TableQuery

variable {t u : Table} {c : Column} {widths : List ℕ}

/-! ### What a grid is to show -/

/-- The text of the cell at a height, empty below the last cell. -/
def Column.textAt (c : Column) (i : ℕ) : List Char :=
  match c.values[i]? with
  | some v => v.text.toList
  | none => []

/-- How wide a column is in a grid. -/
def Column.gridWidth (c : Column) : ℕ := (Table.TextColumn.ofColumn c).width

namespace Table

/-- The length of the longest column. -/
def height (t : Table) : ℕ := (t.columns.toList.map fun c => c.values.length).foldl max 0

/-- The names above the columns. -/
def headings (t : Table) : List (List Char) := t.columns.toList.map fun c => c.name.toList

/-- The texts of all columns at a height. -/
def textsAt (t : Table) (i : ℕ) : List (List Char) := t.columns.toList.map fun c => c.textAt i

/-- The widths of all columns. -/
def gridWidths (t : Table) : List ℕ := t.columns.toList.map Column.gridWidth

/-- No name and no cell's text has a newline in it. -/
def IsOneLined (t : Table) : Prop :=
  ∀ c ∈ t.columns, '\n' ∉ c.name.toList ∧ ∀ v ∈ c.values, '\n' ∉ v.text.toList

/-- The widths told by a rule. Between two crosses it has two dashes more than a column is wide,
before the first cross and behind the last one more. -/
def ruleWidths (rule : List Char) : List ℕ :=
  (('-' :: (rule ++ ['-'])).splitOn '+').map fun dashes => dashes.length - 2

/-- **A line shows texts** in fields of given widths. It is read with spaces behind it, up to a
length that is given too. -/
structure ShowsTexts (widths : List ℕ) (length : ℕ) (line : List Char)
    (texts : List (List Char)) : Prop where
  /-- The line is not longer than that. -/
  length_le : line.length ≤ length
  /-- There is a text for each field. -/
  length_texts : texts.length = widths.length
  /-- Each field is in the line, has room for its text and holds it, up to blanks behind it. -/
  fields : ∀ {j w : ℕ} {text : List Char}, widths[j]? = some w → texts[j]? = some text →
    (Text.fieldAt widths (pad length line) j).length = w ∧ text.length ≤ w ∧
      Text.trimEnd (Text.fieldAt widths (pad length line) j) = Text.trimEnd text
  /-- In all fields but the last one, nothing but spaces stands behind the text. -/
  inner : ∀ {j w : ℕ} {text : List Char}, widths[j]? = some w → texts[j]? = some text →
    j + 1 < widths.length → Text.fieldAt widths (pad length line) j = pad w text
  /-- A bar between two spaces stands behind all fields but the last one. -/
  bars : ∀ {j w : ℕ}, widths[j]? = some w → j + 1 < widths.length →
    ((pad length line).drop (Text.fieldStart widths j + w)).take 3 = " | ".toList

end Table

/-! ### Widths and heights -/

theorem isGreatest_foldl_max (a : ℕ) (l : List ℕ) :
    IsGreatest {n | n = a ∨ n ∈ l} (l.foldl max a) := by
  induction l generalizing a with
  | nil => exact ⟨.inl rfl, fun n hn => (hn.resolve_right List.not_mem_nil).le⟩
  | cons b l ih =>
    obtain ⟨hmem, hle⟩ := ih (max a b)
    have hab : max a b ≤ l.foldl max (max a b) := hle (.inl rfl)
    constructor
    · rcases hmem with hmem | hmem
      · rcases max_choice a b with h | h
        · exact .inl (hmem.trans h)
        · exact .inr (List.mem_cons.2 (.inl (hmem.trans h)))
      · exact .inr (List.mem_cons_of_mem b hmem)
    · rintro n (rfl | hn)
      · exact (le_max_left n b).trans hab
      · rcases List.mem_cons.1 hn with rfl | hn
        · exact (le_max_right a n).trans hab
        · exact hle (.inr hn)

namespace Column

/-- **A column is as wide as its widest text**, the name among them. -/
theorem isGreatest_gridWidth (c : Column) :
    IsGreatest {n | n = c.name.toList.length ∨ n ∈ c.values.map fun v => v.text.toList.length}
      c.gridWidth := by
  have hwidth : c.gridWidth =
      (c.values.map fun v => v.text.toList.length).foldl max c.name.toList.length := by
    rw [gridWidth, Table.TextColumn.width, Table.TextColumn.ofColumn, List.foldl_toArray,
      List.foldl_map, List.foldl_map]
  rw [hwidth]
  exact isGreatest_foldl_max _ _

theorem length_name_le (c : Column) : c.name.toList.length ≤ c.gridWidth :=
  c.isGreatest_gridWidth.2 (.inl rfl)

theorem textAt_of_getElem? {i : ℕ} {v : Value} (h : c.values[i]? = some v) :
    c.textAt i = v.text.toList := by
  rw [textAt, h]

theorem textAt_of_length_le {i : ℕ} (h : c.values.length ≤ i) : c.textAt i = [] := by
  rw [textAt, List.getElem?_eq_none h]

theorem cellAt_ofColumn (c : Column) (i : ℕ) :
    (Table.TextColumn.ofColumn c).cellAt i = c.textAt i := by
  rw [Table.TextColumn.cellAt, Table.TextColumn.ofColumn, List.getElem?_toArray, List.getElem?_map,
    textAt]
  cases c.values[i]? with
  | none => rfl
  | some v => rfl

/-- Each text of a column is that of a cell, or empty. -/
theorem textAt_cases (c : Column) (i : ℕ) :
    (∃ v ∈ c.values, c.textAt i = v.text.toList) ∨ c.textAt i = [] := by
  rcases Nat.lt_or_ge i c.values.length with h | h
  · exact .inl ⟨_, List.getElem_mem h, textAt_of_getElem? (List.getElem?_eq_getElem h)⟩
  · exact .inr (textAt_of_length_le h)

theorem length_textAt_le (c : Column) (i : ℕ) : (c.textAt i).length ≤ c.gridWidth := by
  rcases c.textAt_cases i with ⟨v, hv, h⟩ | h
  · rw [h]
    exact c.isGreatest_gridWidth.2 (.inr (List.mem_map_of_mem hv))
  · rw [h]
    exact Nat.zero_le _

end Column

namespace Table

theorem exists_column (hcols : t.isEmpty = false) : ∃ c, c ∈ t.columns := by
  rw [isEmpty, Array.isEmpty_eq_false_iff] at hcols
  exact Array.exists_mem_of_ne_empty _ hcols

theorem length_le_height (hc : c ∈ t.columns) : c.values.length ≤ t.height := by
  have hmem : c.values.length ∈ t.columns.toList.map fun c => c.values.length :=
    List.mem_map.2 ⟨c, Array.mem_toList_iff.2 hc, rfl⟩
  exact (isGreatest_foldl_max 0 _).2 (.inr hmem)

/-- **The height is the length of the longest column.** -/
theorem isGreatest_height (hcols : t.isEmpty = false) :
    IsGreatest {n | ∃ c ∈ t.columns, c.values.length = n} t.height := by
  refine ⟨?_, ?_⟩
  · rcases (isGreatest_foldl_max 0 (t.columns.toList.map fun c => c.values.length)).1 with h | h
    · -- where no column is longer than zero, any of them is
      obtain ⟨c, hc⟩ := exists_column hcols
      have hle : c.values.length ≤ 0 := (length_le_height hc).trans_eq h
      exact ⟨c, hc, (Nat.le_zero.1 hle).trans h.symm⟩
    · obtain ⟨c, hc, hlength⟩ := List.mem_map.1 h
      exact ⟨c, Array.mem_toList_iff.1 hc, hlength⟩
  · rintro n ⟨c, hc, rfl⟩
    exact length_le_height hc

/-- Below the longest column all texts are empty. -/
theorem textsAt_of_height_le {i : ℕ} (h : t.height ≤ i) :
    t.textsAt i = List.replicate t.columnCount [] := by
  have hempty : t.textsAt i = t.columns.toList.map fun _ => [] :=
    List.map_congr_left fun c hc =>
      Column.textAt_of_length_le ((length_le_height (Array.mem_toList_iff.1 hc)).trans h)
  rw [hempty, List.map_const', Array.length_toList, columnCount]

theorem length_gridWidths (t : Table) : t.gridWidths.length = t.columnCount := by
  rw [gridWidths, List.length_map, Array.length_toList, columnCount]

theorem gridWidths_ne_nil (hcols : t.isEmpty = false) : t.gridWidths ≠ [] := by
  obtain ⟨c, hc⟩ := exists_column hcols
  exact List.ne_nil_of_mem (List.mem_map_of_mem (Array.mem_toList_iff.2 hc))

/-! ### The rule -/

theorem gridRule_cons_cons (w next : ℕ) (rest : List ℕ) :
    gridRule (w :: next :: rest) =
      List.replicate w '-' ++ "-+-".toList ++ gridRule (next :: rest) := by
  rw [gridRule, List.map_cons, List.map_cons, List.intercalate_cons_cons, gridRule, List.map_cons]

/-- A rule with a dash more at its two ends is blocks of dashes between crosses. -/
theorem dash_gridRule_dash (hne : widths ≠ []) :
    '-' :: (gridRule widths ++ ['-']) =
      ['+'].intercalate (widths.map fun w => List.replicate (w + 2) '-') := by
  have hblock (w : ℕ) : List.replicate (w + 2) '-' = '-' :: (List.replicate w '-' ++ ['-']) := by
    rw [List.replicate_succ, List.replicate_succ']
  induction widths with
  | nil => exact absurd rfl hne
  | cons w widths ih =>
    cases widths with
    | nil =>
      rw [gridRule, List.map_singleton, List.map_singleton, List.intercalate_singleton,
        List.intercalate_singleton, hblock]
    | cons next rest =>
      have hbar : "-+-".toList = ['-', '+', '-'] := rfl
      have hrest := ih (List.cons_ne_nil next rest)
      rw [List.map_cons] at hrest
      rw [List.map_cons, List.map_cons, List.intercalate_cons_cons, ← hrest, hblock,
        gridRule_cons_cons, hbar]
      simp only [List.cons_append, List.append_assoc, List.nil_append]

/-- **The crosses of a rule tell the widths.** -/
theorem ruleWidths_gridRule (hne : widths ≠ []) : ruleWidths (gridRule widths) = widths := by
  rw [ruleWidths, dash_gridRule_dash hne, List.splitOn_intercalate, List.map_map]
  · have hwidth : ((fun dashes => dashes.length - 2) ∘ fun w => List.replicate (w + 2) '-') = id :=
      funext fun w => by simp
    rw [hwidth, List.map_id]
  · intro dashes hdashes hcross
    obtain ⟨w, -, rfl⟩ := List.mem_map.1 hdashes
    exact absurd (List.eq_of_mem_replicate hcross) (by decide)
  · simpa using hne

/-- A rule has a cross less than there are columns. -/
theorem count_cross_gridRule (hne : widths ≠ []) :
    (gridRule widths).count '+' + 1 = widths.length := by
  have hdashes (w : ℕ) : (List.replicate w '-').count '+' = 0 :=
    List.count_eq_zero.2 fun h => absurd (List.eq_of_mem_replicate h) (by decide)
  induction widths with
  | nil => exact absurd rfl hne
  | cons w widths ih =>
    cases widths with
    | nil => rw [gridRule, List.map_singleton, List.intercalate_singleton, hdashes]; rfl
    | cons next rest =>
      have hbar : "-+-".toList.count '+' = 1 := by decide
      rw [gridRule_cons_cons, List.count_append, List.count_append, hdashes, hbar,
        List.length_cons, ← ih (List.cons_ne_nil _ _)]
      omega

theorem mem_gridRule {ch : Char} (h : ch ∈ gridRule widths) : ch = '-' ∨ ch = '+' := by
  rcases Text.mem_intercalate h with h | ⟨dashes, hdashes, h⟩
  · have hbar : "-+-".toList = ['-', '+', '-'] := rfl
    rw [hbar, List.mem_cons, List.mem_cons, List.mem_singleton] at h
    rcases h with h | h | h
    · exact .inl h
    · exact .inr h
    · exact .inl h
  · obtain ⟨w, -, rfl⟩ := List.mem_map.1 hdashes
    exact .inl (List.eq_of_mem_replicate h)

theorem length_gridRule_add (hne : widths ≠ []) :
    (gridRule widths).length + 3 = Text.fieldStart widths widths.length := by
  have hlengths : (widths.map fun w => List.replicate w '-').map List.length = widths := by
    rw [List.map_map]
    exact (List.map_congr_left fun w _ => List.length_replicate).trans (List.map_id widths)
  rw [gridRule, Text.length_intercalate_add rfl (by simpa using hne), hlengths, List.length_map]

/-! ### The other lines -/

theorem length_pad {w : ℕ} {text : List Char} (h : text.length ≤ w) : (pad w text).length = w := by
  rw [pad, List.length_append, List.length_replicate, Nat.add_sub_cancel' h]

theorem trimEnd_pad (w : ℕ) (text : List Char) :
    Text.trimEnd (pad w text) = Text.trimEnd text := by
  apply Text.trimEnd_append_blanks
  intro ch hch
  rw [List.eq_of_mem_replicate hch]
  rfl

section Line

variable {fields : List (List Char)} {field : List Char} {j : ℕ}

/-- A line that is filled up to the length it had with its blanks shows the fields it was made of,
with spaces in the place of the blanks at the end of the last one. -/
theorem pad_gridLine (fields : List (List Char)) :
    pad (" | ".toList.intercalate fields).length (gridLine fields) =
      " | ".toList.intercalate (Text.spaceLast fields) :=
  Text.spaceEnd_intercalate fields

theorem length_gridLine_le (fields : List (List Char)) :
    (gridLine fields).length ≤ (" | ".toList.intercalate fields).length :=
  Text.length_trimEnd_le _

theorem fieldAt_gridLine (hfield : fields[j]? = some field) :
    Text.fieldAt (fields.map List.length)
        (pad (" | ".toList.intercalate fields).length (gridLine fields)) j =
      if j + 1 = fields.length then Text.spaceEnd field else field := by
  have hshown : (Text.spaceLast fields)[j]? =
      some (if j + 1 = fields.length then Text.spaceEnd field else field) := by
    rw [Text.getElem?_spaceLast, hfield, Option.map_some]
  rw [pad_gridLine, ← Text.map_length_spaceLast, Text.fieldAt_intercalate rfl hshown]

theorem bar_gridLine (hfield : fields[j]? = some field) (hj : j + 1 < fields.length) :
    ((pad (" | ".toList.intercalate fields).length (gridLine fields)).drop
        (Text.fieldStart (fields.map List.length) j + field.length)).take 3 = " | ".toList := by
  have hshown : (Text.spaceLast fields)[j]? = some field := by
    rw [Text.getElem?_spaceLast, hfield, Option.map_some, if_neg hj.ne]
  have hlength : (Text.spaceLast fields).length = fields.length := by
    rw [← List.length_map (f := List.length), Text.map_length_spaceLast, List.length_map]
  rw [pad_gridLine, ← Text.map_length_spaceLast,
    Text.take_drop_separator rfl hshown (hlength.symm ▸ hj)]

/-- **A line shows the texts of its fields**, if these are the texts with spaces behind them. -/
theorem showsTexts_gridLine {texts : List (List Char)} (hcount : texts.length = fields.length)
    (hpad : ∀ {j : ℕ} {field text : List Char}, fields[j]? = some field → texts[j]? = some text →
      text.length ≤ field.length ∧ field = pad field.length text) :
    ShowsTexts (fields.map List.length) (" | ".toList.intercalate fields).length
      (gridLine fields) texts where
  length_le := length_gridLine_le fields
  length_texts := by rw [hcount, List.length_map]
  fields := by
    intro j w text hw htext
    rw [List.getElem?_map, Option.map_eq_some_iff] at hw
    obtain ⟨field, hfield, rfl⟩ := hw
    obtain ⟨hle, heq⟩ := hpad hfield htext
    have htrim : Text.trimEnd field = Text.trimEnd text := by rw [heq, trimEnd_pad]
    rw [fieldAt_gridLine hfield]
    split
    · exact ⟨Text.length_spaceEnd field, hle, (Text.trimEnd_spaceEnd field).trans htrim⟩
    · exact ⟨rfl, hle, htrim⟩
  inner := by
    intro j w text hw htext hj
    rw [List.getElem?_map, Option.map_eq_some_iff] at hw
    obtain ⟨field, hfield, rfl⟩ := hw
    rw [List.length_map] at hj
    rw [fieldAt_gridLine hfield, if_neg hj.ne]
    exact (hpad hfield htext).2
  bars := by
    intro j w hw hj
    rw [List.getElem?_map, Option.map_eq_some_iff] at hw
    obtain ⟨field, hfield, rfl⟩ := hw
    rw [List.length_map] at hj
    exact bar_gridLine hfield hj

theorem newline_not_mem_gridLine (h : ∀ field ∈ fields, '\n' ∉ field) : '\n' ∉ gridLine fields := by
  intro hmem
  rcases Text.mem_intercalate ((Text.trimEnd_sublist _).subset hmem) with hbar | ⟨field, hf, hn⟩
  · exact absurd hbar (by decide)
  · exact h field hf hn

theorem newline_not_mem_pad {w : ℕ} {text : List Char} (h : '\n' ∉ text) : '\n' ∉ pad w text := by
  rw [pad, List.mem_append, not_or]
  exact ⟨h, fun hn => absurd (List.eq_of_mem_replicate hn) (by decide)⟩

end Line

/-- The line of a grid that has a text for each column. -/
def gridRow (t : Table) (text : Column → List Char) : List Char :=
  gridLine (t.columns.toList.map fun c => pad c.gridWidth (text c))

theorem gridLines_eq (t : Table) :
    t.gridLines = t.gridRow (fun c => c.name.toList) :: gridRule t.gridWidths ::
      (List.range t.height).map fun i => t.gridRow (·.textAt i) := by
  have hsize (c : Column) : (TextColumn.ofColumn c).cells.size = c.values.length := by
    rw [TextColumn.ofColumn, List.size_toArray, List.length_map]
  simp only [gridLines, List.map_map, Function.comp_def, Column.cellAt_ofColumn, hsize]
  rfl

/-- **A line of the grid shows its texts** in the fields that the rule tells, if they are not wider
than their columns. -/
theorem showsTexts_gridRow (hcols : t.isEmpty = false) {text : Column → List Char}
    (hwidth : ∀ c ∈ t.columns, (text c).length ≤ c.gridWidth) :
    ShowsTexts t.gridWidths (gridRule t.gridWidths).length (t.gridRow text)
      (t.columns.toList.map text) := by
  -- the fields before they are joined
  let fields := t.columns.toList.map fun c => pad c.gridWidth (text c)
  have hcount : fields.length = t.gridWidths.length := by
    rw [List.length_map, gridWidths, List.length_map]
  have hlengths : fields.map List.length = t.gridWidths := by
    rw [List.map_map, gridWidths]
    exact List.map_congr_left fun c hc => length_pad (hwidth c (Array.mem_toList_iff.1 hc))
  have hne : fields ≠ [] := by
    rw [← List.length_pos_iff, hcount, List.length_pos_iff]
    exact gridWidths_ne_nil hcols
  have hlength : (gridRule t.gridWidths).length = (" | ".toList.intercalate fields).length := by
    have hrule := length_gridRule_add (gridWidths_ne_nil hcols)
    have hline : (" | ".toList.intercalate fields).length + 3 =
        Text.fieldStart (fields.map List.length) fields.length :=
      Text.length_intercalate_add rfl hne
    rw [hlengths, hcount] at hline
    omega
  rw [hlength, ← hlengths]
  apply showsTexts_gridLine
  · rw [List.length_map, List.length_map]
  · intro j field s hfield hs
    rw [List.getElem?_map, Option.map_eq_some_iff] at hfield
    obtain ⟨c, hc, rfl⟩ := hfield
    rw [List.getElem?_map, hc, Option.map_some, Option.some.injEq] at hs
    obtain rfl := hs
    have hle := hwidth c (Array.mem_toList_iff.1 (List.mem_of_getElem? hc))
    rw [length_pad hle]
    exact ⟨hle, rfl⟩

/-- A line shows one row of texts only, up to blanks at their ends. -/
theorem ShowsTexts.map_trimEnd_eq {n : ℕ} {line : List Char} {texts texts' : List (List Char)}
    (h : ShowsTexts widths n line texts) (h' : ShowsTexts widths n line texts') :
    texts.map Text.trimEnd = texts'.map Text.trimEnd := by
  apply List.ext_getElem?
  intro j
  rw [List.getElem?_map, List.getElem?_map]
  rcases Nat.lt_or_ge j widths.length with hj | hj
  · have hw := List.getElem?_eq_getElem hj
    have hs := List.getElem?_eq_getElem (h.length_texts.symm ▸ hj)
    have hs' := List.getElem?_eq_getElem (h'.length_texts.symm ▸ hj)
    rw [hs, hs', Option.map_some, Option.map_some, ← (h.fields hw hs).2.2,
      (h'.fields hw hs').2.2]
  · rw [List.getElem?_eq_none (h.length_texts.trans_le hj),
      List.getElem?_eq_none (h'.length_texts.trans_le hj)]

theorem newline_not_mem_gridRow {text : Column → List Char}
    (h : ∀ c ∈ t.columns, '\n' ∉ text c) : '\n' ∉ t.gridRow text := by
  apply newline_not_mem_gridLine
  intro field hfield
  obtain ⟨c, hc, rfl⟩ := List.mem_map.1 hfield
  exact newline_not_mem_pad (h c (Array.mem_toList_iff.1 hc))

theorem IsOneLined.newline_not_mem (ht : t.IsOneLined) : ∀ line ∈ t.gridLines, '\n' ∉ line := by
  intro line hline
  rw [gridLines_eq, List.mem_cons, List.mem_cons] at hline
  rcases hline with rfl | rfl | hline
  · exact newline_not_mem_gridRow fun c hc => (ht c hc).1
  · intro hn
    rcases mem_gridRule hn with hn | hn
    · exact absurd hn (by decide)
    · exact absurd hn (by decide)
  · obtain ⟨i, -, rfl⟩ := List.mem_map.1 hline
    apply newline_not_mem_gridRow
    intro c hc
    rcases c.textAt_cases i with ⟨v, hv, h⟩ | h
    · exact h ▸ (ht c hc).2 v hv
    · exact h ▸ List.not_mem_nil

/-- **The lines of a grid can be told apart.** -/
theorem gridLines_eq_of_grid_eq (ht : t.IsOneLined) (hu : u.IsOneLined) (h : t.grid = u.grid) :
    t.gridLines = u.gridLines := by
  have hsplit {t : Table} (ht : t.IsOneLined) :
      t.grid.toList.splitOn '\n' = t.gridLines ++ [[]] := by
    rw [grid, String.toList_ofList, Text.splitOn_flatMap_newline ht.newline_not_mem]
  have hlines := hsplit ht
  rw [h, hsplit hu] at hlines
  exact List.append_cancel_right hlines.symm

/-- **One grid, one set of texts.** Tables that show the same lines have the same widths, so their
texts stand in the same fields. -/
theorem texts_eq_of_gridLines_eq (hcols : t.isEmpty = false) (hcols' : u.isEmpty = false)
    (h : t.gridLines = u.gridLines) :
    t.columnCount = u.columnCount ∧ t.height = u.height ∧
      t.headings.map Text.trimEnd = u.headings.map Text.trimEnd ∧
      ∀ i, (t.textsAt i).map Text.trimEnd = (u.textsAt i).map Text.trimEnd := by
  rw [gridLines_eq, gridLines_eq, List.cons.injEq, List.cons.injEq] at h
  obtain ⟨hheader, hrule, hbody⟩ := h
  have hwidths : t.gridWidths = u.gridWidths := by
    rw [← ruleWidths_gridRule (gridWidths_ne_nil hcols), hrule,
      ruleWidths_gridRule (gridWidths_ne_nil hcols')]
  have hcount : t.columnCount = u.columnCount := by
    rw [← length_gridWidths, hwidths, length_gridWidths]
  have hheight : t.height = u.height := by
    simpa using congrArg List.length hbody
  have hrow {text : Column → List Char} (hline : t.gridRow text = u.gridRow text)
      (hwidth : ∀ c : Column, (text c).length ≤ c.gridWidth) :
      (t.columns.toList.map text).map Text.trimEnd =
        (u.columns.toList.map text).map Text.trimEnd := by
    have ht := showsTexts_gridRow hcols fun c _ => hwidth c
    have hu := showsTexts_gridRow hcols' fun c _ => hwidth c
    rw [← hwidths, ← hline] at hu
    exact ht.map_trimEnd_eq hu
  refine ⟨hcount, hheight, hrow hheader Column.length_name_le, fun i => ?_⟩
  rcases Nat.lt_or_ge i t.height with hi | hi
  · rw [← hheight] at hbody
    exact hrow (List.map_inj_left.1 hbody i (List.mem_range.2 hi)) (Column.length_textAt_le · i)
  · rw [textsAt_of_height_le hi, textsAt_of_height_le (hheight ▸ hi), hcount]

/-- **A grid is aligned and can be read back.** It has a line of names, a rule, and a line for each
height of the longest column. The rule is made of dashes and crosses, and the crosses tell how many
columns there are and how wide each is. The other lines show the names and the texts of the cells in
fields of these widths. So a table with the same grid has as many columns and lines, and the same
names and texts up to blanks at their ends. -/
theorem grid_readable (hcols : t.isEmpty = false) (ht : t.IsOneLined) :
    ∃ (header rule : List Char) (body : List (List Char)),
      t.grid.toList = (header :: rule :: body).flatMap (· ++ ['\n']) ∧
      (∀ line ∈ header :: rule :: body, '\n' ∉ line) ∧
      IsGreatest {n | ∃ c ∈ t.columns, c.values.length = n} body.length ∧
      (∀ ch ∈ rule, ch = '-' ∨ ch = '+') ∧
      rule.count '+' + 1 = t.columnCount ∧ ruleWidths rule = t.gridWidths ∧
      ShowsTexts (ruleWidths rule) rule.length header t.headings ∧
      (∀ i line, body[i]? = some line →
        ShowsTexts (ruleWidths rule) rule.length line (t.textsAt i)) ∧
      ∀ u : Table, u.isEmpty = false → u.IsOneLined → u.grid = t.grid →
        u.columnCount = t.columnCount ∧ u.height = t.height ∧
        u.headings.map Text.trimEnd = t.headings.map Text.trimEnd ∧
        ∀ i, (u.textsAt i).map Text.trimEnd = (t.textsAt i).map Text.trimEnd := by
  have hne := gridWidths_ne_nil hcols
  refine ⟨t.gridRow fun c => c.name.toList, gridRule t.gridWidths,
    (List.range t.height).map fun i => t.gridRow (·.textAt i),
    ?_, ?_, ?_, fun _ => mem_gridRule, ?_, ruleWidths_gridRule hne, ?_, ?_, ?_⟩
  · rw [← gridLines_eq, grid, String.toList_ofList]
  · rw [← gridLines_eq]
    exact ht.newline_not_mem
  · rw [List.length_map, List.length_range]
    exact isGreatest_height hcols
  · rw [count_cross_gridRule hne, length_gridWidths]
  · rw [ruleWidths_gridRule hne]
    exact showsTexts_gridRow hcols fun c _ => c.length_name_le
  · intro i line hline
    rw [ruleWidths_gridRule hne]
    obtain ⟨hi, rfl⟩ := List.getElem?_eq_some_iff.1 hline
    rw [List.getElem_map, List.getElem_range]
    exact showsTexts_gridRow hcols fun c _ => c.length_textAt_le i
  · intro u hcols' hu hgrid
    exact texts_eq_of_gridLines_eq hcols' hcols (gridLines_eq_of_grid_eq hu ht hgrid)

/-- Columns of different lengths, one of them without a name and without cells. Some texts hold what
stands between columns, and the last one ends in a tab. -/
def labels : Table := .ofColumns
  [⟨"größe", [.bool true, .str "a | b"]⟩, ⟨"", []⟩, ⟨"-+-?", [.str "x\t"]⟩]

theorem columns_labels :
    labels.columns = #[⟨"größe", [.bool true, .str "a | b"]⟩, ⟨"", []⟩, ⟨"-+-?", [.str "x\t"]⟩] :=
  columns_ofColumns (by decide)

/-- The same labels without the tab. -/
def trimmedLabels : Table := .ofColumns
  [⟨"größe", [.bool true, .str "a | b"]⟩, ⟨"", []⟩, ⟨"-+-?", [.str "x"]⟩]

theorem columns_trimmedLabels :
    trimmedLabels.columns =
      #[⟨"größe", [.bool true, .str "a | b"]⟩, ⟨"", []⟩, ⟨"-+-?", [.str "x"]⟩] :=
  columns_ofColumns (by decide)

/-- The grid of the labels is read back, and the tab is all that it leaves open. -/
theorem grid_readable_labels :
    (labels.isEmpty = false ∧ labels.IsOneLined) ∧
    labels.grid = "größe |  | -+-?\n------+--+-----\ntrue  |  | x\na | b |  |\n" ∧
    (∃ (header rule : List Char) (body : List (List Char)),
      labels.grid.toList = (header :: rule :: body).flatMap (· ++ ['\n']) ∧
      body.length = 2 ∧ ruleWidths rule = [5, 0, 4] ∧
      ∀ line ∈ body[1]?, ShowsTexts [5, 0, 4] rule.length line ["a | b".toList, [], []]) ∧
    trimmedLabels.grid = labels.grid ∧ trimmedLabels.columns ≠ labels.columns ∧
    ∀ i, (trimmedLabels.textsAt i).map Text.trimEnd = (labels.textsAt i).map Text.trimEnd := by
  have hlabels : labels.isEmpty = false ∧ labels.IsOneLined := by
    rw [isEmpty, IsOneLined, columns_labels]
    decide
  have htrimmed : trimmedLabels.isEmpty = false ∧ trimmedLabels.IsOneLined := by
    rw [isEmpty, IsOneLined, columns_trimmedLabels]
    decide
  have hgrid : labels.grid = "größe |  | -+-?\n------+--+-----\ntrue  |  | x\na | b |  |\n" := by
    rw [grid, gridLines, columns_labels]
    decide
  have hsame : trimmedLabels.grid = labels.grid := by
    rw [hgrid, grid, gridLines, columns_trimmedLabels]
    decide
  have hwidths : labels.gridWidths = [5, 0, 4] := by
    rw [gridWidths, columns_labels]
    decide
  obtain ⟨header, rule, body, hlines, -, hheight, -, -, hrule, -, hbody, hunique⟩ :=
    grid_readable hlabels.1 hlabels.2
  rw [hwidths] at hrule
  have hlength : body.length = 2 := by
    rw [hheight.unique (isGreatest_height hlabels.1), height, columns_labels]
    rfl
  have htexts : labels.textsAt 1 = ["a | b".toList, [], []] := by
    rw [textsAt, columns_labels]
    rfl
  refine ⟨hlabels, hgrid, ⟨header, rule, body, hlines, hlength, hrule, ?_⟩, hsame, ?_, ?_⟩
  · intro line hline
    rw [← htexts, ← hrule]
    exact hbody 1 line hline
  · rw [columns_trimmedLabels, columns_labels]
    simp
  · exact (hunique trimmedLabels htrimmed.1 htrimmed.2 hsame).2.2.2

end Table
end TableQuery
