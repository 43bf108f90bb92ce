import AnalysisPlan.Console.Rich
import Mathlib.Algebra.GroupWithZero.Nat
import Mathlib.Data.List.Forall2

/-!
# Aligned tables

A plain table stands in columns, each as wide as the longest text in it (`Plain.Measures`).
Every line of the table is as long as the others, and in each of them every column begins at
the same place: there the line has the text of the column, all of it, and nothing but blanks
behind it (`Plain.Aligned`).

A line with at least one column is its columns one after the other, each with the gap in
front of it (`Plain.tableLine_eq`). So dropping some columns and their gaps leaves a line of
the same kind, and a column is found by the widths of those before it
(`Plain.drop_gapped`).

The lines are those that a reader sees only as long as no text under a header has a line
break (`Plain.split_lines`), and there is a table only if every number under a header can
be printed (`Plain.not_forall_write_table`).
-/

namespace AnalysisPlan
namespace Console
namespace Plain

variable {headers : List (List Char)} {rows : List (List (List Char))} {widths : List Nat}
  {columns : List (List Char)} {i : Nat}

/-- Where a column begins in a line: behind the columns before it, with two blanks in front
of each column. -/
def start (widths : List Nat) (column : Nat) : Nat := (widths.take column).sum + 2 * column + 2

/-- A line of a table: it is as long as the widths and the blanks between them ask for, has
two blanks in front of every column, and in a column the column's text, followed by as many
`fill` as are left of its width. A text that is not there is empty. -/
structure Aligned (widths : List Nat) (fill : Char) (texts : List (List Char))
    (line : List Char) : Prop where
  length_eq : line.length = 2 + widths.sum + 2 * (widths.length - 1)
  blank : ∀ i < widths.length, (line.drop (start widths i - 2)).take 2 = [' ', ' ']
  fits : ∀ i w, widths[i]? = some w → (entry texts i).length ≤ w
  column : ∀ i w, widths[i]? = some w →
    (line.drop (start widths i)).take w =
      entry texts i ++ List.replicate (w - (entry texts i).length) fill

/-- The texts of a column, from the rows that reach it. -/
def columnTexts (rows : List (List (List Char))) (column : Nat) : List (List Char) :=
  rows.filterMap (·[column]?)

/-- There is a width for every header, and it is the length of the longest text in the
header's column, the header itself among them. -/
structure Measures (headers : List (List Char)) (rows : List (List (List Char)))
    (widths : List Nat) : Prop where
  length_eq : widths.length = headers.length
  attained : ∀ i w, widths[i]? = some w →
    ∃ text ∈ columnTexts (headers :: rows) i, text.length = w
  bound : ∀ i w, widths[i]? = some w →
    ∀ text ∈ columnTexts (headers :: rows) i, text.length ≤ w

/-! ## Widths -/

theorem entry_of_some {row : List (List Char)} {text : List Char} (h : row[i]? = some text) :
    entry row i = text := by
  rw [entry, h]
  rfl

theorem max?_lengths (h : rows ≠ []) :
    (rows.map fun row => (entry row i).length).max? = some (columnWidth rows i) := by
  obtain ⟨row, hrow⟩ := List.exists_mem_of_ne_nil rows h
  obtain ⟨most, hmost⟩ := Option.isSome_iff_exists.1
    (List.isSome_max?_of_mem (List.mem_map_of_mem (f := fun row => (entry row i).length) hrow))
  rw [columnWidth, List.foldl_max, hmost, Option.getD_some, Nat.zero_max]

theorem length_entry_le {row : List (List Char)} (hrow : row ∈ rows) :
    (entry row i).length ≤ columnWidth rows i :=
  (List.max?_eq_some_iff.1 (max?_lengths (List.ne_nil_of_mem hrow))).2 _
    (List.mem_map_of_mem hrow)

theorem length_le_columnWidth {text : List Char} (h : text ∈ columnTexts rows i) :
    text.length ≤ columnWidth rows i := by
  obtain ⟨row, hrow, hsome⟩ := List.mem_filterMap.1 h
  exact entry_of_some hsome ▸ length_entry_le hrow

/-- A column with texts in it is as wide as one of them. -/
theorem exists_length_eq_columnWidth {text : List Char} (h : text ∈ columnTexts rows i) :
    ∃ longest ∈ columnTexts rows i, longest.length = columnWidth rows i := by
  obtain ⟨row, hrow, -⟩ := List.mem_filterMap.1 h
  have hmax := (List.max?_eq_some_iff.1 (max?_lengths (i := i) (List.ne_nil_of_mem hrow))).1
  obtain ⟨widest, hwidest, hlength⟩ := List.mem_map.1 hmax
  cases hsome : widest[i]? with
  | some longest =>
      refine ⟨longest, List.mem_filterMap.2 ⟨widest, hwidest, hsome⟩, ?_⟩
      rw [← hlength, entry_of_some hsome]
  | none =>
      -- the widest row does not reach the column, so no row has more than an empty text there
      rw [entry, hsome, Option.getD_none, List.length_nil] at hlength
      exact ⟨text, h, Nat.le_antisymm (length_le_columnWidth h) (hlength ▸ Nat.zero_le _)⟩

theorem getElem?_columnWidths {w : Nat} (h : (columnWidths headers rows)[i]? = some w) :
    i < headers.length ∧ w = columnWidth (headers :: rows) i := by
  rw [columnWidths, List.getElem?_map, Option.map_eq_some_iff] at h
  obtain ⟨j, hj, rfl⟩ := h
  obtain ⟨hlt, rfl⟩ := List.getElem?_eq_some_iff.1 hj
  rw [List.length_range] at hlt
  rw [List.getElem_range]
  exact ⟨hlt, rfl⟩

theorem measures_columnWidths (headers : List (List Char)) (rows : List (List (List Char))) :
    Measures headers rows (columnWidths headers rows) where
  length_eq := length_columnWidths headers rows
  attained i w h := by
    obtain ⟨hlt, rfl⟩ := getElem?_columnWidths h
    have hheader : headers[i] ∈ columnTexts (headers :: rows) i :=
      List.mem_filterMap.2 ⟨headers, List.mem_cons_self, List.getElem?_eq_getElem hlt⟩
    exact exists_length_eq_columnWidth hheader
  bound i w h := by
    obtain ⟨-, rfl⟩ := getElem?_columnWidths h
    exact fun _ => length_le_columnWidth

/-! ## Lines -/

theorem tableLine_eq (h : columns ≠ []) : tableLine columns = columns.flatMap (gap ++ ·) := by
  unfold tableLine
  induction columns with
  | nil => exact absurd rfl h
  | cons first others ih =>
      cases others with
      | nil => simp
      | cons second others =>
          have hothers := ih (List.cons_ne_nil _ _)
          rw [List.flatMap_cons, ← hothers, List.intercalate_cons_cons]
          simp only [List.append_assoc]

theorem length_gapped (columns : List (List Char)) :
    (columns.flatMap (gap ++ ·)).length = (columns.map List.length).sum + 2 * columns.length := by
  induction columns with
  | nil => rfl
  | cons first others ih =>
      rw [List.flatMap_cons, List.length_append, List.length_append, ih, List.map_cons,
        List.sum_cons, List.length_cons, show gap.length = 2 from rfl]
      omega

/-- Behind some columns and their gaps, the others follow with theirs. -/
theorem drop_gapped (columns : List (List Char)) (i : Nat) :
    (columns.flatMap (gap ++ ·)).drop ((columns.take i).flatMap (gap ++ ·)).length =
      (columns.drop i).flatMap (gap ++ ·) := by
  have hsplit : columns.flatMap (gap ++ ·) =
      (columns.take i).flatMap (gap ++ ·) ++ (columns.drop i).flatMap (gap ++ ·) := by
    rw [← List.flatMap_append, List.take_append_drop]
  rw [hsplit]
  exact List.drop_left

theorem drop_tableLine {column : List Char} (h : columns[i]? = some column) :
    (tableLine columns).drop (start (columns.map List.length) i - 2) =
      gap ++ (column ++ (columns.drop (i + 1)).flatMap (gap ++ ·)) := by
  obtain ⟨hlt, rfl⟩ := List.getElem?_eq_some_iff.1 h
  have hstart : start (columns.map List.length) i - 2 =
      ((columns.take i).flatMap (gap ++ ·)).length := by
    rw [start, Nat.add_sub_cancel, length_gapped, List.map_take,
      List.length_take_of_le (Nat.le_of_lt hlt)]
  rw [tableLine_eq (List.ne_nil_of_length_pos (Nat.zero_lt_of_lt hlt)), hstart, drop_gapped,
    List.drop_eq_getElem_cons hlt, List.flatMap_cons, List.append_assoc]

/-- Texts that fit into the widths of their columns stand aligned on the line that is made of
them. -/
theorem aligned_tableLine {fill : Char} {texts : List (List Char)} (hne : widths ≠ [])
    (hfits : ∀ i w, widths[i]? = some w → (entry texts i).length ≤ w) :
    Aligned widths fill texts
      (tableLine (widths.mapIdx fun i w => Text.padEnd w fill (entry texts i))) := by
  let columns := widths.mapIdx fun i w => Text.padEnd w fill (entry texts i)
  have hcolumn : ∀ i w, widths[i]? = some w →
      columns[i]? = some (Text.padEnd w fill (entry texts i)) := by
    intro i w hw
    rw [List.getElem?_mapIdx, hw]
    rfl
  have hlength : ∀ i w, widths[i]? = some w → (Text.padEnd w fill (entry texts i)).length = w := by
    intro i w hw
    rw [Text.length_padEnd, Nat.max_eq_left (hfits i w hw)]
  have hwidths : columns.map List.length = widths := by
    refine List.ext_getElem? fun i => ?_
    rw [List.getElem?_map]
    cases hw : widths[i]? with
    | none => rw [List.getElem?_mapIdx, hw]; rfl
    | some w => rw [hcolumn i w hw, Option.map_some, hlength i w hw]
  have hcount : columns.length = widths.length := List.length_mapIdx
  have hpos : 0 < widths.length := List.length_pos_iff.2 hne
  refine ⟨?_, fun i hi => ?_, hfits, fun i w hw => ?_⟩
  · have hcolumns : columns ≠ [] := List.ne_nil_of_length_pos (hcount ▸ hpos)
    rw [tableLine_eq hcolumns, length_gapped, hwidths, hcount]
    omega
  · have hdrop := drop_tableLine (hcolumn i _ (List.getElem?_eq_getElem hi))
    rw [hwidths] at hdrop
    rw [hdrop]
    rfl
  · have hdrop := drop_tableLine (hcolumn i w hw)
    rw [hwidths] at hdrop
    have htwo : start widths i = start widths i - 2 + 2 := rfl
    have hgap (rest : List Char) : (gap ++ rest).drop 2 = rest := rfl
    rw [htwo, ← List.drop_drop, hdrop, hgap,
      List.take_append_of_le_length (Nat.le_of_eq (hlength i w hw).symm),
      List.take_of_length_le (Nat.le_of_eq (hlength i w hw))]
    rfl

theorem rulerLine_eq (widths : List Nat) :
    rulerLine widths = tableLine (widths.mapIdx fun i w => Text.padEnd w '-' (entry [] i)) := by
  have hcolumns : (widths.mapIdx fun i w => Text.padEnd w '-' (entry [] i)) =
      widths.map fun w => List.replicate w '-' := by
    refine List.mapIdx_eq_iff.2 fun i => ?_
    rw [List.getElem?_map]
    rfl
  rw [hcolumns, rulerLine]

/-! ## What has no header -/

theorem entry_take {row : List (List Char)} {n : Nat} (h : i < n) :
    entry (row.take n) i = entry row i := by
  rw [entry, entry, List.getElem?_take_of_lt h]

theorem columnWidths_take (headers : List (List Char)) (rows : List (List (List Char))) :
    columnWidths headers (rows.map (·.take headers.length)) = columnWidths headers rows := by
  refine List.map_congr_left fun i hi => ?_
  have hentries : (rows.map (·.take headers.length)).map (fun row => (entry row i).length) =
      rows.map fun row => (entry row i).length := by
    rw [List.map_map]
    refine List.map_congr_left fun row _ => ?_
    rw [Function.comp_apply, entry_take (List.mem_range.1 hi)]
  rw [columnWidth, columnWidth, List.map_cons, List.map_cons, hentries]

theorem rowLine_take (row : List (List Char)) :
    rowLine widths (row.take widths.length) = rowLine widths row := by
  rw [rowLine, rowLine, List.mapIdx_eq_mapIdx_iff.2 fun i hi => ?_]
  rw [entry_take hi]

theorem tableLines_take (headers : List (List Char)) (rows : List (List (List Char))) :
    tableLines headers (rows.map (·.take headers.length)) = tableLines headers rows := by
  rw [tableLines, tableLines, columnWidths_take, List.map_map]
  have hlines : rows.map (rowLine (columnWidths headers rows) ∘ (·.take headers.length)) =
      rows.map (rowLine (columnWidths headers rows)) := by
    refine List.map_congr_left fun row _ => ?_
    rw [Function.comp_apply, ← length_columnWidths headers rows, rowLine_take]
  rw [hlines]

/-! ## Line breaks -/

/-- Texts without line breaks, each on a line of its own, are the lines of what is printed. -/
theorem split_lines {texts : List (List Char)} (h : ∀ text ∈ texts, '\n' ∉ text) :
    Text.split '\n' (texts.flatMap line) = texts ++ [[]] := by
  induction texts with
  | nil => rfl
  | cons text texts ih =>
      obtain ⟨htext, htexts⟩ := List.forall_mem_cons.1 h
      have hsplit : (text :: texts).flatMap line = text ++ '\n' :: texts.flatMap line := by
        rw [List.flatMap_cons, line, List.append_assoc]
        rfl
      rw [hsplit, Text.split_append, Text.split_of_not_mem htext, ih htexts]
      rfl

theorem newline_not_mem_tableLine (hne : columns ≠ [])
    (h : ∀ column ∈ columns, '\n' ∉ column) : '\n' ∉ tableLine columns := by
  rw [tableLine_eq hne, List.mem_flatMap]
  rintro ⟨column, hcolumn, hmem⟩
  rcases List.mem_append.1 hmem with hgap | hmem
  · exact absurd hgap (by decide)
  · exact h column hcolumn hmem

theorem newline_not_mem_rowLine {row : List (List Char)} (hne : widths ≠ [])
    (h : ∀ text ∈ row.take widths.length, '\n' ∉ text) : '\n' ∉ rowLine widths row := by
  refine newline_not_mem_tableLine (by simpa using hne) fun column hcolumn hmem => ?_
  obtain ⟨i, hi, rfl⟩ := List.mem_mapIdx.1 hcolumn
  rcases List.mem_append.1 hmem with hentry | hblank
  · rw [entry] at hentry
    cases htext : row[i]? with
    | none =>
        rw [htext] at hentry
        cases hentry
    | some text =>
        rw [htext] at hentry
        refine h text (List.mem_of_getElem? (i := i) ?_) hentry
        rw [List.getElem?_take_of_lt hi, htext]
  · exact absurd (List.eq_of_mem_replicate hblank) (by decide)

theorem newline_not_mem_rulerLine (hne : widths ≠ []) : '\n' ∉ rulerLine widths := by
  refine newline_not_mem_tableLine (by simpa using hne) fun column hcolumn hmem => ?_
  obtain ⟨w, -, rfl⟩ := List.mem_map.1 hcolumn
  exact absurd (List.eq_of_mem_replicate hmem) (by decide)

/-- A table that can be shown: no text under a header has a line break, nor has a header, and
every number under a header can be printed. -/
structure Showable (headers : List String) (rows : List (List Cell)) : Prop where
  titled : ∀ header ∈ headers, '\n' ∉ header.toList
  unbroken : ∀ row ∈ rows, ∀ cell ∈ row.take headers.length, '\n' ∉ cell.chars
  printed : ∀ row ∈ rows, ∀ cell ∈ row.take headers.length, cell.isOverlong = false

theorem write_of_printed {headers : List String} {rows : List (List Cell)} (screen : Nat)
    (title : String)
    (h : ∀ row ∈ rows, ∀ cell ∈ row.take headers.length, cell.isOverlong = false) :
    Backend.plain.write screen (.table headers rows title) =
      .ok (write (.table headers rows title)) := by
  refine if_pos (List.all_eq_true.2 fun row hrow => List.all_eq_true.2 fun cell hcell => ?_)
  rw [h row hrow cell hcell]
  rfl

theorem lines_table {headers : List String} {rows : List (List Cell)} {title : String}
    (hne : headers ≠ []) :
    lines (.table headers rows title) = titleLines title ++
      tableLines (headers.map (·.toList)) (rows.map fun row => row.map Cell.chars) := by
  rw [lines, if_neg (by simp [hne])]

theorem newline_not_mem_of_showable {headers : List String} {rows : List (List Cell)}
    {text : List Char} (hne : headers ≠ []) (h : Showable headers rows)
    (htext : text ∈ tableLines (headers.map (·.toList))
      (rows.map fun row => row.map Cell.chars)) : '\n' ∉ text := by
  let widths := columnWidths (headers.map (·.toList)) (rows.map fun row => row.map Cell.chars)
  have hlength : widths.length = headers.length := by
    rw [length_columnWidths, List.length_map]
  have hwidths : widths ≠ [] := List.ne_nil_of_length_pos (hlength ▸ List.length_pos_iff.2 hne)
  rcases List.mem_cons.1 htext with rfl | htext
  · refine newline_not_mem_rowLine hwidths fun text htext => ?_
    obtain ⟨header, hheader, rfl⟩ := List.mem_map.1 (List.mem_of_mem_take htext)
    exact h.titled header hheader
  rcases List.mem_cons.1 htext with rfl | htext
  · exact newline_not_mem_rulerLine hwidths
  · rw [List.map_map] at htext
    obtain ⟨row, hrow, rfl⟩ := List.mem_map.1 htext
    refine newline_not_mem_rowLine hwidths fun text htext => ?_
    rw [← List.map_take, hlength] at htext
    obtain ⟨cell, hcell, rfl⟩ := List.mem_map.1 htext
    exact h.unbroken row hrow cell hcell

/-- Entries without a header are not printed. -/
theorem write_take {headers : List String} {rows : List (List Cell)} (screen : Nat)
    (title : String) (hne : headers ≠ [])
    (h : ∀ row ∈ rows, ∀ cell ∈ row.take headers.length, cell.isOverlong = false) :
    Backend.plain.write screen (.table headers rows title) =
      Backend.plain.write screen (.table headers (rows.map (·.take headers.length)) title) := by
  have htake : (rows.map (·.take headers.length)).map (fun row => row.map Cell.chars) =
      (rows.map fun row => row.map Cell.chars).map
        (·.take (headers.map (·.toList)).length) := by
    simp [List.map_take, Function.comp_def]
  have hprinted : ∀ row ∈ rows.map (·.take headers.length),
      ∀ cell ∈ row.take headers.length, cell.isOverlong = false := by
    intro row hrow cell hcell
    obtain ⟨row, hmem, rfl⟩ := List.mem_map.1 hrow
    exact h row hmem cell (List.mem_of_mem_take hcell)
  rw [write_of_printed screen title h, write_of_printed screen title hprinted, write, write,
    lines_table hne, lines_table hne, htake, tableLines_take]

end Plain
end Console
end AnalysisPlan
