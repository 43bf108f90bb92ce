import AnalysisPlan.Console.Grid
import AnalysisPlan.Proofs.Wrapping

/-!
# Grids that fit

A grid fits on a screen if there is room for the widest line of every column, the blanks on
either side of it and the blanks between the columns. Then no column is narrowed, no entry
is broken, and no line of the grid is cut: every line of every text in it stands on some
line of the grid (`Grid.exists_mem_lines`). Lines of a title are broken at the width of the
grid, which loses nothing but blanks (`Grid.squeeze_titleLines`).
-/

namespace AnalysisPlan
namespace Console

open Text (squeeze Firm trimRight)
open Wrap (Even widest)

namespace Column

variable {c : Column} {text : Marked}

def widest (c : Column) : Nat := (c.texts.map fun text => Wrap.widest text.chars).foldl max 0

/-- The cells that a column takes where there is enough room. -/
def natural (c : Column) : Nat := c.widest + 2

theorem le_foldl_max (sizes : List Nat) (n : Nat) :
    n ≤ sizes.foldl max n ∧ ∀ size ∈ sizes, size ≤ sizes.foldl max n := by
  induction sizes generalizing n with
  | nil => exact ⟨le_rfl, nofun⟩
  | cons size sizes ih =>
      obtain ⟨hmax, hsizes⟩ := ih (max n size)
      refine ⟨Nat.le_trans (Nat.le_max_left _ _) hmax, List.forall_mem_cons.2 ⟨?_, hsizes⟩⟩
      exact Nat.le_trans (Nat.le_max_right _ _) hmax

theorem widest_le (text : Marked) (h : text ∈ c.texts) : Wrap.widest text.chars ≤ c.widest :=
  (le_foldl_max _ 0).2 _ (List.mem_map_of_mem h)

theorem foldl_max_add (sizes : List Nat) (n k : Nat) :
    (sizes.map (· + k)).foldl max (n + k) = sizes.foldl max n + k := by
  induction sizes generalizing n with
  | nil => rfl
  | cons size sizes ih =>
      rw [List.map_cons, List.foldl_cons, List.foldl_cons, Nat.add_max_add_right, ih]

/-- A column with a text in it is as wide as it would be, if there is room. -/
theorem width_eq_natural (h : c.texts ≠ []) {room : Nat} (hroom : c.natural ≤ room) :
    c.width room = c.natural := by
  obtain ⟨first, others, htexts⟩ := List.exists_cons_of_ne_nil h
  have hwidest : (c.texts.map fun text => Wrap.widest text.chars + 2).foldl max 0 = c.natural := by
    have hadd := foldl_max_add (others.map fun text => Wrap.widest text.chars)
      (Wrap.widest first.chars) 2
    rw [natural, widest, htexts]
    simpa [List.map_map, Function.comp_def] using hadd
  have hempty : c.texts.isEmpty = false := by rw [htexts]; rfl
  rw [Column.width]
  simp only [hempty, hwidest, Bool.false_eq_true, if_false]
  rw [Nat.min_eq_right hroom]
  exact Nat.max_eq_right (Nat.le_trans (by decide) (Nat.le_add_left 2 c.widest))

end Column

namespace Grid

variable {screen : Nat} {columns : List Column} {c : Column} {text : Marked} {line : List Char}
  {a : Alignment}

/-- Whether there is room on a screen for the columns of a grid as wide as they would be. -/
def Fits (screen : Nat) (columns : List Column) : Prop :=
  total (columns.map Column.natural) + (columns.length - 1) ≤ screen

instance (screen : Nat) (columns : List Column) : Decidable (Fits screen columns) :=
  inferInstanceAs (Decidable (_ ≤ _))

/-- Whether there are columns, and something to see in each of them. -/
def Solid (columns : List Column) : Prop := columns ≠ [] ∧ ∀ c ∈ columns, 0 < c.widest

theorem Solid.texts_ne_nil (h : Solid columns) (hc : c ∈ columns) : c.texts ≠ [] := by
  intro hnone
  have hpos := h.2 c hc
  rw [Column.widest, hnone] at hpos
  exact absurd hpos (Nat.lt_irrefl 0)

theorem mul_length_le_total {sizes : List Nat} {least : Nat} (h : ∀ size ∈ sizes, least ≤ size) :
    least * sizes.length ≤ total sizes := by
  induction sizes with
  | nil => exact Nat.le_refl 0
  | cons first others ih =>
      obtain ⟨hfirst, hothers⟩ := List.forall_mem_cons.1 h
      rw [List.length_cons, Nat.mul_succ, Nat.add_comm]
      exact Nat.add_le_add hfirst (ih hothers)

/-- One of the widths, with what the others take at least. -/
theorem add_le_total {sizes : List Nat} {size least : Nat} (hsize : size ∈ sizes)
    (h : ∀ other ∈ sizes, least ≤ other) : size + least * (sizes.length - 1) ≤ total sizes := by
  induction sizes with
  | nil => cases hsize
  | cons first others ih =>
      obtain ⟨hfirst, hothers⟩ := List.forall_mem_cons.1 h
      rw [List.length_cons, Nat.add_sub_cancel]
      cases hsize with
      | head => exact Nat.add_le_add_left (mul_length_le_total hothers) _
      | tail _ hsize =>
          have hrest := ih hsize hothers
          have hlength : others.length = others.length - 1 + 1 :=
            (Nat.sub_add_cancel (List.length_pos_of_mem hsize)).symm
          rw [hlength, Nat.mul_succ, ← Nat.add_assoc, Nat.add_comm]
          exact Nat.add_le_add hfirst hrest

theorem le_total {sizes : List Nat} {size : Nat} (h : size ∈ sizes) : size ≤ total sizes := by
  simpa using add_le_total h fun other _ => Nat.zero_le other

theorem widths_of_fits (h : Fits screen columns) (hsolid : Solid columns) :
    widths screen columns = columns.map Column.natural := by
  have hroom : total (columns.map Column.natural) ≤ room screen columns :=
    Nat.le_sub_of_add_le h
  have hnatural : columns.map (·.width (room screen columns)) = columns.map Column.natural := by
    refine List.map_congr_left fun c hc => ?_
    exact Column.width_eq_natural (hsolid.texts_ne_nil hc)
      (Nat.le_trans (le_total (List.mem_map_of_mem hc)) hroom)
  rw [widths]
  simp only [hnatural]
  exact narrow_of_total_le hroom _

theorem sized_of_fits (h : Fits screen columns) (hsolid : Solid columns) :
    sized screen columns = columns.map fun c => (c.natural, c) := by
  rw [sized, widths_of_fits h hsolid]
  exact List.map_prod_right_eq_zip.symm

theorem width_of_fits (h : Fits screen columns) (hsolid : Solid columns) :
    Grid.width screen columns = total (columns.map Column.natural) + (columns.length - 1) := by
  rw [Grid.width, widths_of_fits h hsolid]

/-- Something can be seen in every column, with a blank on either side. -/
theorem three_le_natural (hsolid : Solid columns) (hc : c ∈ columns) : 3 ≤ c.natural :=
  Nat.succ_le_succ (Nat.succ_le_succ (hsolid.2 c hc))

theorem three_le_room (h : Fits screen columns) (hsolid : Solid columns) :
    3 ≤ room screen columns := by
  obtain ⟨c, hc⟩ := List.exists_mem_of_ne_nil columns hsolid.1
  have hle := le_total (List.mem_map_of_mem (f := Column.natural) hc)
  exact Nat.le_trans (three_le_natural hsolid hc) (Nat.le_trans hle (Nat.le_sub_of_add_le h))

/-- A column that is not alone leaves room for another one. -/
theorem natural_add_le (h : Fits screen columns) (hsolid : Solid columns) (hc : c ∈ columns)
    (hmore : 2 ≤ columns.length) : c.natural + 4 ≤ screen := by
  have hleast : ∀ size ∈ columns.map Column.natural, 3 ≤ size := by
    intro size hsize
    obtain ⟨c, hc, rfl⟩ := List.mem_map.1 hsize
    exact three_le_natural hsolid hc
  have hle := add_le_total (List.mem_map_of_mem hc) hleast
  rw [List.length_map] at hle
  unfold Fits at h
  omega

theorem two_le_width (h : Fits screen columns) (hsolid : Solid columns) :
    2 ≤ Grid.width screen columns := by
  obtain ⟨c, hc⟩ := List.exists_mem_of_ne_nil columns hsolid.1
  have hthree := three_le_natural hsolid hc
  have hle := le_total (List.mem_map_of_mem (f := Column.natural) hc)
  rw [width_of_fits h hsolid]
  omega

/-! ## Entries -/

@[simp] theorem width_blanks (n : Nat) : Text.width (blanks n) = n := by
  induction n with
  | zero => rfl
  | succ n ih =>
      rw [blanks, List.replicate_succ, Text.width_cons, ← blanks, ih, Nat.add_comm]
      rfl

@[simp] theorem squeeze_blanks (n : Nat) : squeeze (blanks n) = [] :=
  Text.squeeze_eq_nil fun c hc => by rw [List.eq_of_mem_replicate hc]; decide

theorem cutLine_of_width_le {room : Nat} (h : Text.width line ≤ room) :
    Text.width (cutLine a room line) ≤ room ∧ squeeze (cutLine a room line) = squeeze line := by
  cases a with
  | left =>
      rw [cutLine, Wrap.fit, if_pos h]
      exact ⟨h, rfl⟩
  | right =>
      have htrim := Nat.le_trans (Text.width_trimRight_le line) h
      rw [cutLine, Wrap.fit, if_pos htrim]
      exact ⟨htrim, Text.squeeze_trimRight line⟩

/-- A line that fits is lined up with blanks beside it. -/
theorem align_of_width_le {room : Nat} (h : Text.width line ≤ room) :
    Text.width (align a room line) = room ∧ squeeze (align a room line) = squeeze line := by
  obtain ⟨hwidth, hsqueeze⟩ := cutLine_of_width_le (a := a) h
  cases a with
  | left =>
      simp only [align, Text.width_append, width_blanks, Text.squeeze_append, squeeze_blanks,
        List.append_nil]
      exact ⟨by omega, hsqueeze⟩
  | right =>
      simp only [align, Text.width_append, width_blanks, Text.squeeze_append, squeeze_blanks,
        List.nil_append]
      exact ⟨by omega, hsqueeze⟩

theorem width_dropExcess_le (room : Nat) (line : List Char) :
    Text.width (Wrap.dropExcess room line) ≤ Text.width line := by
  obtain ⟨rest, hline⟩ := Wrap.dropExcess_isPrefix room line
  have hwidth := congrArg Text.width hline
  rw [Text.width_append] at hwidth
  omega

/-- A text fits into so many cells, of which there are some. -/
structure Holds (room : Nat) (text : Marked) : Prop where
  pos : 0 < room
  even : Even text.chars
  wide : widest text.chars ≤ room

/-- The lines of an entry that fits are its own, with blanks beside them. -/
theorem entryLines_of_holds {room : Nat} (h : Holds room text) (a : Alignment) :
    entryLines a (room + 2) text = (Text.split '\n' text.chars).map fun line =>
      ' ' :: align a room (Wrap.dropExcess room line) ++ [' '] := by
  rw [entryLines]
  simp only [Nat.add_sub_cancel, Nat.ne_of_gt h.pos, if_false]
  rw [Wrap.breakText_of_even h.even h.wide, List.map_map]
  rfl

theorem align_dropExcess {room : Nat} (h : Holds room text)
    (hline : line ∈ Text.split '\n' text.chars) (a : Alignment) :
    Text.width (align a room (Wrap.dropExcess room line)) = room ∧
      squeeze (align a room (Wrap.dropExcess room line)) = squeeze line := by
  have hwidth : Text.width (Wrap.dropExcess room line) ≤ room :=
    Nat.le_trans (width_dropExcess_le room line)
      (Nat.le_trans (Wrap.width_le_widest h.even hline) h.wide)
  obtain ⟨hwidth, hsqueeze⟩ := align_of_width_le (a := a) hwidth
  exact ⟨hwidth, hsqueeze.trans (Wrap.squeeze_dropExcess room line)⟩

theorem width_of_mem_entryLines {room : Nat} (h : Holds room text) (a : Alignment) :
    ∀ line ∈ entryLines a (room + 2) text, Text.width line = room + 2 := by
  rw [entryLines_of_holds h]
  intro line hline
  obtain ⟨own, hown, rfl⟩ := List.mem_map.1 hline
  rw [List.cons_append, Text.width_cons, Text.width_append, (align_dropExcess h hown a).1,
    Nat.add_comm]
  rfl

theorem exists_mem_entryLines {room : Nat} (h : Holds room text) (a : Alignment)
    (hline : line ∈ Text.split '\n' text.chars) :
    ∃ shown ∈ entryLines a (room + 2) text, squeeze shown = squeeze line := by
  rw [entryLines_of_holds h]
  refine ⟨_, List.mem_map_of_mem hline, ?_⟩
  rw [List.cons_append, Text.squeeze_cons_of_blank (by decide), Text.squeeze_append,
    (align_dropExcess h hline a).2, Text.squeeze_cons_of_blank (by decide), Text.squeeze_nil,
    List.append_nil]

/-! ## Rows -/

theorem width_intercalate (parts : List (List Char)) :
    Text.width ([' '].intercalate parts) =
      total (parts.map Text.width) + (parts.length - 1) := by
  induction parts with
  | nil => rfl
  | cons first others ih =>
      cases others with
      | nil => simp [total]
      | cons second others =>
          rw [List.intercalate_cons_cons, Text.width_append, Text.width_append, ih]
          simp only [List.map_cons, List.length_cons, total, List.foldr_cons]
          have hblank : Text.width [' '] = 1 := rfl
          omega

theorem infix_intercalate {parts : List (List Char)} {part sep : List Char}
    (h : part ∈ parts) : part <:+: sep.intercalate parts := by
  induction parts with
  | nil => cases h
  | cons first others ih =>
      cases others with
      | nil =>
          have hown : sep.intercalate [first] = part := by
            rw [List.intercalate_singleton, List.mem_singleton.1 h]
          exact hown ▸ List.infix_rfl
      | cons second others =>
          rw [List.intercalate_cons_cons]
          cases h with
          | head =>
              rw [List.append_assoc]
              exact (List.prefix_append _ _).isInfix
          | tail _ h => exact (ih h).trans (List.suffix_append _ _).isInfix

theorem width_fillUp {atTop : Bool} {height size : Nat} {lines : List (List Char)}
    (h : ∀ line ∈ lines, Text.width line = size) :
    ∀ line ∈ fillUp atTop height size lines, Text.width line = size := by
  have hfilling : ∀ line ∈ List.replicate (height - lines.length) (blanks size),
      Text.width line = size := by
    intro line hline
    rw [List.eq_of_mem_replicate hline, width_blanks]
  unfold fillUp
  split
  · exact List.forall_mem_append.2 ⟨hfilling, h⟩
  · exact List.forall_mem_append.2 ⟨h, hfilling⟩

theorem length_fillUp {atTop : Bool} {height size : Nat} {lines : List (List Char)}
    (h : lines.length ≤ height) : (fillUp atTop height size lines).length = height := by
  unfold fillUp
  split <;> simp [h]

theorem mem_fillUp (atTop : Bool) (height size : Nat) {lines : List (List Char)}
    (h : line ∈ lines) : line ∈ fillUp atTop height size lines := by
  unfold fillUp
  split
  · exact List.mem_append_right _ h
  · exact List.mem_append_left _ h

/-- Whether every entry of a row has lines that are as wide as its column. -/
def Straight (row : List (Nat × List (List Char))) : Prop :=
  ∀ e ∈ row, ∀ line ∈ e.2, Text.width line = e.1

/-- A line of an entry is a part of some line of the row, and all columns of the row stand
on that line. -/
theorem exists_mem_rowLines {row : List (Nat × List (List Char))} (hrow : Straight row)
    {e : Nat × List (List Char)} (he : e ∈ row) (hline : line ∈ e.2) (atTop : Bool) :
    ∃ shown ∈ rowLines atTop row, line <:+: shown ∧
      Text.width shown = total (row.map (·.1)) + (row.length - 1) := by
  have hheight : ∀ e ∈ row, e.2.length ≤ (row.map fun e => e.2.length).foldl max 1 :=
    fun e he => (Column.le_foldl_max _ 1).2 _ (List.mem_map_of_mem he)
  rw [rowLines]
  generalize (row.map fun e => e.2.length).foldl max 1 = height at hheight ⊢
  obtain ⟨i, hi, hget⟩ := List.getElem_of_mem (mem_fillUp atTop height e.1 hline)
  have hbound : i < height := by
    rwa [length_fillUp (hheight e he)] at hi
  refine ⟨_, List.mem_map_of_mem (List.mem_range.2 hbound), infix_intercalate ?_, ?_⟩
  · rw [List.map_map]
    refine List.mem_map.2 ⟨e, he, ?_⟩
    rw [Function.comp_apply, List.getElem?_eq_getElem hi, hget]
    rfl
  · rw [width_intercalate, List.map_map, List.map_map, List.length_map, List.length_map]
    refine congrArg (fun sizes => total sizes + (row.length - 1)) (List.map_congr_left ?_)
    intro e he
    have hi : i < (fillUp atTop height e.1 e.2).length := by
      rwa [length_fillUp (hheight e he)]
    rw [Function.comp_apply, Function.comp_apply, List.getElem?_eq_getElem hi]
    exact width_fillUp (hrow e he) _ (List.getElem_mem hi)

theorem holds_nil {room : Nat} (h : 0 < room) : Holds room ⟨[], []⟩ := ⟨h, nofun, Nat.zero_le room⟩

theorem Solid.holds (h : Solid columns) (hc : c ∈ columns) (htext : text ∈ c.texts)
    (heven : Even text.chars) : Holds c.widest text :=
  ⟨h.2 c hc, heven, Column.widest_le text htext⟩

/-- In a grid that fits, the lines of the entries in a row stand on its lines, which are no
wider than the screen. -/
theorem exists_mem_row (h : Fits screen columns) (hsolid : Solid columns) {pick : Column → Marked}
    (hpick : ∀ c ∈ columns, Holds c.widest (pick c)) (hc : c ∈ columns)
    (hline : line ∈ Text.split '\n' (pick c).chars) (atTop : Bool) :
    ∃ shown ∈ rowLines atTop
        ((sized screen columns).map fun (w, c) => (w, entryLines c.alignment w (pick c))),
      squeeze line <:+: squeeze shown ∧ Text.width shown ≤ screen := by
  have hrow : (sized screen columns).map (fun (w, c) => (w, entryLines c.alignment w (pick c))) =
      columns.map fun c => (c.natural, entryLines c.alignment c.natural (pick c)) := by
    rw [sized_of_fits h hsolid, List.map_map]
    rfl
  have hstraight : Straight
      (columns.map fun c => (c.natural, entryLines c.alignment c.natural (pick c))) := by
    intro e he
    obtain ⟨c, hc, rfl⟩ := List.mem_map.1 he
    exact width_of_mem_entryLines (hpick c hc) c.alignment
  obtain ⟨own, hown, hsqueeze⟩ := exists_mem_entryLines (hpick c hc) c.alignment hline
  obtain ⟨shown, hshown, hwithin, hwidth⟩ :=
    exists_mem_rowLines hstraight (List.mem_map_of_mem hc) hown atTop
  rw [hrow]
  refine ⟨shown, hshown, hsqueeze ▸ Text.squeeze_isInfix hwithin, ?_⟩
  rw [hwidth, List.map_map, List.length_map]
  exact h

/-- Every line of every text in a grid that fits is shown. -/
theorem exists_mem_lines (h : Fits screen columns) (hsolid : Solid columns)
    (heven : ∀ c ∈ columns, ∀ text ∈ c.texts, Even text.chars) (hc : c ∈ columns)
    (htext : text ∈ c.texts) (hline : line ∈ Text.split '\n' text.chars) :
    ∃ shown ∈ lines screen columns,
      squeeze line <:+: squeeze shown ∧ Text.width shown ≤ screen := by
  rcases List.mem_append.1 htext with hheader | hentry
  · have hpick : ∀ c ∈ columns, Holds c.widest (c.header.getD ⟨[], []⟩) := by
      intro c hc
      cases hhead : c.header with
      | none => exact holds_nil (hsolid.2 c hc)
      | some text =>
          have htext : text ∈ c.texts := by simp [Column.texts, hhead]
          exact hsolid.holds hc htext (heven c hc text htext)
    have hhead : c.header = some text := Option.mem_toList.1 hheader
    have hown : line ∈ Text.split '\n' (c.header.getD ⟨[], []⟩).chars := by rwa [hhead]
    obtain ⟨shown, hshown, hprinted⟩ := exists_mem_row h hsolid hpick hc hown true
    have hheaders : columns.all (·.header.isNone) = false := by
      rw [List.all_eq_false]
      exact ⟨c, hc, by simp [hhead]⟩
    refine ⟨shown, List.mem_append_left _ ?_, hprinted⟩
    rw [headLines, hheaders, if_neg Bool.false_ne_true]
    exact List.mem_append_left _ hshown
  · obtain ⟨i, hi, hget⟩ := List.getElem_of_mem hentry
    have hpick : ∀ c ∈ columns, Holds c.widest (c.entry i) := by
      intro c hc
      rw [Column.entry]
      cases hnext : c.entries[i]? with
      | none => exact holds_nil (hsolid.2 c hc)
      | some text =>
          have htext : text ∈ c.texts := List.mem_append_right _ (List.mem_of_getElem? hnext)
          exact hsolid.holds hc htext (heven c hc text htext)
    have hown : line ∈ Text.split '\n' (c.entry i).chars := by
      rwa [Column.entry, List.getElem?_eq_getElem hi, hget]
    obtain ⟨shown, hshown, hprinted⟩ := exists_mem_row h hsolid hpick hc hown false
    have hheight : i < height columns := Nat.lt_of_lt_of_le hi
      ((Column.le_foldl_max _ 0).2 _ (List.mem_map_of_mem hc))
    refine ⟨shown, List.mem_append_right _ ?_, hprinted⟩
    exact List.mem_flatMap.2 ⟨i, List.mem_range.2 hheight, hshown⟩

/-! ## Titles -/

theorem width_centre (room : Nat) (line : List Char) : Text.width (centre room line) = room := by
  have hfit := Wrap.width_fit_le room (trimRight line)
  simp only [centre, cutTitle, Text.width_append, width_blanks]
  omega

theorem squeeze_centre {room : Nat} (h : Text.width (trimRight line) ≤ room) :
    squeeze (centre room line) = squeeze line := by
  simp only [centre, cutTitle, Text.squeeze_append, squeeze_blanks, List.nil_append,
    List.append_nil]
  rw [Wrap.fit, if_pos h, Text.squeeze_trimRight]

theorem width_of_mem_titleLines (room : Nat) (title : Marked) :
    ∀ line ∈ titleLines room title, Text.width line = room := by
  intro line hline
  obtain ⟨own, -, rfl⟩ := List.mem_map.1 hline
  exact width_centre room own

/-- A title is broken, but nothing but blanks is lost. -/
theorem squeeze_titleLines {room : Nat} {title : Marked} (hroom : 2 ≤ room)
    (hfirm : Firm title.chars) : squeeze (titleLines room title).flatten = squeeze title.chars :=
  Wrap.squeeze_breakText hroom hfirm fun _ _ hwidth => squeeze_centre hwidth

end Grid
end Console
end AnalysisPlan
