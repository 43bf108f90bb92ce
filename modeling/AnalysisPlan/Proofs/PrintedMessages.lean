import AnalysisPlan.Console.Rich
import AnalysisPlan.Proofs.FittingGrid
import AnalysisPlan.Proofs.LiteralMarkup
import AnalysisPlan.Proofs.WrittenLines
import Mathlib.Data.List.Infix

/-!
# Messages in print

Both consoles print the texts of a message. The plain console shows them as they are. The
rich one reads markup in them, and breaks what is too long for the screen: it prints what
is literal where it stands, as long as there is room for the grids and branches that are
not to be broken (`Rich.exists_write`).
-/

namespace AnalysisPlan

open Text (squeeze Firm)

namespace Text

/-- A text is printed if every line of it stands in the output, blanks apart. -/
def Prints (out text : List Char) : Prop := ∀ line ∈ split '\n' text, squeeze line <:+: squeeze out

instance (out text : List Char) : Decidable (Prints out text) :=
  List.decidableBAll _ (split '\n' text)

variable {out part text : List Char}

theorem Prints.of_isInfix (h : squeeze text <:+: squeeze out) : Prints out text := fun _ hline =>
  (squeeze_isInfix (Console.Wrap.infix_of_mem_split hline)).trans h

theorem Prints.mono (h : Prints part text) (hpart : squeeze part <:+: squeeze out) :
    Prints out text := fun line hline => (h line hline).trans hpart

@[simp] theorem prints_nil (out : List Char) : Prints out [] := .of_isInfix List.nil_infix

end Text

namespace Console

/-! ## The texts of a message -/

/-- Where a text stands in a message: alone, inside a frame of tags, in a grid or on a
branch, or in a document. -/
inductive Place where
  | alone
  | framed
  | entry
  | document
deriving Repr, DecidableEq

/-- Whether the rich console prints a text in the given place as it is. What is broken is to
be firm, and what is not is to have no line breaks but those that it is broken at. -/
def Place.Allows : Place → List Char → Prop
  | alone, s => Markup.Literal s ∧ Firm s
  | framed, s => Markup.Literal s ∧ Firm s ∧ s.getLast? ≠ some '\\'
  | entry, s => Markup.Literal s ∧ Wrap.Even s
  | document, s => ∀ c ∈ s, Wrap.isControl c = false

instance : (p : Place) → (s : List Char) → Decidable (p.Allows s)
  | .alone, s => inferInstanceAs (Decidable (Markup.Literal s ∧ Firm s))
  | .framed, s => inferInstanceAs (Decidable (Markup.Literal s ∧ Firm s ∧ s.getLast? ≠ some '\\'))
  | .entry, s => inferInstanceAs (Decidable (Markup.Literal s ∧ Wrap.Even s))
  | .document, s => List.decidableBAll _ s

namespace Message

/-- The texts of a message with the places where they stand. -/
def placed : Message → List (Place × List Char)
  | info text => [(.alone, text.toList)]
  | success text => [(.alone, text.toList)]
  | warning text => [(.alone, text.toList)]
  | error text => [(.alone, text.toList)]
  | raw text => [(.document, text.toList)]
  | step _ _ description => [(.alone, description.toList)]
  | stepDetail text => [(.framed, text.toList)]
  | umbrella name dependencies =>
    (.framed, name.toList) :: dependencies.map fun d => (.entry, d.toList)
  | table headers rows title =>
    (.alone, title.toList) ::
      (headers.map (·.toList) ++ rows.flatten.map Cell.chars).map fun s => (.entry, s)
  | pairs entries title =>
    (.alone, title.toList) ::
      (entries.map (·.1.toList) ++ entries.map (·.2.toList)).map fun s => (.entry, s)

def texts (m : Message) : List (List Char) := m.placed.map (·.2)

/-- Whether reading markup leaves all texts of a message as they are. -/
def Literal (m : Message) : Prop := ∀ e ∈ m.placed, e.1.Allows e.2

instance (m : Message) : Decidable m.Literal := List.decidableBAll _ m.placed

/-- The columns of a message that is a grid. -/
def columns : Message → List Column
  | table headers rows _ =>
    (List.range ((rows.map List.length).foldl max headers.length)).map fun i =>
      { header := some ⟨(headers[i]?.getD "").toList, []⟩
        entries := rows.map fun row => ⟨(row[i]?.map Cell.chars).getD [], []⟩ }
  | pairs entries _ =>
    [{ alignment := .right, entries := entries.map fun e => ⟨e.1.toList, []⟩ },
     { entries := entries.map fun e => ⟨e.2.toList, []⟩ }]
  | _ => []

/-- Whether a message has the shape of what a report says: its grid has something to see in
every column, and texts only, and it counts by numbers that can be printed. -/
def Regular : Message → Prop
  | step current total description => (step current total description).countsOverlong = false
  | table headers rows title =>
    Grid.Solid (table headers rows title).columns ∧
      ∀ row ∈ rows, row.length ≤ headers.length ∧ ∀ cell ∈ row, cell.isNumber = false
  | pairs entries title => Grid.Solid (pairs entries title).columns
  | _ => True

/-- Whether there is room beside the marks of the branches for what stands on them. -/
def HasRoom (columns : Nat) : Message → Prop
  | umbrella _ dependencies => ∀ d ∈ dependencies, Wrap.widest d.toList + 4 < columns
  | _ => True

/-! ### Grids of messages -/

/-- Whether the given texts are those of a grid. Places may stay empty. -/
structure HoldsTexts (grid : List Column) (texts : List (List Char)) : Prop where
  plain : ∀ c ∈ grid, ∀ text ∈ c.texts,
    text.stretches = [] ∧ (text.chars = [] ∨ text.chars ∈ texts)
  held : ∀ s ∈ texts, ∃ c ∈ grid, ⟨s, []⟩ ∈ c.texts

theorem holdsTexts_table (headers : List String) (rows : List (List Cell)) (title : String) :
    HoldsTexts (table headers rows title).columns
      (headers.map (·.toList) ++ rows.flatten.map Cell.chars) where
  plain := by
    intro c hc text htext
    obtain ⟨i, -, rfl⟩ := List.mem_map.1 hc
    rcases List.mem_cons.1 htext with rfl | hentry
    · refine ⟨rfl, ?_⟩
      cases hheader : headers[i]? with
      | none => exact .inl rfl
      | some header =>
          exact .inr (List.mem_append_left _ (List.mem_map_of_mem (List.mem_of_getElem? hheader)))
    · obtain ⟨row, hrow, rfl⟩ := List.mem_map.1 hentry
      refine ⟨rfl, ?_⟩
      cases hcell : row[i]? with
      | none => exact .inl rfl
      | some cell =>
          have hmem : cell ∈ rows.flatten :=
            List.mem_flatten.2 ⟨row, hrow, List.mem_of_getElem? hcell⟩
          exact .inr (List.mem_append_right _ (List.mem_map_of_mem hmem))
  held := by
    intro s hs
    obtain ⟨hheaders, hrows⟩ := Column.le_foldl_max (rows.map List.length) headers.length
    rcases List.mem_append.1 hs with hmem | hmem
    · obtain ⟨header, hheader, rfl⟩ := List.mem_map.1 hmem
      obtain ⟨i, hi, hget⟩ := List.getElem_of_mem hheader
      refine ⟨_, List.mem_map_of_mem (List.mem_range.2 (Nat.lt_of_lt_of_le hi hheaders)), ?_⟩
      refine List.mem_append_left _ ?_
      rw [List.getElem?_eq_getElem hi, hget]
      exact List.mem_singleton.2 rfl
    · obtain ⟨cell, hcell, rfl⟩ := List.mem_map.1 hmem
      obtain ⟨row, hrow, hown⟩ := List.mem_flatten.1 hcell
      obtain ⟨i, hi, hget⟩ := List.getElem_of_mem hown
      have hlength := hrows _ (List.mem_map_of_mem hrow)
      refine ⟨_, List.mem_map_of_mem (List.mem_range.2 (Nat.lt_of_lt_of_le hi hlength)), ?_⟩
      refine List.mem_append_right _ (List.mem_map.2 ⟨row, hrow, ?_⟩)
      rw [List.getElem?_eq_getElem hi, hget]
      rfl

theorem holdsTexts_pairs (entries : List (String × String)) (title : String) :
    HoldsTexts (pairs entries title).columns
      (entries.map (·.1.toList) ++ entries.map (·.2.toList)) where
  plain := by
    intro c hc text htext
    simp only [columns, List.mem_cons, List.not_mem_nil, or_false] at hc
    rcases hc with rfl | rfl
    · obtain ⟨e, he, rfl⟩ := List.mem_map.1 htext
      have hmem := List.mem_map_of_mem (f := fun e : String × String => e.1.toList) he
      exact ⟨rfl, .inr (List.mem_append_left _ hmem)⟩
    · obtain ⟨e, he, rfl⟩ := List.mem_map.1 htext
      have hmem := List.mem_map_of_mem (f := fun e : String × String => e.2.toList) he
      exact ⟨rfl, .inr (List.mem_append_right _ hmem)⟩
  held := by
    intro s hs
    rcases List.mem_append.1 hs with hmem | hmem
    · obtain ⟨e, he, rfl⟩ := List.mem_map.1 hmem
      exact ⟨_, List.mem_cons_self, List.mem_map.2 ⟨e, he, rfl⟩⟩
    · obtain ⟨e, he, rfl⟩ := List.mem_map.1 hmem
      exact ⟨_, List.mem_cons_of_mem _ List.mem_cons_self, List.mem_map.2 ⟨e, he, rfl⟩⟩

end Message

/-! ## The plain console -/

namespace Plain

open Text (Prints)

variable {m : Message} {s : List Char}

theorem prints_write {l : List Char} (hl : l ∈ lines m) (h : s <:+: l) :
    Prints (write m).toList s := by
  rw [write, String.toList_ofList]
  refine .of_isInfix (Text.squeeze_isInfix (h.trans ?_))
  have hline : l <:+: line l := (List.prefix_append _ _).isInfix
  exact hline.trans (List.infix_of_mem_flatten (List.mem_map_of_mem hl))

theorem prints_title {title : String} (h : ∀ l ∈ titleLines title, l ∈ lines m) :
    Prints (write m).toList title.toList := by
  by_cases hno : title = ""
  · rw [hno]
    exact Text.prints_nil _
  · refine prints_write (h _ ?_) (List.infix_append "  ".toList title.toList [':'])
    rw [titleLines, if_neg hno]
    exact List.mem_cons_of_mem _ List.mem_cons_self

/-- An entry of a row that has a column is a part of the row's line. -/
theorem infix_rowLine {widths : List Nat} {row : List (List Char)} (h : s ∈ row)
    (hwidths : row.length ≤ widths.length) : s <:+: rowLine widths row := by
  obtain ⟨i, hi, hget⟩ := List.getElem_of_mem h
  have hbound : i < widths.length := Nat.lt_of_lt_of_le hi hwidths
  have hmem : Text.padEnd widths[i] ' ' (entry row i) ∈
      widths.mapIdx fun i w => Text.padEnd w ' ' (entry row i) :=
    List.mem_mapIdx.2 ⟨i, hbound, rfl⟩
  have hentry : entry row i = s := by
    rw [entry, List.getElem?_eq_getElem hi, hget]
    rfl
  rw [hentry] at hmem
  have hpad : s <:+: Text.padEnd widths[i] ' ' s :=
    (List.prefix_append _ _).isInfix
  exact (hpad.trans (Grid.infix_intercalate hmem)).trans (List.suffix_append _ _).isInfix

theorem prints_table {headers : List String} {rows : List (List Cell)} {title : String}
    (hrows : ∀ row ∈ rows, row.length ≤ headers.length)
    (h : s ∈ headers.map (·.toList) ++ rows.flatten.map Cell.chars) :
    Prints (write (.table headers rows title)).toList s := by
  let own := headers.map (·.toList)
  let others := rows.map fun row => row.map Cell.chars
  have hwidths : ∀ row ∈ own :: others, row.length ≤ (columnWidths own others).length := by
    rw [length_columnWidths, List.length_map]
    refine List.forall_mem_cons.2 ⟨(List.length_map _).le, fun row hrow => ?_⟩
    obtain ⟨cells, hcells, rfl⟩ := List.mem_map.1 hrow
    rw [List.length_map]
    exact hrows cells hcells
  obtain ⟨row, hrow, hs⟩ : ∃ row ∈ own :: others, s ∈ row := by
    rcases List.mem_append.1 h with hmem | hmem
    · exact ⟨own, List.mem_cons_self, hmem⟩
    · obtain ⟨cell, hcell, rfl⟩ := List.mem_map.1 hmem
      obtain ⟨cells, hcells, hcell⟩ := List.mem_flatten.1 hcell
      exact ⟨_, List.mem_cons_of_mem _ (List.mem_map_of_mem hcells), List.mem_map_of_mem hcell⟩
  have hsome : (headers.isEmpty && rows.isEmpty) = false := by
    cases headers with
    | cons header headers => rfl
    | nil =>
        cases rows with
        | cons row rows => rfl
        | nil => cases h
  refine prints_write (List.mem_append_right _ ?_) (infix_rowLine hs (hwidths row hrow))
  rw [hsome, if_neg Bool.false_ne_true]
  cases hrow with
  | head => exact List.mem_cons_self
  | tail _ hrow =>
      exact List.mem_cons_of_mem _ (List.mem_cons_of_mem _ (List.mem_map_of_mem hrow))

theorem prints_pairs {entries : List (String × String)} {title : String}
    (h : s ∈ entries.map (·.1.toList) ++ entries.map (·.2.toList)) :
    Prints (write (.pairs entries title)).toList s := by
  have hline : ∀ e ∈ entries, ∀ s, s <:+: gap ++ Text.padStart
      ((entries.map fun e => e.1.toList.length).foldl max 0) ' ' e.1.toList ++ ": ".toList ++
        e.2.toList → Prints (write (.pairs entries title)).toList s :=
    fun e he s hs => prints_write (List.mem_append_right _ (List.mem_map_of_mem he)) hs
  rcases List.mem_append.1 h with hmem | hmem
  · obtain ⟨e, he, rfl⟩ := List.mem_map.1 hmem
    refine hline e he _ ?_
    rw [List.append_assoc, Text.padStart, ← List.append_assoc gap]
    exact List.infix_append _ _ _
  · obtain ⟨e, he, rfl⟩ := List.mem_map.1 hmem
    exact hline e he _ (List.suffix_append _ _).isInfix

theorem printable_of_regular (h : m.Regular) : printable m = true := by
  cases m with
  | step current total description =>
      have hcounts : (Message.step current total description).countsOverlong = false := h
      simp only [printable, hcounts, Bool.not_false]
  | table headers rows title =>
      refine List.all_eq_true.2 fun row hrow => List.all_eq_true.2 fun cell hcell => ?_
      have htext := (h.2 row hrow).2 cell (List.mem_of_mem_take hcell)
      cases cell with
      | text s => rfl
      | number n => cases htext
  | _ => rfl

/-- The plain console prints all texts of a message. -/
theorem prints_of_regular (h : m.Regular) : ∀ s ∈ m.texts, Prints (write m).toList s := by
  cases m with
  | raw text => exact List.forall_mem_singleton.2 (prints_write List.mem_cons_self List.infix_rfl)
  | step current total description =>
      refine List.forall_mem_singleton.2
        (prints_write (List.mem_cons_of_mem _ List.mem_cons_self) ?_)
      rw [String.toList_append]
      exact (List.suffix_append _ _).isInfix
  | umbrella name dependencies =>
      refine List.forall_mem_cons.2 ⟨?_, fun s hs => ?_⟩
      · exact prints_write (List.mem_cons_of_mem _ List.mem_cons_self)
          (List.suffix_append "  ".toList _).isInfix
      · rw [List.map_map] at hs
        obtain ⟨d, hd, rfl⟩ := List.mem_map.1 hs
        refine prints_write (l := "    - ".toList ++ d.toList) ?_ (List.suffix_append _ _).isInfix
        refine List.mem_cons_of_mem _ (List.mem_cons_of_mem _ ?_)
        rw [if_neg (by simpa using List.ne_nil_of_mem hd)]
        exact List.mem_map_of_mem hd
  | table headers rows title =>
      refine List.forall_mem_cons.2 ⟨?_, fun s hs => ?_⟩
      · exact prints_title fun l hl => List.mem_append_left _ hl
      · rw [List.map_map] at hs
        obtain ⟨s, hown, rfl⟩ := List.mem_map.1 hs
        exact prints_table (fun row hrow => (h.2 row hrow).1) hown
  | pairs entries title =>
      refine List.forall_mem_cons.2 ⟨?_, fun s hs => ?_⟩
      · exact prints_title fun l hl => List.mem_append_left _ hl
      · rw [List.map_map] at hs
        obtain ⟨s, hown, rfl⟩ := List.mem_map.1 hs
        exact prints_pairs hown
  | _ =>
      refine List.forall_mem_singleton.2 (prints_write List.mem_cons_self ?_)
      exact (List.suffix_append _ _).isInfix

end Plain

/-! ## The rich console -/

namespace Rich

open Text (Prints)
open Markup (Literal StandsFor Frames MarkupFault)

variable {columns : Nat} {name : String} {before inner shown after : List Char}

@[simp] theorem toString_text (s : String) : toString s = s := rfl

theorem squeeze_block (ls : List (List Char)) : squeeze (block ls) = squeeze ls.flatten := by
  induction ls with
  | nil => rfl
  | cons line ls ih =>
      rw [block, List.flatMap_cons, Text.squeeze_append, Text.squeeze_append, ← block, ih,
        List.flatten_cons, Text.squeeze_append, Text.squeeze_cons_of_blank (by decide),
        Text.squeeze_nil, List.append_nil]

/-! ### Paragraphs -/

/-- A text whose look is understood is wrapped. -/
theorem paragraph_of_read {markup : String} {m : Marked} (hcolumns : columns ≠ 0)
    (hread : Markup.read markup.toList = .ok m) (hworded : m.Worded name)
    (hname : Markup.checkWords name = .ok ()) :
    paragraph columns markup = .ok (Wrap.wrap columns m.chars) := by
  have hlooks : ∀ finish, Markup.checkLooks (m.shown .fold columns finish) = .ok () := by
    intro finish
    refine Markup.checkLooks_of_forall fun s hs => ?_
    rw [hworded.shown .fold columns finish s hs, hname]
  rw [paragraph, hread]
  change (if columns = 0 then _ else _) = _
  rw [if_neg hcolumns, hlooks]
  rfl

theorem paragraph_literal {markup : String} (hcolumns : columns ≠ 0)
    (h : Literal markup.toList) :
    paragraph columns markup = .ok (Wrap.wrap columns markup.toList) :=
  paragraph_of_read hcolumns (Markup.read_literal h)
    (show Marked.Worded "dim" ⟨markup.toList, []⟩ from nofun) Markup.frames_dim.look

theorem paragraph_framed {markup : String} (hcolumns : columns ≠ 0) (hname : Frames name)
    (hmarkup : markup.toList =
      before ++ ('[' :: name.toList ++ ']' :: (inner ++ '[' :: '/' :: ']' :: after)))
    (hbefore : Literal before) (hlast : before.getLast? ≠ some '\\')
    (hinner : StandsFor inner shown) (hafter : Literal after) :
    paragraph columns markup = .ok (Wrap.wrap columns (before ++ (shown ++ after))) := by
  have hread := Markup.read_framed hname hbefore hlast hinner hafter
  rw [← hmarkup] at hread
  refine paragraph_of_read hcolumns hread (fun s hs => ?_) hname.look
  rw [List.mem_singleton.1 hs]

/-- A firm text that is wrapped is printed. -/
theorem prints_wrap (hcolumns : 2 ≤ columns) {s t : List Char} (h : Firm s) (ht : t <:+: s) :
    Prints (Wrap.wrap columns s).flatten t := by
  refine .of_isInfix ?_
  rw [Wrap.squeeze_wrap hcolumns h]
  exact Text.squeeze_isInfix ht

/-- What stands in front of a text: nothing that markup is made of, and a blank at last. -/
structure Leads (mark : List Char) : Prop where
  harmless : ∀ c ∈ mark, c ≠ '[' ∧ c ≠ '\\' ∧ Wrap.isControl c = false
  firm : Firm mark
  blank : ∀ c ∈ mark.getLast?, Text.isBlank c = true

instance (mark : List Char) : Decidable (Leads mark) :=
  have : Decidable (∀ c ∈ mark, c ≠ '[' ∧ c ≠ '\\' ∧ Wrap.isControl c = false) :=
    List.decidableBAll _ mark
  have : Decidable (∀ c ∈ mark.getLast?, Text.isBlank c = true) :=
    Option.decidableForallMem mark.getLast?
  decidable_of_iff ((∀ c ∈ mark, c ≠ '[' ∧ c ≠ '\\' ∧ Wrap.isControl c = false) ∧ Firm mark ∧
      ∀ c ∈ mark.getLast?, Text.isBlank c = true)
    ⟨fun h => ⟨h.1, h.2.1, h.2.2⟩, fun h => ⟨h.harmless, h.firm, h.blank⟩⟩

theorem Leads.literal {mark s : List Char} (h : Leads mark) (hs : Literal s) :
    Literal (mark ++ s) := hs.append_of_forall h.harmless

theorem Leads.firm_append {mark s : List Char} (h : Leads mark) (hs : Firm s) :
    Firm (mark ++ s) := h.firm.append hs fun c hc => .inl (h.blank c hc)

/-- A literal text behind a mark is printed. -/
theorem exists_paragraph_alone (hcolumns : 2 ≤ columns) (markup : String) (mark : List Char)
    {s : List Char} (hmark : Leads mark) (hmarkup : markup.toList = mark ++ s)
    (h : Place.alone.Allows s) :
    ∃ shown, paragraph columns markup = .ok shown ∧ Prints shown.flatten s := by
  have hliteral := hmark.literal h.1
  rw [← hmarkup] at hliteral
  refine ⟨_, paragraph_literal (by omega) hliteral, ?_⟩
  rw [hmarkup]
  exact prints_wrap hcolumns (hmark.firm_append h.2) (List.suffix_append _ _).isInfix

/-- A literal text in a frame behind a mark is printed. -/
theorem exists_paragraph_framed (hcolumns : 2 ≤ columns) (markup : String) (mark : List Char)
    {s : List Char} (hname : Frames name) (hmark : Leads mark)
    (hmarkup : markup.toList =
      mark ++ ('[' :: name.toList ++ ']' :: (s ++ '[' :: '/' :: ']' :: [])))
    (h : Place.framed.Allows s) :
    ∃ shown, paragraph columns markup = .ok shown ∧ Prints shown.flatten s := by
  obtain ⟨hliteral, hfirm, hlast⟩ := h
  have hmarkLiteral : Literal mark := Markup.literal_of_forall hmark.harmless
  have hmarkLast : mark.getLast? ≠ some '\\' := by
    intro hslash
    exact absurd (hmark.blank _ hslash) (by decide)
  refine ⟨_, paragraph_framed (by omega) hname hmarkup hmarkLiteral hmarkLast
    (hliteral.standsFor hlast) (trivial : Literal []), ?_⟩
  rw [List.append_nil]
  exact prints_wrap hcolumns (hmark.firm_append hfirm) (List.suffix_append _ _).isInfix

/-! ### Steps -/

theorem toString_int (n : Int) :
    (toString n).toList ≠ [] ∧ ∀ c ∈ (toString n).toList, c.isDigit = true ∨ c = '-' := by
  have hnat : ∀ m : Nat, ∀ c ∈ m.repr.toList, c.isDigit = true := by
    intro m c hc
    rw [Nat.toList_repr] at hc
    exact Nat.isDigit_of_mem_toDigits (by decide) (by decide) hc
  cases n with
  | ofNat m =>
      change m.repr.toList ≠ [] ∧ ∀ c ∈ m.repr.toList, _
      refine ⟨?_, fun c hc => .inl (hnat m c hc)⟩
      rw [Nat.toList_repr]
      exact Nat.toDigits_ne_nil
  | negSucc m =>
      change ("-" ++ (m + 1).repr).toList ≠ [] ∧ ∀ c ∈ ("-" ++ (m + 1).repr).toList, _
      rw [String.toList_append]
      refine ⟨List.cons_ne_nil _ _, fun c hc => ?_⟩
      rcases List.mem_append.1 hc with hc | hc
      · exact .inr (List.mem_singleton.1 hc)
      · exact .inl (hnat _ c hc)

/-- How far a command has come, behind the bracket that opens it. -/
def progress (current total : Int) : List Char :=
  (toString current).toList ++ '/' :: ((toString total).toList ++ [']'])

/-- Progress is told by visible characters, none of which opens a tag. -/
theorem plain_progress (current total : Int) :
    ∀ c ∈ progress current total, IsPlain c ∧ c ≠ ' ' ∧ c ≠ '[' ∧ c ≠ '\\' := by
  have hnumber : ∀ c : Char, c.isDigit = true ∨ c = '-' →
      IsPlain c ∧ c ≠ ' ' ∧ c ≠ '[' ∧ c ≠ '\\' := by
    rintro c (hc | rfl)
    · simp only [Char.isDigit, Bool.and_eq_true, decide_eq_true_eq] at hc
      have hbounds : 48 ≤ c.toNat ∧ c.toNat ≤ 57 := hc
      have hne : ∀ d : Char, 57 < d.toNat ∨ d.toNat < 48 → c ≠ d := by
        rintro d hd rfl
        omega
      refine ⟨⟨?_, ?_⟩, hne _ (by decide), hne _ (by decide), hne _ (by decide)⟩ <;> omega
    · decide
  intro c hc
  simp only [progress, List.mem_append, List.mem_cons, List.not_mem_nil, or_false] at hc
  rcases hc with hc | rfl | hc | rfl
  · exact hnumber c ((toString_int current).2 c hc)
  · decide
  · exact hnumber c ((toString_int total).2 c hc)
  · decide

/-- Progress in brackets is no tag. -/
theorem literal_progress (current total : Int) : Literal ('[' :: progress current total) := by
  have hplain := plain_progress current total
  have hliteral : Literal (progress current total) := Markup.literal_of_forall fun c hc =>
    ⟨(hplain c hc).2.2.1, (hplain c hc).2.2.2, not_isControl_of_isPlain (hplain c hc).1⟩
  refine ⟨?_, fun h => absurd h.1 (by decide), by decide, hliteral⟩
  obtain ⟨hne, hnumber⟩ := toString_int current
  obtain ⟨c, rest, hcons⟩ := List.exists_cons_of_ne_nil hne
  have hopens : Markup.opensTag c = false := by
    rcases hnumber c (hcons ▸ List.mem_cons_self) with hc | rfl
    · simp only [Char.isDigit, Bool.and_eq_true, decide_eq_true_eq] at hc
      have hbounds : 48 ≤ c.toNat ∧ c.toNat ≤ 57 := hc
      have hletter : ¬ 'a' ≤ c := fun h => absurd (show 97 ≤ c.toNat from h) (by omega)
      have hne : ∀ d : Char, 57 < d.toNat ∨ d.toNat < 48 → (c == d) = false := by
        intro d hd
        refine beq_eq_false_iff_ne.2 ?_
        rintro rfl
        omega
      simp [Markup.opensTag, hletter, hne '#' (by decide), hne '/' (by decide), hne '@' (by decide)]
    · decide
  rw [progress, hcons, List.cons_append, Markup.tagBody?, hopens, if_neg Bool.false_ne_true]

/-- The description of a step is printed. -/
theorem exists_paragraph_step (hcolumns : 2 ≤ columns) (current total : Int)
    {description : String} (h : Place.alone.Allows description.toList) :
    ∃ shown,
      paragraph columns s!"\n  [step.num]\\[{current}/{total}][/] {description}" = .ok shown ∧
      Prints shown.flatten description.toList := by
  have hlast : ('[' :: progress current total).getLast? = some ']' := by
    have hconcat : '[' :: progress current total =
        ('[' :: ((toString current).toList ++ '/' :: (toString total).toList)) ++ [']'] := by
      simp [progress]
    rw [hconcat, List.getLast?_concat]
  have hmark : Leads "\n  ".toList := by decide
  have hblank : Leads [' '] := by decide
  have hinner := (literal_progress current total).standsFor_escaped (by rw [hlast]; decide)
  have hbetween : Firm ('[' :: progress current total) := by
    refine Text.firm_of_forall (List.forall_mem_cons.2 ⟨by decide, fun c hc => ?_⟩)
    obtain ⟨hplain, hne, -⟩ := plain_progress current total c hc
    exact isBlank_eq_false hplain hne
  have hfirm : Firm ("\n  ".toList ++
      ('[' :: progress current total ++ ([' '] ++ description.toList))) := by
    refine hmark.firm_append (hbetween.append (hblank.firm_append h.2) fun c hc => .inr ?_)
    rw [hlast] at hc
    cases hc
    decide
  refine ⟨_, paragraph_framed (by omega) Markup.frames_stepNumber (by simp [progress])
    (Markup.literal_of_forall hmark.harmless) (by decide) hinner (hblank.literal h.1), ?_⟩
  refine prints_wrap hcolumns hfirm ?_
  rw [← List.append_assoc, ← List.append_assoc]
  exact (List.suffix_append _ _).isInfix

/-! ### Trees -/

theorem mapM_ok {ε α β : Type} {f : α → Except ε β} {g : α → β} {xs : List α}
    (h : ∀ x ∈ xs, f x = .ok (g x)) : xs.mapM f = .ok (xs.map g) := by
  induction xs with
  | nil => rfl
  | cons x xs ih =>
      obtain ⟨hx, hxs⟩ := List.forall_mem_cons.1 h
      rw [List.mapM_cons, hx, ih hxs]
      rfl

/-- Every line of a branch stands on a line of the tree. -/
theorem exists_mem_branches {below : List (List (List Char))} {b : List (List Char)}
    {line : List Char} (hb : b ∈ below) (hline : line ∈ b) :
    ∃ shown ∈ branches below, line <:+: shown := by
  have hbranch : ∀ isLast, ∃ shown ∈ branch isLast b, line <:+: shown := by
    intro isLast
    cases hline with
    | head => exact ⟨_, List.mem_cons_self, (List.suffix_append _ _).isInfix⟩
    | tail _ hline =>
        exact ⟨_, List.mem_cons_of_mem _ (List.mem_map_of_mem hline),
          (List.suffix_append _ _).isInfix⟩
  induction below with
  | nil => cases hb
  | cons first others ih =>
      cases others with
      | nil =>
          obtain rfl := List.mem_singleton.1 hb
          exact hbranch true
      | cons second others =>
          rw [branches]
          · cases hb with
            | head =>
                obtain ⟨shown, hshown, hwithin⟩ := hbranch false
                exact ⟨shown, List.mem_append_left _ hshown, hwithin⟩
            | tail _ hb =>
                obtain ⟨shown, hshown, hwithin⟩ := ih hb
                exact ⟨shown, List.mem_append_right _ hshown, hwithin⟩
          · nofun

/-- The lines of a text that is not broken. -/
theorem wrap_of_even {room : Nat} {s : List Char} (h : Wrap.Even s) (hwide : Wrap.widest s ≤ room) :
    Wrap.wrap room s = (Text.split '\n' s).map (Wrap.dropExcess room) := by
  rw [Wrap.wrap, Wrap.breakText_of_even h hwide, List.map_map]
  refine List.map_congr_left fun line hline => ?_
  have hwidth := Nat.le_trans (Grid.width_dropExcess_le room line)
    (Nat.le_trans (Wrap.width_le_widest h hline) hwide)
  rw [Function.comp_apply, Wrap.fit, if_pos hwidth]

/-- What hangs below a name is printed where there is room for it beside the marks. -/
theorem exists_below (hcolumns : 4 < columns) {dependencies : List String}
    (hdependencies : ∀ d ∈ dependencies, Place.entry.Allows d.toList)
    (hroom : ∀ d ∈ dependencies, Wrap.widest d.toList + 4 < columns) :
    ∃ below,
      (if dependencies.isEmpty then ["[dim](no dependencies)[/]"] else dependencies).mapM
        (paragraph (columns - 4)) = .ok below ∧
      ∀ d ∈ dependencies, Prints (branches below).flatten d.toList := by
  cases dependencies with
  | nil =>
      have hnone : ∃ shown, paragraph (columns - 4) "[dim](no dependencies)[/]" = .ok shown :=
        ⟨_, paragraph_framed (by omega) Markup.frames_dim
          (show "[dim](no dependencies)[/]".toList = [] ++ ('[' :: "dim".toList ++
            ']' :: ("(no dependencies)".toList ++ '[' :: '/' :: ']' :: [])) by decide)
          (by decide) (by decide) (Literal.standsFor (by decide) (by decide)) (by decide)⟩
      obtain ⟨shown, hshown⟩ := hnone
      refine ⟨[shown], ?_, nofun⟩
      rw [List.isEmpty_nil, if_pos rfl, List.mapM_cons, hshown]
      rfl
  | cons first others =>
      rw [List.isEmpty_cons, if_neg Bool.false_ne_true]
      generalize first :: others = dependencies at hdependencies hroom ⊢
      refine ⟨_, mapM_ok (g := fun d : String => Wrap.wrap (columns - 4) d.toList) fun d hd =>
        paragraph_literal (by omega) (hdependencies d hd).1, fun d hd line hline => ?_⟩
      have hwide : Wrap.widest d.toList ≤ columns - 4 := by
        have hwide := hroom d hd
        omega
      have hmem : Wrap.dropExcess (columns - 4) line ∈ Wrap.wrap (columns - 4) d.toList := by
        rw [wrap_of_even (hdependencies d hd).2 hwide]
        exact List.mem_map_of_mem hline
      obtain ⟨shown, hshown, hwithin⟩ := exists_mem_branches
        (List.mem_map_of_mem (f := fun d : String => Wrap.wrap (columns - 4) d.toList) hd) hmem
      rw [← Wrap.squeeze_dropExcess (columns - 4) line]
      exact Text.squeeze_isInfix (hwithin.trans (List.infix_of_mem_flatten hshown))

/-- A name and what hangs below it are printed. -/
theorem exists_tree (hcolumns : 2 ≤ columns) {name : String} {dependencies : List String}
    (hname : Place.framed.Allows name.toList)
    (hdependencies : ∀ d ∈ dependencies, Place.entry.Allows d.toList)
    (hroom : ∀ d ∈ dependencies, Wrap.widest d.toList + 4 < columns) :
    ∃ shown, tree columns name dependencies = .ok shown ∧
      Prints shown.flatten name.toList ∧ ∀ d ∈ dependencies, Prints shown.flatten d.toList := by
  obtain ⟨root, hroot, hprinted⟩ := exists_paragraph_framed hcolumns s!"[task]{name}[/]" []
    Markup.frames_task (by decide) (by simp) hname
  by_cases hnarrow : columns ≤ 4
  · refine ⟨root, ?_, hprinted, fun d hd => ?_⟩
    · rw [tree, hroot]
      exact if_pos hnarrow
    · have hwide := hroom d hd
      omega
  · obtain ⟨below, hbelow, hprinted'⟩ :=
      exists_below (Nat.lt_of_not_le hnarrow) hdependencies hroom
    refine ⟨root ++ branches below, ?_, ?_, fun d hd => ?_⟩
    · rw [tree, hroot]
      refine (if_neg hnarrow).trans ?_
      rw [hbelow]
      rfl
    · rw [List.flatten_append]
      exact hprinted.mono (Text.squeeze_isInfix (List.prefix_append _ _).isInfix)
    · rw [List.flatten_append]
      exact (hprinted' d hd).mono (Text.squeeze_isInfix (List.suffix_append _ _).isInfix)

/-! ### Grids -/

theorem entryStretches_worded {a : Alignment} {size : Nat} {text : Marked}
    (h : text.Worded name) : ∀ s ∈ Grid.entryStretches a size text, s.words = name := by
  unfold Grid.entryStretches
  simp only
  split
  · nofun
  · exact h.shown _ _ _

theorem stretches_worded {grid : List Column}
    (h : ∀ c ∈ grid, ∀ text ∈ c.texts, text.Worded name) :
    ∀ s ∈ Grid.stretches columns grid, s.words = name := by
  have hsized : ∀ e ∈ Grid.sized columns grid, ∀ text ∈ e.2.texts, text.Worded name :=
    fun e he => h e.2 (List.of_mem_zip he).2
  refine List.forall_mem_append.2 ⟨fun s hs => ?_, fun s hs => ?_⟩
  · obtain ⟨e, he, hs⟩ := List.mem_flatMap.1 hs
    obtain ⟨text, htext, hs⟩ := List.mem_flatMap.1 hs
    exact entryStretches_worded (hsized e he text (List.mem_append_left _ htext)) s hs
  · obtain ⟨i, -, hs⟩ := List.mem_flatMap.1 hs
    obtain ⟨e, he, hs⟩ := List.mem_flatMap.1 hs
    refine entryStretches_worded ?_ s hs
    rw [Column.entry]
    cases htext : e.2.entries[i]? with
    | none => exact fun s hs => absurd hs List.not_mem_nil
    | some text =>
        exact hsized e he text (List.mem_append_right _ (List.mem_of_getElem? htext))

theorem fit_of_width_le {room : Nat} {line : List Char} (h : Text.width line ≤ room) :
    Wrap.fit .fold room line = line := if_pos h

theorem ok_bind {ε α β : Type} (x : α) (f : α → Except ε β) : (.ok x >>= f) = f x := rfl

def ownTitle (title : String) : Option Marked :=
  if title = "" then none else some ⟨title.toList, []⟩

/-- Without stretches all looks of a titled grid are understood. -/
theorem checkLooks_titled {grid : List Column} (title : String) (size : Nat)
    (h : ∀ c ∈ grid, ∀ text ∈ c.texts, text.stretches = []) :
    Markup.checkLooks ((ownTitle title).toList.flatMap (Grid.titleStretches size) ++
      Grid.stretches columns grid) = .ok () := by
  have hworded : ∀ text : Marked, text.stretches = [] → text.Worded "dim" := by
    intro text htext s hs
    rw [htext] at hs
    cases hs
  have htitle : ∀ text ∈ ownTitle title, text.stretches = [] := by
    intro text htext
    simp only [ownTitle, Option.mem_def, Option.ite_none_left_eq_some, Option.some.injEq] at htext
    rw [← htext.2]
  refine Markup.checkLooks_of_forall (List.forall_mem_append.2 ⟨fun s hs => ?_, fun s hs => ?_⟩)
  · obtain ⟨text, htext, hs⟩ := List.mem_flatMap.1 hs
    rw [(hworded text (htitle text (Option.mem_toList.1 htext))).shown _ _ _ s hs]
    exact Markup.frames_dim.look
  · rw [stretches_worded (fun c hc text htext => hworded text (h c hc text htext)) s hs]
    exact Markup.frames_dim.look

/-- A title that is as wide as its grid is printed above it. -/
theorem prints_ownTitle {size : Nat} {title : String} (behind : List (List Char))
    (hsize : 2 ≤ size) (hwidth : size ≤ columns) (h : Firm title.toList) :
    Prints (((ownTitle title).toList.flatMap (Grid.titleLines size) ++ behind).map
      (Wrap.fit .fold columns)).flatten title.toList := by
  by_cases hno : title = ""
  · rw [hno]
    exact Text.prints_nil _
  · have hown : (ownTitle title).toList.flatMap (Grid.titleLines size) =
        Grid.titleLines size ⟨title.toList, []⟩ := by
      simp [ownTitle, hno]
    have hfit : (Grid.titleLines size ⟨title.toList, []⟩).map (Wrap.fit .fold columns) =
        Grid.titleLines size ⟨title.toList, []⟩ := by
      refine (List.map_congr_left fun line hline => fit_of_width_le ?_).trans (List.map_id _)
      rw [Grid.width_of_mem_titleLines _ _ line hline]
      exact hwidth
    refine .of_isInfix ?_
    rw [hown, List.map_append, List.flatten_append, hfit, Text.squeeze_append,
      Grid.squeeze_titleLines hsize h]
    exact (List.prefix_append _ _).isInfix

theorem titled_literal {grid : List Column} {title : String} (hgrid : grid.isEmpty = false)
    (htitle : Literal title.toList) :
    titled columns title grid = (do
      Markup.checkLooks
        ((ownTitle title).toList.flatMap (Grid.titleStretches (Grid.width columns grid)) ++
          Grid.stretches columns grid)
      return ((ownTitle title).toList.flatMap (Grid.titleLines (Grid.width columns grid)) ++
        Grid.lines columns grid).map (Wrap.fit .fold columns)) := by
  rw [titled, hgrid, if_neg Bool.false_ne_true, ownTitle]
  by_cases hno : title = ""
  · rw [if_pos hno, if_pos hno]
    rfl
  · have hread : some <$> Markup.read title.toList = .ok (some ⟨title.toList, []⟩) := by
      rw [Markup.read_literal htitle]
      rfl
    rw [if_neg hno, if_neg hno, hread, ok_bind]

/-- A grid of texts that fits is shown below its title, and all of it is printed. -/
theorem exists_titled {grid : List Column} {title : String} (hfits : Grid.Fits columns grid)
    (hsolid : Grid.Solid grid)
    (hentries : ∀ c ∈ grid, ∀ text ∈ c.texts, text.stretches = [] ∧ Wrap.Even text.chars)
    (htitle : Place.alone.Allows title.toList) :
    ∃ shown, titled columns title grid = .ok shown ∧ Prints shown.flatten title.toList ∧
      ∀ c ∈ grid, ∀ text ∈ c.texts, Prints shown.flatten text.chars := by
  have hempty : grid.isEmpty = false := by
    cases grid with
    | nil => exact absurd rfl hsolid.1
    | cons c grid => rfl
  have hwidth : Grid.width columns grid ≤ columns := by
    rw [Grid.width_of_fits hfits hsolid]
    exact hfits
  refine ⟨((ownTitle title).toList.flatMap (Grid.titleLines (Grid.width columns grid)) ++
    Grid.lines columns grid).map (Wrap.fit .fold columns), ?_, ?_,
    fun c hc text htext line hline => ?_⟩
  · rw [titled_literal hempty htitle.1,
      checkLooks_titled _ _ fun c hc text htext => (hentries c hc text htext).1]
    rfl
  · exact prints_ownTitle _ (Grid.two_le_width hfits hsolid) hwidth htitle.2
  · obtain ⟨shown, hshown, hwithin, hnarrow⟩ := Grid.exists_mem_lines hfits hsolid
      (fun c hc text htext => (hentries c hc text htext).2) hc htext hline
    refine hwithin.trans (Text.squeeze_isInfix ?_)
    refine List.infix_of_mem_flatten (List.mem_map.2 ⟨shown, List.mem_append_right _ hshown, ?_⟩)
    exact fit_of_width_le hnarrow

theorem exists_grid {grid : List Column} {title : String} {entries : List (List Char)}
    (hfits : Grid.Fits columns grid) (hsolid : Grid.Solid grid)
    (htitle : Place.alone.Allows title.toList)
    (hentries : ∀ s ∈ entries, Place.entry.Allows s)
    (hheld : Message.HoldsTexts grid entries) :
    ∃ shown, titled columns title grid = .ok shown ∧
      ∀ s ∈ ((.alone, title.toList) :: entries.map fun s => (Place.entry, s)).map (·.2),
        Prints shown.flatten s := by
  obtain ⟨shown, hshown, hprinted, hbelow⟩ :=
    exists_titled hfits hsolid (fun c hc text htext => by
      obtain ⟨hplain, hnone | hown⟩ := hheld.plain c hc text htext
      · exact ⟨hplain, hnone ▸ nofun⟩
      · exact ⟨hplain, (hentries _ hown).2⟩) htitle
  refine ⟨shown, hshown, List.forall_mem_cons.2 ⟨hprinted, fun s hs => ?_⟩⟩
  rw [List.map_map] at hs
  obtain ⟨own, hown, rfl⟩ := List.mem_map.1 hs
  obtain ⟨c, hc, htext⟩ := hheld.held own hown
  exact hbelow c hc _ htext

theorem entry_literal {room : Nat} {s : List Char} (hroom : 2 < room) (h : Literal s) :
    entry room s = .ok ⟨s, []⟩ := by
  rw [entry, if_neg (by omega), Markup.read_literal h]

/-- The columns of a table with literal texts are read as they are. -/
theorem tableColumns_literal {headers : List String} {rows : List (List Cell)} (title : String)
    (hroom : 2 < Grid.room columns (Message.table headers rows title).columns)
    (h : ∀ s ∈ headers.map (·.toList) ++ rows.flatten.map Cell.chars, Literal s) :
    tableColumns columns headers rows = .ok (Message.table headers rows title).columns := by
  have hroom' : 2 < columns - ((rows.map List.length).foldl max headers.length - 1) := by
    simpa [Grid.room, Message.columns] using hroom
  have hcell : ∀ row ∈ rows, ∀ i : Nat, Literal ((row[i]?.map Cell.chars).getD []) := by
    intro row hrow i
    cases hcell : row[i]? with
    | none => trivial
    | some cell =>
        have hmem : cell ∈ rows.flatten :=
          List.mem_flatten.2 ⟨row, hrow, List.mem_of_getElem? hcell⟩
        exact h _ (List.mem_append_right _ (List.mem_map_of_mem hmem))
  have hheader : ∀ i : Nat, Literal (headers[i]?.getD "").toList := by
    intro i
    cases hheader : headers[i]? with
    | none => trivial
    | some header =>
        exact h _ (List.mem_append_left _ (List.mem_map_of_mem (List.mem_of_getElem? hheader)))
  have hentries : ∀ i : Nat, rows.mapM (fun row =>
      entry (columns - ((rows.map List.length).foldl max headers.length - 1))
        ((row[i]?.map Cell.chars).getD [])) =
        .ok (rows.map fun row => ⟨(row[i]?.map Cell.chars).getD [], []⟩) :=
    fun i => mapM_ok fun row hrow => entry_literal hroom' (hcell row hrow i)
  rw [tableColumns]
  refine mapM_ok fun i _ => ?_
  rw [entry_literal hroom' (hheader i), hentries]
  rfl

theorem pairColumns_literal {entries : List (String × String)} (title : String)
    (hroom : 2 < Grid.room columns (Message.pairs entries title).columns)
    (h : ∀ s ∈ entries.map (·.1.toList) ++ entries.map (·.2.toList), Literal s) :
    pairColumns columns entries = .ok (Message.pairs entries title).columns := by
  have hkey : ∀ e ∈ entries, Literal e.1.toList := fun e he =>
    h _ (List.mem_append_left _ (List.mem_map_of_mem (f := fun e => e.1.toList) he))
  have hvalue : ∀ e ∈ entries, Literal e.2.toList := fun e he =>
    h _ (List.mem_append_right _ (List.mem_map_of_mem (f := fun e => e.2.toList) he))
  have hroom' : 2 < columns - 1 := hroom
  rw [pairColumns, mapM_ok fun e he => entry_literal hroom' (hkey e he),
    mapM_ok fun e he => entry_literal hroom' (hvalue e he)]
  rfl

/-! ### All messages -/

theorem hasNumber_of_regular {m : Message} (h : m.Regular) : m.hasNumber = false := by
  cases m with
  | table headers rows title =>
      refine List.any_eq_false.2 fun row hrow => ?_
      rw [Bool.not_eq_true]
      exact List.any_eq_false.2 fun cell hcell =>
        Bool.not_eq_true _ ▸ (h.2 row hrow).2 cell hcell
  | _ => rfl

theorem countsOverlong_of_regular {m : Message} (h : m.Regular) : m.countsOverlong = false := by
  cases m with
  | step current total description => exact h
  | _ => rfl

theorem exists_lines {m : Message} (hcolumns : 2 ≤ columns) (hliteral : m.Literal)
    (hregular : m.Regular) (hfits : Grid.Fits columns m.columns) (hroom : m.HasRoom columns) :
    ∃ shown, lines columns m = .ok shown ∧ ∀ s ∈ m.texts, Prints shown.flatten s := by
  cases m with
  | info text =>
      obtain ⟨shown, hshown, hprinted⟩ := exists_paragraph_alone hcolumns s!"  {text}"
        "  ".toList (by decide) (by simp) (hliteral _ List.mem_cons_self)
      exact ⟨shown, hshown, List.forall_mem_singleton.2 hprinted⟩
  | success text =>
      obtain ⟨shown, hshown, hprinted⟩ := exists_paragraph_alone hcolumns s!"  ✓ {text}"
        "  ✓ ".toList (by decide +kernel) (by simp) (hliteral _ List.mem_cons_self)
      exact ⟨shown, hshown, List.forall_mem_singleton.2 hprinted⟩
  | warning text =>
      obtain ⟨shown, hshown, hprinted⟩ := exists_paragraph_alone hcolumns s!"  ⚠ {text}"
        "  ⚠ ".toList (by decide +kernel) (by simp) (hliteral _ List.mem_cons_self)
      exact ⟨shown, hshown, List.forall_mem_singleton.2 hprinted⟩
  | error text =>
      obtain ⟨shown, hshown, hprinted⟩ := exists_paragraph_alone hcolumns s!"  ✗ {text}"
        "  ✗ ".toList (by decide +kernel) (by simp) (hliteral _ List.mem_cons_self)
      exact ⟨shown, hshown, List.forall_mem_singleton.2 hprinted⟩
  | raw text =>
      have hvisible : Wrap.visible text.toList = text.toList := List.filter_eq_self.2 fun c hc => by
        rw [hliteral _ List.mem_cons_self c hc]
        rfl
      refine ⟨_, rfl, List.forall_mem_singleton.2 fun line hline => ?_⟩
      rw [hvisible, Wrap.unbroken, ← Wrap.squeeze_expandTabs 0 line,
        ← Wrap.squeeze_dropExcess columns]
      exact Text.squeeze_isInfix (List.infix_of_mem_flatten (List.mem_map_of_mem hline))
  | step current total description =>
      obtain ⟨shown, hshown, hprinted⟩ := exists_paragraph_step hcolumns current total
        (hliteral _ List.mem_cons_self)
      exact ⟨shown, hshown, List.forall_mem_singleton.2 hprinted⟩
  | stepDetail text =>
      obtain ⟨shown, hshown, hprinted⟩ := exists_paragraph_framed hcolumns
        s!"    [dim]{text}[/]" "    ".toList Markup.frames_dim (by decide) (by simp)
        (hliteral _ List.mem_cons_self)
      exact ⟨shown, hshown, List.forall_mem_singleton.2 hprinted⟩
  | umbrella name dependencies =>
      obtain ⟨hname, hdependencies⟩ := List.forall_mem_cons.1 hliteral
      obtain ⟨shown, hshown, hprinted, hbelow⟩ := exists_tree hcolumns hname
        (fun d hd => hdependencies _ (List.mem_map_of_mem hd)) hroom
      refine ⟨[] :: shown, ?_, List.forall_mem_cons.2 ⟨hprinted, fun s hs => ?_⟩⟩
      · rw [lines, hshown]
        rfl
      · obtain ⟨e, he, rfl⟩ := List.mem_map.1 hs
        obtain ⟨d, hd, rfl⟩ := List.mem_map.1 he
        exact hbelow d hd
  | table headers rows title =>
      obtain ⟨htitle, hentries⟩ := List.forall_mem_cons.1 hliteral
      have hread := tableColumns_literal title (Grid.three_le_room hfits hregular.1)
        fun s hs => (hentries _ (List.mem_map_of_mem hs)).1
      rw [lines, hread]
      exact exists_grid hfits hregular.1 htitle (fun s hs => hentries _ (List.mem_map_of_mem hs))
        (Message.holdsTexts_table headers rows title)
  | pairs entries title =>
      obtain ⟨htitle, hentries⟩ := List.forall_mem_cons.1 hliteral
      have hread := pairColumns_literal title (Grid.three_le_room hfits hregular)
        fun s hs => (hentries _ (List.mem_map_of_mem hs)).1
      rw [lines, hread]
      exact exists_grid hfits hregular htitle (fun s hs => hentries _ (List.mem_map_of_mem hs))
        (Message.holdsTexts_pairs entries title)

/-- The rich console shows a message of literal texts that has room on the screen, and prints
all of them. -/
theorem exists_write {m : Message} (hcolumns : 2 ≤ columns) (hliteral : m.Literal)
    (hregular : m.Regular) (hfits : Grid.Fits columns m.columns) (hroom : m.HasRoom columns) :
    ∃ out, write columns m = .ok out ∧ ∀ s ∈ m.texts, Prints out.toList s := by
  obtain ⟨shown, hshown, hprinted⟩ := exists_lines hcolumns hliteral hregular hfits hroom
  refine ⟨String.ofList (block shown), ?_, fun s hs => ?_⟩
  · rw [write, hasNumber_of_regular hregular, countsOverlong_of_regular hregular,
      if_neg Bool.false_ne_true, if_neg Bool.false_ne_true, if_neg (by omega), hshown]
  · rw [String.toList_ofList]
    exact (hprinted s hs).mono (squeeze_block shown ▸ List.infix_rfl)

end Rich

end Console
end AnalysisPlan
