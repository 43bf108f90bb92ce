import AnalysisPlan.Proofs.DocumentedPlan
import AnalysisPlan.Proofs.PrintedMessages

/-!
# The messages of a report

A report says single texts first, about the steps and about a failure, and then what its
command has to say about the project: tables of texts, pairs, and more single texts. So
all its messages are of a regular shape (`CommandLine.regular_of_report`).
-/

namespace AnalysisPlan

open Console (Message Backend Cell)

namespace Console
namespace Message

/-! ## Regular messages -/

theorem regular_of_isText {m : Message} (h : m.isText = true) (hcounts : m.countsOverlong = false) :
    m.Regular := by
  cases m with
  | step current total description => exact hcounts
  | table headers rows title => cases h
  | pairs entries title => cases h
  | _ => trivial

theorem hasRoom_of_isText {m : Message} (h : m.isText = true) (columns : Nat) :
    m.HasRoom columns := by
  cases m <;> trivial

variable {headers : List String} {rows : List (List Cell)} {title : String}

theorem length_columns_table (title : String) (h : ∀ row ∈ rows, row.length ≤ headers.length) :
    (table headers rows title).columns.length = headers.length := by
  have hle : ∀ sizes : List Nat, (∀ size ∈ sizes, size ≤ headers.length) →
      sizes.foldl max headers.length = headers.length := by
    intro sizes hsizes
    induction sizes with
    | nil => rfl
    | cons size sizes ih =>
        obtain ⟨hsize, hrest⟩ := List.forall_mem_cons.1 hsizes
        rw [List.foldl_cons, Nat.max_eq_left hsize, ih hrest]
  rw [columns, List.length_map, List.length_range]
  exact hle _ fun size hsize => by
    obtain ⟨row, hrow, rfl⟩ := List.mem_map.1 hsize
    exact h row hrow

/-- A table with visible headers, under which all texts stand, is regular. -/
theorem regular_table (hne : headers ≠ []) (hvisible : ∀ h ∈ headers, 0 < Wrap.widest h.toList)
    (hrows : ∀ row ∈ rows, row.length ≤ headers.length ∧
      ∀ cell ∈ row, cell.isNumber = false) :
    (table headers rows title).Regular := by
  have hlength := length_columns_table title fun row hrow => (hrows row hrow).1
  refine ⟨⟨?_, fun c hc => ?_⟩, hrows⟩
  · intro hnone
    rw [hnone] at hlength
    exact hne (List.length_eq_zero_iff.1 hlength.symm)
  · obtain ⟨i, hi, hget⟩ := List.getElem_of_mem hc
    have hheader : i < headers.length := hlength ▸ hi
    have hown : c.header = some ⟨headers[i].toList, []⟩ := by
      rw [← hget]
      simp [columns, hheader]
    have hmem : (⟨headers[i].toList, []⟩ : Marked) ∈ c.texts := by
      simp [Column.texts, hown]
    exact Nat.lt_of_lt_of_le (hvisible _ (List.getElem_mem hheader)) (Column.widest_le _ hmem)

/-- Pairs are regular if one of them has a visible key and a visible value. -/
theorem regular_pairs {entries : List (String × String)} {e : String × String} (he : e ∈ entries)
    (hkey : 0 < Wrap.widest e.1.toList) (hvalue : 0 < Wrap.widest e.2.toList) :
    (pairs entries title).Regular := by
  refine ⟨List.cons_ne_nil _ _, fun c hc => ?_⟩
  simp only [columns, List.mem_cons, List.not_mem_nil, or_false] at hc
  rcases hc with rfl | rfl
  · exact Nat.lt_of_lt_of_le hkey
      (Column.widest_le ⟨e.1.toList, []⟩ (List.mem_map.2 ⟨e, he, rfl⟩))
  · exact Nat.lt_of_lt_of_le hvalue
      (Column.widest_le ⟨e.2.toList, []⟩ (List.mem_map.2 ⟨e, he, rfl⟩))

end Message
end Console

namespace CommandLine

open Console.Message (regular_of_isText hasRoom_of_isText regular_table regular_pairs
  length_columns_table)

/-! ## Messages of a report -/

/-- Whether all that entries say are single texts, and steps have numbers that can be
printed. -/
def InWords (entries : List Entry) : Prop :=
  ∀ m ∈ entries.filterMap Entry.message?, m.isText = true ∧ m.countsOverlong = false

theorem InWords.append {xs ys : List Entry} (hx : InWords xs) (hy : InWords ys) :
    InWords (xs ++ ys) := by
  intro m hm
  rw [List.filterMap_append, List.mem_append] at hm
  exact hm.elim (hx m) (hy m)

theorem inWords_notes (log : List LogEvent) : InWords (log.map .note) := by
  intro m hm
  simp [Entry.message?] at hm

theorem inWords_announced (showSteps : Bool) {messages : List Message}
    (h : ∀ m ∈ messages, m.isText = true ∧ m.countsOverlong = false) :
    InWords (announced showSteps messages) := by
  intro m hm
  unfold announced at hm
  cases showSteps with
  | false => cases hm
  | true => exact h m (by simpa [Entry.message?] using hm)

theorem inWords_complaint (failure : LoadFailure) : InWords (complaint failure) := by
  intro m hm
  cases failure with
  | missingFile path => cases List.mem_singleton.1 hm; exact ⟨rfl, rfl⟩
  | interrupted i => cases hm
  | fault f => cases List.mem_singleton.1 hm; exact ⟨rfl, rfl⟩

theorem countsOverlong_first {description : String} :
    (Message.step 1 2 description).countsOverlong = false := by
  have hone : Text.isOverlong 1 = false := by decide +kernel
  have htwo : Text.isOverlong 2 = false := by decide +kernel
  rw [Message.countsOverlong, hone, htwo]
  rfl

theorem inWords_evaluated (showSteps nameMissing : Bool) (p : Project) :
    InWords (evaluated showSteps nameMissing p).entries := by
  have hsteps : InWords (announced showSteps
      [.stepDetail ("plugins: " ++ String.intercalate ", " p.pluginIds),
       .step 2 2 "Evaluating project"]) := inWords_announced showSteps (by
    simp only [List.mem_cons, List.not_mem_nil, or_false]
    rintro m (rfl | rfl)
    · exact ⟨rfl, rfl⟩
    · exact ⟨rfl, by decide +kernel⟩)
  have htasks : ∀ q : Project, InWords (announced showSteps
      [.stepDetail s!"{q.graph.size} tasks registered"]) := fun q =>
    inWords_announced showSteps (List.forall_mem_singleton.2 ⟨rfl, rfl⟩)
  unfold evaluated
  split
  · exact hsteps.append (inWords_notes [_])
  · split
    · exact hsteps
    · exact (hsteps.append (inWords_notes _)).append (inWords_complaint _)
    · exact (hsteps.append (inWords_notes _)).append (htasks _)

theorem inWords_prepare (tree : FileTree) (current : Location) (target : Target)
    (showSteps : Bool) : InWords (prepare tree current target showSteps).entries := by
  have hstep : InWords
      (announced showSteps [.step 1 2 s!"Configuring project from {target.file}"]) :=
    inWords_announced showSteps (List.forall_mem_singleton.2 ⟨rfl, countsOverlong_first⟩)
  have hloaded := hstep.append
    (inWords_notes (Description.load tree current (Path.ofText target.file)).log)
  unfold prepare
  generalize Description.load tree current (Path.ofText target.file) = loading at hloaded ⊢
  cases hload : loading.outcome with
  | error failure =>
      simp only [hload]
      exact hloaded.append (inWords_complaint failure)
  | ok p =>
      simp only [hload]
      exact hloaded.append (inWords_evaluated _ _ _)

/-- A report says single texts first, and then what the command has to say about the
project. -/
theorem messages_conclude (prepared : Preparation) (say : Project → List Message × Ending)
    (h : InWords prepared.entries) :
    ∃ words, (∀ m ∈ words, m.isText = true ∧ m.countsOverlong = false) ∧
      ((conclude prepared say).messages = words ∨
        ∃ q, prepared.outcome = .ok q ∧ (conclude prepared say).messages = words ++ (say q).1) := by
  refine ⟨_, h, ?_⟩
  unfold conclude
  cases prepared.outcome with
  | error ending => exact .inl rfl
  | ok q =>
      refine .inr ⟨q, rfl, ?_⟩
      simp [Report.messages, List.filterMap_map, Function.comp_def, Entry.message?]

theorem regular_columnTable {header : String} (hvisible : 0 < Console.Wrap.widest header.toList)
    (entries : List String) (columns : Nat) :
    ∀ m ∈ columnTable header entries, m.Regular ∧ m.HasRoom columns := by
  intro m hm
  unfold columnTable at hm
  split at hm
  · cases hm
  · obtain rfl := List.mem_singleton.1 hm
    refine
      ⟨regular_table (List.cons_ne_nil _ _) (by simpa using hvisible) fun row hrow => ?_, trivial⟩
    obtain ⟨e, -, rfl⟩ := List.mem_map.1 hrow
    simp [Cell.isNumber]

theorem regular_describeTask (p : Project) (name : String) (columns : Nat) :
    ∀ m ∈ (describeTask p name).1, m.Regular ∧ m.HasRoom columns := by
  unfold describeTask
  cases p.graph.get? name with
  | none =>
      refine List.forall_mem_cons.2 ⟨⟨trivial, trivial⟩, fun m hm => ?_⟩
      split at hm
      · cases hm
      · obtain rfl := List.mem_singleton.1 hm
        exact ⟨trivial, trivial⟩
  | some t =>
      have hname : 0 < Console.Wrap.widest "Kind".toList := by decide
      have hkind : 0 < Console.Wrap.widest t.kind.name.toList := by
        cases t.kind <;> decide
      refine List.forall_mem_cons.2 ⟨⟨?_, trivial⟩, List.forall_mem_append.2 ⟨?_, ?_⟩⟩
      · exact regular_pairs (e := ("Kind", t.kind.name)) List.mem_cons_self hname hkind
      · exact regular_columnTable (by decide) t.sources columns
      · exact regular_columnTable (by decide) t.classpath columns

theorem regular_configurations (p : Project) (columns : Nat) :
    ∀ m ∈ configurationMessages p, m.Regular ∧ m.HasRoom columns := by
  refine List.forall_mem_singleton.2
    ⟨regular_table (List.cons_ne_nil _ _) (by decide) fun row hrow => ?_, trivial⟩
  obtain ⟨c, -, rfl⟩ := List.mem_map.1 hrow
  simp [configurationRow, Cell.isNumber]

def planTable (p : Project) : Message :=
  .table ["Task", "Kind", "Sources", "Classpath", "XML report"]
    ((p.graph.tasks.filter (·.kind != .lifecycle)).map planRow) "detekt tasks"

theorem planTable_mem (p : Project) : planTable p ∈ planMessages p := List.mem_cons_self

theorem planTable_rows (p : Project) :
    ∀ row ∈ (p.graph.tasks.filter (·.kind != .lifecycle)).map planRow,
      row.length ≤ 5 ∧ ∀ cell ∈ row, cell.isNumber = false := by
  intro row hrow
  obtain ⟨t, -, rfl⟩ := List.mem_map.1 hrow
  simp [planRow, Cell.isNumber]

theorem regular_planTable (p : Project) : (planTable p).Regular :=
  regular_table (List.cons_ne_nil _ _) (by decide) (planTable_rows p)

theorem regular_plan (p : Project) : ∀ m ∈ planMessages p, m.Regular := by
  have humbrella : ∀ u, (umbrellaMessage p.graph u).Regular := by
    intro u
    unfold umbrellaMessage
    split <;> trivial
  unfold planMessages
  simp only [List.forall_mem_cons]
  exact ⟨regular_planTable p, humbrella _, humbrella _, trivial, nofun⟩

/-- All messages of a report are regular. -/
theorem regular_of_report (tree : FileTree) (current : Location) (command : Command) :
    ∀ m ∈ (command.report tree current).messages, m.Regular := by
  have hconclude : ∀ showSteps say,
      command.report tree current =
        conclude (prepare tree current command.target showSteps) say →
      (∀ q, ∀ m ∈ (say q).1, m.Regular) →
      ∀ m ∈ (command.report tree current).messages, m.Regular := by
    intro showSteps say hreport hsay
    obtain ⟨words, hall, hmessages | ⟨q, -, hmessages⟩⟩ :=
      messages_conclude (prepare tree current command.target showSteps) say
        (inWords_prepare tree current command.target showSteps)
    all_goals rw [hreport, hmessages]
    · exact fun m hm => regular_of_isText (hall m hm).1 (hall m hm).2
    · rw [List.forall_mem_append]
      exact ⟨fun m hm => regular_of_isText (hall m hm).1 (hall m hm).2, hsay q⟩
  cases command with
  | plan target asDocument =>
      cases asDocument with
      | true => exact hconclude false _ rfl fun q => List.forall_mem_singleton.2 trivial
      | false => exact hconclude true _ rfl regular_plan
  | configurations target =>
      exact hconclude false _ rfl fun q m hm => (regular_configurations q 0 m hm).1
  | describe target task =>
      cases task with
      | none => exact hconclude false _ rfl fun q => nofun
      | some name =>
          exact hconclude false _ rfl fun q m hm => (regular_describeTask q name 0 m hm).1

end CommandLine

end AnalysisPlan
