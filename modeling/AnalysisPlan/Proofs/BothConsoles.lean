import AnalysisPlan.Proofs.AnsweredFailures

/-!
# One report on two consoles

What a command reports can be shown on the plain console and on the rich one. All messages
of a report are of a regular shape, and the branches that a plan shows are names of its
table, so that they have room beside their marks if the table has. Where the messages are
literal and their grids fit, the two consoles differ in nothing but the text that is
written, and both write all texts of the report (`CommandLine.launch_on_both_consoles`).
-/

namespace AnalysisPlan

open Console (Message Backend Cell)
open Text (Prints)

namespace CommandLine

open Console.Message (regular_of_isText hasRoom_of_isText length_columns_table)

/-! ## Branches of a plan -/

/-- What a task depends on in a graph in layers are analyses. -/
theorem exists_analysis_of_dependencies? {g : TaskGraph} {name d : String} {names : List String}
    (h : g.Layered) (hnames : g.dependencies? name = some names) (hd : d ∈ names) :
    ∃ t ∈ g.tasks, t.name = d ∧ t.kind = .analysis := by
  obtain ⟨needs, hneeds, rfl⟩ := Option.map_eq_some_iff.1 hnames
  obtain ⟨n, hn, rfl⟩ := Option.map_eq_some_iff.1 hneeds
  obtain ⟨-, m, hm, hname, hkind⟩ := h.edges n (TaskGraph.mem_of_node? hn).1 d hd
  exact ⟨m.task, TaskGraph.mem_tasks_of_mem hm, hname, hkind⟩

/-- The branches that a plan shows have room if its table fits, for they stand in it. -/
theorem hasRoom_plan {q : Project} {columns : Nat} (h : q.graph.Layered)
    (hfits : ∀ m ∈ planMessages q, Console.Grid.Fits columns m.columns) :
    ∀ m ∈ planMessages q, m.HasRoom columns := by
  have hbranches : ∀ name names, Message.umbrella name names ∈ planMessages q →
      ∀ d ∈ names, Console.Wrap.widest d.toList + 4 < columns := by
    intro name names hmem d hd
    obtain ⟨-, -, hnames⟩ := umbrella_mem_planMessages_iff.1 hmem
    obtain ⟨t, ht, rfl, hkind⟩ := exists_analysis_of_dependencies? h hnames hd
    have hshown : t ∈ q.graph.tasks.filter (·.kind != .lifecycle) :=
      List.mem_filter.2 ⟨ht, by rw [hkind]; decide⟩
    have hrow := List.mem_map_of_mem (f := planRow) hshown
    have hcell : Cell.text t.name ∈
        ((q.graph.tasks.filter (·.kind != .lifecycle)).map planRow).flatten :=
      List.mem_flatten.2 ⟨_, hrow, List.mem_cons_self⟩
    obtain ⟨c, hc, htext⟩ := (Message.holdsTexts_table _ _ _).held t.name.toList
      (List.mem_append_right _ (List.mem_map_of_mem (f := Cell.chars) hcell))
    have hlength : (planTable q).columns.length = 5 :=
      length_columns_table _ fun row hrow => (planTable_rows q row hrow).1
    have hwidest : Console.Wrap.widest t.name.toList ≤ c.widest :=
      Console.Column.widest_le _ htext
    have hnatural := Console.Grid.natural_add_le (hfits _ (planTable_mem q))
      (regular_planTable q).1 hc (by omega)
    rw [Console.Column.natural] at hnatural
    omega
  intro m hm
  cases m with
  | umbrella name names => exact hbranches name names hm
  | _ => trivial

/-- All messages of a report are regular, and the branches of a plan have room if its table
fits. -/
theorem messages_of_report (tree : FileTree) (current : Location) (command : Command)
    {columns : Nat}
    (hfits : ∀ m ∈ (command.report tree current).messages,
      Console.Grid.Fits columns m.columns) :
    ∀ m ∈ (command.report tree current).messages, m.Regular ∧ m.HasRoom columns := by
  have hwords : ∀ {words : List Message},
      (∀ m ∈ words, m.isText = true ∧ m.countsOverlong = false) →
      ∀ m ∈ words, m.Regular ∧ m.HasRoom columns := fun hwords m hm =>
    ⟨regular_of_isText (hwords m hm).1 (hwords m hm).2, hasRoom_of_isText (hwords m hm).1 columns⟩
  have hconclude : ∀ showSteps say,
      command.report tree current =
        conclude (prepare tree current command.target showSteps) say →
      (∀ q, (prepare tree current command.target showSteps).outcome = .ok q →
        (∀ m ∈ (say q).1, Console.Grid.Fits columns m.columns) →
        ∀ m ∈ (say q).1, m.Regular ∧ m.HasRoom columns) →
      ∀ m ∈ (command.report tree current).messages, m.Regular ∧ m.HasRoom columns := by
    intro showSteps say hreport hsay
    obtain ⟨words, hall, hmessages | ⟨q, hq, hmessages⟩⟩ :=
      messages_conclude (prepare tree current command.target showSteps) say
        (inWords_prepare tree current command.target showSteps)
    · rw [hreport, hmessages]
      exact hwords hall
    · rw [hreport, hmessages] at hfits ⊢
      rw [List.forall_mem_append] at hfits ⊢
      exact ⟨hwords hall, hsay q hq hfits.2⟩
  cases command with
  | plan target asDocument =>
      cases asDocument with
      | true =>
          refine hconclude false _ rfl fun q _ _ => ?_
          exact List.forall_mem_singleton.2 ⟨trivial, trivial⟩
      | false =>
          refine hconclude true _ rfl fun q hq hfits m hm => ?_
          obtain ⟨⟨loaded, hload, hevaluate⟩, -⟩ :=
            (prepare_yields tree current target true).returned q hq
          have hlayered := Configuring.layered_of_evaluate
            ((Description.Loaded.file _ _ _ hload).configured_with _) (.inl hevaluate)
          exact ⟨regular_plan q m hm, hasRoom_plan hlayered hfits m hm⟩
  | configurations target =>
      exact hconclude false _ rfl fun q _ _ => regular_configurations q columns
  | describe target task =>
      cases task with
      | none => exact hconclude false _ rfl fun q _ _ => nofun
      | some name => exact hconclude false _ rfl fun q _ _ => regular_describeTask q name columns

/-- All that is said when a command line is run whose log is not refused. -/
def said (s : Surroundings) (args : List String) : List Message :=
  match invocation args with
  | .error _ => []
  | .ok i => (i.command.map fun command => (i.report s command).messages).getD []

theorem said_of_invocation {s : Surroundings} {args : List String} {i : Invocation}
    {command : Option Command} (hargs : invocation args = .ok i) (hcommand : i.command = command) :
    said s args = (command.map fun command => (i.report s command).messages).getD [] := by
  simp only [said, hargs, hcommand]

theorem writeAll_rich {columns : Nat} {messages : List Message}
    (h : ∀ m ∈ messages, ∃ out, Console.Rich.write columns m = .ok out ∧
      ∀ s ∈ m.texts, Prints out.toList s) :
    ∃ out, writeAll .rich columns messages = .ok out ∧
      ∀ m ∈ messages, ∀ s ∈ m.texts, Prints out.toList s := by
  induction messages with
  | nil => exact ⟨"", rfl, nofun⟩
  | cons m messages ih =>
      obtain ⟨⟨first, hfirst, hprinted⟩, hmessages⟩ := List.forall_mem_cons.1 h
      obtain ⟨others, hothers, hbehind⟩ := ih hmessages
      refine ⟨first ++ others, ?_, List.forall_mem_cons.2 ⟨fun s hs => ?_, fun m hm s hs => ?_⟩⟩
      · rw [writeAll, Backend.write, hfirst, hothers]
        rfl
      · rw [String.toList_append]
        exact (hprinted s hs).mono (Text.squeeze_isInfix (List.prefix_append _ _).isInfix)
      · rw [String.toList_append]
        exact (hbehind m hm s hs).mono (Text.squeeze_isInfix (List.suffix_append _ _).isInfix)

theorem prints_plainText {messages : List Message} (h : ∀ m ∈ messages, m.Regular) :
    ∀ m ∈ messages, ∀ s ∈ m.texts, Prints (plainText messages).toList s := by
  induction messages with
  | nil => nofun
  | cons m messages ih =>
      obtain ⟨hm, hmessages⟩ := List.forall_mem_cons.1 h
      have hsplit : (plainText (m :: messages)).toList =
          (Console.Plain.write m).toList ++ (plainText messages).toList := String.toList_append
      rw [hsplit]
      refine List.forall_mem_cons.2 ⟨fun s hs => ?_, fun m hm s hs => ?_⟩
      · exact (Console.Plain.prints_of_regular hm s hs).mono
          (Text.squeeze_isInfix (List.prefix_append _ _).isInfix)
      · exact (ih hmessages m hm s hs).mono
          (Text.squeeze_isInfix (List.suffix_append _ _).isInfix)

/-- Whether a program ends on two consoles alike, except for the text that is written, and
both write all texts of what is said. -/
def Agree (messages : List Message) (rich plain : Except Escape Output) : Prop :=
  ∃ out : String, rich = plain.map ({ · with out := out }) ∧
    ∀ o, plain = .ok o → ∀ m ∈ messages, ∀ text ∈ m.texts,
      Prints o.out.toList text ∧ Prints out.toList text

theorem agree_of_eq {messages : List Message} {rich plain : Except Escape Output}
    (h : rich = plain) (hnone : ∀ o, plain = .ok o → messages = []) :
    Agree messages rich plain := by
  cases plain with
  | error escape => exact ⟨"", h, nofun⟩
  | ok o =>
      rw [hnone o rfl]
      exact ⟨o.out, h, fun _ _ => nofun⟩

theorem agree_of_ends (current : Location) (i : Invocation) (r : Report) {out : String}
    (hrich : ∀ m ∈ r.messages, ∀ s ∈ m.texts, Prints out.toList s)
    (hplain : ∀ m ∈ r.messages, ∀ s ∈ m.texts, Prints (plainText r.messages).toList s) :
    Agree r.messages (r.ends current i out) (r.ends current i (plainText r.messages)) := by
  refine ⟨out, ?_, fun o ho m hm text htext => ?_⟩
  · unfold Report.ends
    cases r.ending with
    | exit status =>
        exact congrArg Except.ok (withLog_set_out current i r.log
          { status, out := plainText r.messages } out)
    | interrupted j => rfl
    | nameMissing => rfl
  · unfold Report.ends at ho
    split at ho
    · cases ho
      rw [withLog_out]
      exact ⟨hplain m hm text htext, hrich m hm text htext⟩
    · cases ho
    · cases ho

/-- Where all messages are literal and their grids fit, a program ends on the rich console
as it does on the plain one, in everything but the text that it writes. Both consoles
print every text of every message. -/
theorem launch_on_both_consoles (refused : String → Option Refusal) (s : Surroundings)
    (args : List String) (hcolumns : 2 ≤ s.columns)
    (hliteral : ∀ m ∈ said s args, m.Literal)
    (hfits : ∀ m ∈ said s args, Console.Grid.Fits s.columns m.columns) :
    Agree (said s args) (launch refused { s with console := "rich" } args)
      (launch refused { s with console := "plain" } args) := by
  have hrich : Backend.ofName "rich" = .ok .rich := rfl
  have hplain : Backend.ofName "plain" = .ok .plain := rfl
  cases hargs : invocation args with
  | error r =>
      refine agree_of_eq ?_ fun _ _ => ?_
      · simp only [launch, hargs]
      · simp only [said, hargs]
  | ok i =>
      cases hopened : i.logEscape refused s.current with
      | some refusal =>
          refine agree_of_eq ?_ fun o ho => ?_
          · simp only [launch, hargs, hrich, hplain, hopened]
          · simp only [launch, hargs, hplain, hopened] at ho
            cases ho
      | none =>
          cases hcommand : i.command with
          | none =>
              refine agree_of_eq ?_ fun _ _ => ?_
              · simp only [launch, hargs, hrich, hplain, hopened, Invocation.run, hcommand]
              · exact said_of_invocation hargs hcommand
          | some command =>
              have hmessages : said s args = (i.report s command).messages :=
                said_of_invocation hargs hcommand
              rw [hmessages] at hliteral hfits ⊢
              have hshape := messages_of_report (i.opened s.current s.tree) s.current command hfits
              obtain ⟨out, hwritten, hprinted⟩ := writeAll_rich fun m hm =>
                Console.Rich.exists_write hcolumns (hliteral m hm) (hshape m hm).1 (hfits m hm)
                  (hshape m hm).2
              rw [launch_of_written (s := { s with console := "rich" }) hargs hcommand hrich hopened
                  hwritten,
                launch_of_written (s := { s with console := "plain" }) hargs hcommand hplain hopened
                  (writeAll_plain _ fun m hm => (hshape m hm).1)]
              exact agree_of_ends s.current i _ hprinted
                (prints_plainText fun m hm => (hshape m hm).1)

theorem launch_on_both_consoles_plan :
    let s : Surroundings :=
      { describedBy "\x7b\"plugins\": [\"com.android.test\", \"kotlin-android\"]\x7d" with
        columns := 100 }
    let args := ["plan", "p.json"]
    (∀ m ∈ said s args, m.Literal ∧ Console.Grid.Fits s.columns m.columns) ∧
      .umbrella "detektMain" ["detektDebug"] ∈ said s args ∧
      Agree (said s args) (launch (fun _ => none) { s with console := "rich" } args)
        (launch (fun _ => none) { s with console := "plain" } args) := by
  intro s args
  have hsaid : (∀ m ∈ said s args, m.Literal ∧ Console.Grid.Fits s.columns m.columns) ∧
      .umbrella "detektMain" ["detektDebug"] ∈ said s args := by decide +kernel
  exact ⟨hsaid.1, hsaid.2, launch_on_both_consoles (fun _ => none) s args (by decide)
    (fun m hm => (hsaid.1 m hm).1) fun m hm => (hsaid.1 m hm).2⟩

/-- A path that is shown in an error is read as markup: a closing tag ends the rich run
without a status, and what looks like an opening tag is left out. -/
theorem not_forall_launch_on_both_consoles :
    (¬ ∀ (s : Surroundings) (args : List String) (plain : Output), 2 ≤ s.columns →
      (∀ m ∈ said s args, Console.Grid.Fits s.columns m.columns) →
      launch (fun _ => none) { s with console := "plain" } args = .ok plain →
      ∃ rich, launch (fun _ => none) { s with console := "rich" } args = .ok rich ∧
        rich.status = plain.status) ∧
    ¬ ∀ (s : Surroundings) (args : List String) (plain rich : Output), 2 ≤ s.columns →
      (∀ m ∈ said s args, Console.Grid.Fits s.columns m.columns) →
      launch (fun _ => none) { s with console := "plain" } args = .ok plain →
      launch (fun _ => none) { s with console := "rich" } args = .ok rich →
      ∀ m ∈ said s args, ∀ text ∈ m.texts, Prints plain.out.toList text →
        Prints rich.out.toList text := by
  refine ⟨fun hall => ?_, fun hall => ?_⟩
  · obtain ⟨rich, hrich, -⟩ := hall emptySurroundings ["configurations", "[/x]"]
      { status := 1, out := "  [error] Project description not found: [/x]\n" } (by decide)
      (by decide +kernel) (by decide +kernel)
    have hescapes : launch (fun _ => none) { emptySurroundings with console := "rich" }
        ["configurations", "[/x]"] =
          .error (.breakdown (.display (.markup (.unmatched "/x" 35)))) := by decide +kernel
    cases hescapes.symm.trans hrich
  · have hlost := hall emptySurroundings ["configurations", "[x]"]
      { status := 1, out := "  [error] Project description not found: [x]\n" }
      { status := 1, out := "  ✗ Project description not found: \n" } (by decide)
      (by decide +kernel) (by decide +kernel) (by decide +kernel)
      (.error "Project description not found: [x]") (by decide +kernel) _ List.mem_cons_self
    exact absurd (hlost (by decide +kernel)) (by decide +kernel)

end CommandLine

end AnalysisPlan
