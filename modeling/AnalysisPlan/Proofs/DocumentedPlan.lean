import AnalysisPlan.Proofs.ShownUmbrellas
import AnalysisPlan.Proofs.WrittenLines

/-!
# The plan that a document holds

A document can be read back: its text is that of the document alone, in ASCII, and what
is read from it leads to the name of the project, to all tasks with all their fields, and
to the umbrellas (`Plan.ofDocument?_document`). A run that writes a plan as a document
writes nothing else, and writes it in the same way on every console, except that the rich
one shows nothing on a screen without cells (`CommandLine.run_plan_document`).
-/

namespace AnalysisPlan

/-! ## Reading a document -/

namespace Json.Value

def at? (key : String) : Value → Option Value
  | object fields => fields.lookup key
  | _ => none

def text? : Value → Option String
  | str s => some s
  | _ => none

def truth? : Value → Option Bool
  | bool b => some b
  | _ => none

def items? {α : Type} (item : Value → Option α) : Value → Option (List α)
  | list vs => vs.mapM item
  | _ => none

def orNull? {α : Type} (read : Value → Option α) : Value → Option (Option α)
  | null => some none
  | v => (read v).map some

def fields? {α : Type} (field : Value → Option α) : Value → Option (List (String × α))
  | object fields => fields.mapM fun f => (field f.2).map (f.1, ·)
  | _ => none

end Json.Value

def TaskKind.ofName? (name : String) : Option TaskKind :=
  [analysis, baseline, generateConfig, lifecycle].find? (·.name == name)

def ReportPaths.ofDocument? (v : Json.Value) : Option ReportPaths := do
  return {
    xml := ← (← v.at? "xml").text?
    html := ← (← v.at? "html").text?
    txt := ← (← v.at? "txt").text? }

def AnalysisSettings.ofDocument? (v : Json.Value) : Option AnalysisSettings := do
  return {
    debug := ← (← v.at? "debug").truth?
    parallel := ← (← v.at? "parallel").truth?
    disableDefaultRuleSets := ← (← v.at? "disable_default_rule_sets").truth?
    buildUponDefaultConfig := ← (← v.at? "build_upon_default_config").truth?
    failFast := ← (← v.at? "fail_fast").truth?
    autoCorrect := ← (← v.at? "auto_correct").truth?
    ignoreFailures := ← (← v.at? "ignore_failures").truth?
    configFiles := ← (← v.at? "config_files").items? Json.Value.text?
    baseline := ← (← v.at? "baseline").orNull? Json.Value.text? }

def Task.ofDocument? (v : Json.Value) : Option Task := do
  return {
    name := ← (← v.at? "name").text?
    kind := ← TaskKind.ofName? (← (← v.at? "kind").text?)
    group := ← (← v.at? "group").text?
    description := ← (← v.at? "description").text?
    sources := ← (← v.at? "sources").items? Json.Value.text?
    includes := ← (← v.at? "includes").items? Json.Value.text?
    excludes := ← (← v.at? "excludes").items? Json.Value.text?
    classpath := ← (← v.at? "classpath").items? Json.Value.text?
    reports := ← (← v.at? "reports").orNull? ReportPaths.ofDocument?
    settings := ← (← v.at? "settings").orNull? AnalysisSettings.ofDocument?
    toolConfigurations := ← (← v.at? "tool_configurations").items? Json.Value.text? }

/-- What a document says about a project. -/
structure Plan where
  project : String
  tasks : List Task
  umbrellas : List (String × List String)
deriving Repr, DecidableEq

def Plan.ofDocument? (v : Json.Value) : Option Plan := do
  return {
    project := ← (← v.at? "project").text?
    tasks := ← (← v.at? "tasks").items? Task.ofDocument?
    umbrellas := ← (← v.at? "umbrellas").fields? (Json.Value.items? Json.Value.text?) }

def Project.plan (p : Project) : Plan where
  project := p.name
  tasks := p.graph.tasks
  umbrellas := p.graph.umbrellas

/-- What is read item by item comes back from what was written item by item. -/
theorem mapM_map_some {α β : Type} {write : α → β} {read : β → Option α}
    (h : ∀ x, read (write x) = some x) (xs : List α) : (xs.map write).mapM read = some xs := by
  induction xs with
  | nil => rfl
  | cons x xs ih =>
      rw [List.map_cons, List.mapM_cons, h, ih]
      rfl

@[simp] theorem items?_textsDocument (texts : List String) :
    (textsDocument texts).items? Json.Value.text? = some texts :=
  mapM_map_some (fun s => (rfl : Json.Value.text? (.str s) = some s)) texts

@[simp] theorem orNull?_textDocument? (text : Option String) :
    (textDocument? text).orNull? Json.Value.text? = some text := by
  cases text <;> rfl

@[simp] theorem TaskKind.ofName?_name (kind : TaskKind) : ofName? kind.name = some kind := by
  cases kind <;> decide

theorem ReportPaths.ofDocument?_document (r : ReportPaths) :
    ofDocument? r.document = some r := rfl

theorem AnalysisSettings.ofDocument?_document (s : AnalysisSettings) :
    ofDocument? s.document = some s := by
  simp [ofDocument?, document, Json.Value.at?, List.lookup_cons, Json.Value.truth?]

/-- What may be absent comes back if what is there is not written as null. -/
theorem orNull?_getD {α : Type} {write : α → Json.Value} {read : Json.Value → Option α}
    (h : ∀ x, read (write x) = some x) (hnull : ∀ x, write x ≠ .null) (value : Option α) :
    ((value.map write).getD .null).orNull? read = some value := by
  cases value with
  | none => rfl
  | some x =>
      have hread : (write x).orNull? read = (read (write x)).map some := by
        rw [Json.Value.orNull?]
        exact hnull x
      exact hread.trans (congrArg (Option.map some) (h x))

theorem Task.ofDocument?_document (t : Task) : ofDocument? t.document = some t := by
  have hreports := orNull?_getD ReportPaths.ofDocument?_document (fun _ => nofun) t.reports
  have hsettings := orNull?_getD AnalysisSettings.ofDocument?_document (fun _ => nofun) t.settings
  simp [ofDocument?, document, Json.Value.at?, List.lookup_cons, Json.Value.text?, hreports,
    hsettings]

/-- From the document of a project its plan can be told. -/
theorem Plan.ofDocument?_document (p : Project) : ofDocument? p.document = some p.plan := by
  have htasks : (Json.Value.list (p.graph.tasks.map Task.document)).items? Task.ofDocument? =
      some p.graph.tasks := mapM_map_some Task.ofDocument?_document _
  have humbrellas : (Json.Value.object (p.graph.umbrellas.map fun u =>
      (u.1, textsDocument u.2))).fields? (Json.Value.items? Json.Value.text?) =
        some p.graph.umbrellas :=
    mapM_map_some (fun u => by simp) _
  simp [ofDocument?, Project.document, Project.plan, Json.Value.at?, List.lookup_cons,
    Json.Value.text?, htasks, humbrellas]

/-! ## The text of a document -/

section Legible

open Json.Value (Legible)

theorem legible_textsDocument (n : Nat) (texts : List String) :
    Legible (n + 1) (textsDocument texts) := by
  refine .list fun v hv => ?_
  obtain ⟨s, -, rfl⟩ := List.mem_map.1 hv
  exact .str n s

theorem legible_textDocument? (n : Nat) (text : Option String) :
    Legible n (textDocument? text) := by
  cases text with
  | none => exact .null n
  | some s => exact .str n s

theorem legible_getD {α : Type} {n : Nat} {write : α → Json.Value}
    (h : ∀ x, Legible n (write x)) (value : Option α) :
    Legible n ((value.map write).getD .null) := by
  cases value with
  | none => exact .null n
  | some x => exact h x

theorem ReportPaths.legible_document (n : Nat) (r : ReportPaths) :
    Legible (n + 1) r.document := by
  refine .object (show ["xml", "html", "txt"].Nodup by decide) ?_
  simp only [List.forall_mem_cons]
  exact ⟨.str n _, .str n _, .str n _, List.forall_mem_nil _⟩

theorem AnalysisSettings.legible_document (n : Nat) (s : AnalysisSettings) :
    Legible (n + 2) s.document := by
  refine .object (show ["debug", "parallel", "disable_default_rule_sets",
    "build_upon_default_config", "fail_fast", "auto_correct", "ignore_failures", "config_files",
    "baseline"].Nodup by decide) ?_
  simp only [List.forall_mem_cons]
  exact ⟨.bool _ _, .bool _ _, .bool _ _, .bool _ _, .bool _ _, .bool _ _, .bool _ _,
    legible_textsDocument n _, legible_textDocument? _ _, List.forall_mem_nil _⟩

/-- A task has texts in its settings, and these in a field. -/
theorem Task.legible_document (n : Nat) (t : Task) : Legible (n + 3) t.document := by
  refine .object (show ["name", "kind", "group", "description", "sources", "includes",
    "excludes", "classpath", "reports", "settings", "tool_configurations"].Nodup by decide) ?_
  simp only [List.forall_mem_cons]
  exact ⟨.str _ _, .str _ _, .str _ _, .str _ _, legible_textsDocument _ _,
    legible_textsDocument _ _, legible_textsDocument _ _, legible_textsDocument _ _,
    legible_getD (ReportPaths.legible_document (n + 1)) _,
    legible_getD (AnalysisSettings.legible_document n) _, legible_textsDocument _ _,
    List.forall_mem_nil _⟩

theorem TaskGraph.nodup_umbrellas (g : TaskGraph) : (g.umbrellas.map Prod.fst).Nodup := by
  have hnames : Umbrella.main.name ≠ Umbrella.test.name := by decide
  unfold umbrellas
  cases hmain : g.dependencies? Umbrella.main.name <;>
    cases htest : g.dependencies? Umbrella.test.name <;> simp [hmain, htest, hnames]

/-- The document of a plan can be read back, whatever its names are. -/
theorem Project.legible_document (p : Project) : Legible 5 p.document := by
  have htasks : Legible 4 (.list (p.graph.tasks.map Task.document)) := by
    refine .list fun v hv => ?_
    obtain ⟨t, -, rfl⟩ := List.mem_map.1 hv
    exact t.legible_document 0
  have humbrellas : Legible 4
      (.object (p.graph.umbrellas.map fun u => (u.1, textsDocument u.2))) := by
    refine .object ?_ fun f hf => ?_
    · rw [List.map_map]
      exact p.graph.nodup_umbrellas
    · obtain ⟨u, -, rfl⟩ := List.mem_map.1 hf
      exact legible_textsDocument 2 u.2
  refine .object (show ["project", "tasks", "umbrellas"].Nodup by decide) ?_
  simp only [List.forall_mem_cons]
  exact ⟨.str _ _, htasks, humbrellas, List.forall_mem_nil _⟩

end Legible

theorem TaskGraph.increasing_of_dependencies? {g : TaskGraph} {name : String}
    {names : List String} (h : g.dependencies? name = some names) :
    names.Pairwise (· < ·) := by
  obtain ⟨needs, -, rfl⟩ := Option.map_eq_some_iff.1 h
  exact needs.increasing

/-! ## A run that writes a document -/

namespace CommandLine

open Console (Backend Message)

theorem mem_plan_umbrellas {q : Project} {name : String} {names : List String} :
    (name, names) ∈ q.plan.umbrellas ↔
      ∃ u : Umbrella, u.name = name ∧ q.graph.dependencies? name = some names := by
  have hinjective : Function.Injective fun u : String × List String =>
      (u.1, textsDocument u.2) := by
    intro u v h
    injection h with hname hnames
    exact Prod.ext hname (textsDocument_injective hnames)
  rw [← mem_umbrellas_iff]
  exact (List.mem_map_of_injective hinjective).symm

/-- The text of a plan as a document. -/
def documentText (p : Project) : String := Json.write p.document ++ "\n"

theorem read_document (p : Project) {behind : List Char}
    (h : Json.Reader.skip behind = []) :
    Json.read ((Json.write p.document).toList ++ behind) = .ok p.document :=
  Json.read_write p.legible_document (by decide) h

theorem ascii_document (p : Project) : ∀ c ∈ (Json.write p.document).toList, c.toNat < 128 := by
  rw [Json.write, String.toList_ofList]
  exact (Json.neat_writeAt p.legible_document 0).ascii

/-- The text of a document on a console. The rich one shows nothing on a screen without
cells. -/
def shownDocument (backend : Backend) (columns : Nat) (p : Project) : String :=
  if backend = .rich ∧ columns = 0 then "" else documentText p

theorem writeAll_document (backend : Backend) (columns : Nat) (p : Project) :
    writeAll backend columns [.raw (Json.write p.document)] =
      .ok (shownDocument backend columns p) := by
  have hwrite : backend.write columns (.raw (Json.write p.document)) =
      .ok (shownDocument backend columns p) := by
    rw [Json.write, Console.Backend.write_raw (Json.neat_writeAt p.legible_document 0),
      String.ofList_append]
    rfl
  rw [writeAll, hwrite]
  exact congrArg Except.ok String.append_empty

/-- A document is all that is said. -/
theorem messages_of_document {tree : FileTree} {current : Location} {target : Target}
    (hexit : ((Command.plan target true).report tree current).ending = .exit 0) :
    ∃ loaded q, (Description.load tree current (Path.ofText target.file)).outcome = .ok loaded ∧
      Configuring.evaluate (ignoring target.ignored loaded) = .ok () q ∧
      ((Command.plan target true).report tree current).messages =
        [.raw (Json.write q.document)] := by
  obtain ⟨q, steps, ⟨loaded, hload, hq⟩, hsteps, hmessages⟩ :=
    conclude_of_exit (prepare_yields tree current target false) hexit
  have hnone : steps = [] := List.eq_nil_iff_forall_not_mem.2 fun m hm => by
    cases (hsteps m hm).1
  rw [hnone] at hmessages
  exact ⟨loaded, q, hload, hq, hmessages⟩

theorem withLog_set_out (current : Location) (i : Invocation) (log : List LogEvent) (o : Output)
    (text : String) :
    withLog current i log { o with out := text } =
      { withLog current i log o with out := text } := by
  unfold withLog
  split
  · rfl
  · split <;> rfl

/-- A report that ends by a status, and whose messages can be written, is a run. -/
theorem run_of_report {s : Surroundings} {args : List String} {i : Invocation}
    {command : Command} {backend : Backend} {status : Nat} {text : String}
    (hargs : invocation args = .ok i) (hcommand : i.command = some command)
    (hbackend : Backend.ofName s.console = .ok backend)
    (hending : (command.report s.tree s.current).ending = .exit status)
    (hwritten : writeAll backend s.columns (command.report s.tree s.current).messages =
      .ok text) :
    run s args = .ok (withLog s.current i (command.report s.tree s.current).log
      { status, out := text }) := by
  simp only [run, hargs, hbackend, Invocation.run, hcommand, hwritten, hending]

/-- A run that writes a document does so on every console, and all else is the same. -/
theorem exists_of_document {s : Surroundings} {args : List String} {i : Invocation}
    {target : Target} {out : Output} (hargs : invocation args = .ok i)
    (hcommand : i.command = some (.plan target true)) (hrun : run s args = .ok out)
    (hstatus : out.status = 0) :
    ∃ loaded q,
      (Description.load s.tree s.current (Path.ofText target.file)).outcome = .ok loaded ∧
      Configuring.evaluate (ignoring target.ignored loaded) = .ok () q ∧
      ∀ console columns backend, Backend.ofName console = .ok backend →
        run { s with console, columns } args =
          .ok { out with out := shownDocument backend columns q } := by
  obtain ⟨hexit, backend, hbackend, hwritten⟩ := run_of_exit hargs hcommand hrun hstatus
  obtain ⟨loaded, q, hload, hq, hmessages⟩ := messages_of_document hexit
  generalize out.out = written at hwritten
  cases hrun.symm.trans (run_of_report hargs hcommand hbackend hexit hwritten)
  refine ⟨loaded, q, hload, hq, fun console columns backend' hconsole => ?_⟩
  have hshown : writeAll backend' columns
      ((Command.plan target true).report s.tree s.current).messages =
        .ok (shownDocument backend' columns q) := by
    rw [hmessages, writeAll_document]
  rw [← withLog_set_out]
  exact run_of_report (s := { s with console, columns }) hargs hcommand hconsole hexit hshown

/-- A plan that ends by status 0 and was asked for as a document has one text to write: a
JSON document in ASCII with a line break behind it. It is read as the document of the
evaluated project, which leads to the name of the project, to all tasks as they were
registered, and to the umbrellas whose names are taken, with what the tasks of these names
depend on in increasing order. On every console the run writes this text and nothing else,
except that it writes nothing on a rich one with a screen without cells. -/
theorem run_plan_document (s : Surroundings) (args : List String) (i : Invocation)
    (target : Target) (out : Output) (hargs : invocation args = .ok i)
    (hcommand : i.command = some (.plan target true)) (hrun : run s args = .ok out)
    (hstatus : out.status = 0) :
    ∃ loaded q document umbrellas,
      (Description.load s.tree s.current (Path.ofText target.file)).outcome = .ok loaded ∧
      Configuring.evaluate (ignoring target.ignored loaded) = .ok () q ∧
      (∀ c ∈ document.toList, c.toNat < 128) ∧
      Json.read document.toList = .ok q.document ∧
      Json.read (document ++ "\n").toList = .ok q.document ∧
      Plan.ofDocument? q.document =
        some { project := q.name, tasks := q.graph.tasks, umbrellas } ∧
      (umbrellas.map Prod.fst).Nodup ∧
      (∀ name names, (name, names) ∈ umbrellas ↔
        ∃ u : Umbrella, u.name = name ∧ q.graph.dependencies? name = some names) ∧
      (∀ name names, (name, names) ∈ umbrellas → names.Pairwise (· < ·)) ∧
      ∀ console columns backend, Backend.ofName console = .ok backend →
        run { s with console, columns } args =
          .ok { out with
            out := if backend = .rich ∧ columns = 0 then "" else document ++ "\n" } := by
  obtain ⟨loaded, q, hload, hq, hshown⟩ := exists_of_document hargs hcommand hrun hstatus
  refine ⟨loaded, q, Json.write q.document, q.plan.umbrellas, hload, hq, ascii_document q, ?_, ?_,
    Plan.ofDocument?_document q, q.graph.nodup_umbrellas, fun name names => mem_plan_umbrellas,
    fun name names hmem => ?_, hshown⟩
  · rw [← List.append_nil (Json.write q.document).toList]
    exact read_document q rfl
  · rw [String.toList_append]
    exact read_document q rfl
  · obtain ⟨u, -, hdeps⟩ := mem_plan_umbrellas.1 hmem
    exact TaskGraph.increasing_of_dependencies? hdeps

theorem invocation_plan_document : invocation ["plan", "p.json", "--json"] =
    .ok { command := some (.plan { file := "p.json" } true) } := by decide +kernel

theorem exists_of_status {s : Surroundings} {args : List String}
    (h : (run s args).toOption.any (·.status == 0) = true) :
    ∃ out, run s args = .ok out ∧ out.status = 0 := by
  cases hrun : run s args with
  | error b =>
      rw [hrun] at h
      cases h
  | ok out =>
      rw [hrun] at h
      exact ⟨out, rfl, by simpa [Except.toOption] using h⟩

theorem run_plan_document_escaped :
    ∃ (s : Surroundings) (out : Output) (q : Project),
      run s ["plan", "p.json", "--json"] = .ok out ∧ out.status = 0 ∧ q.name = "\t\"😀" ∧
      Json.read out.out.toList = .ok q.document := by
  have hreads : ∀ s, s.console = "plain" →
      (run s ["plan", "p.json", "--json"]).toOption.any (·.status == 0) = true →
      (Description.load s.tree s.current (Path.ofText "p.json")).evaluates
        (fun _ q => q.name == "\t\"😀") = true →
      ∃ (out : Output) (q : Project), run s ["plan", "p.json", "--json"] = .ok out ∧
        out.status = 0 ∧ q.name = "\t\"😀" ∧ Json.read out.out.toList = .ok q.document := by
    intro s hplain hends hname
    obtain ⟨out, hrun, hstatus⟩ := exists_of_status hends
    obtain ⟨loaded, q, hload, hq, htest⟩ := Description.Loading.exists_of_evaluates hname
    obtain ⟨loaded', q', document, -, hload', hq', -, -, hread, -, -, -, -, hshown⟩ :=
      run_plan_document s _ _ { file := "p.json" } out invocation_plan_document rfl hrun hstatus
    rw [ignoring_nothing] at hq'
    cases hload.symm.trans hload'
    cases hq.symm.trans hq'
    have hsame := hshown s.console s.columns .plain (by rw [hplain]; rfl)
    rw [hrun] at hsame
    refine ⟨out, q, hrun, hstatus, by simpa using htest, ?_⟩
    rw [Except.ok.inj hsame]
    exact hread
  exact ⟨_, hreads (describedBy "\x7b\"name\": \"\\t\\\"\\ud83d\\ude00\"\x7d") rfl
    (by decide +kernel) (by decide +kernel)⟩

/-- On a screen without cells the two consoles differ. -/
theorem not_forall_document_on_consoles :
    ¬ ∀ (s : Surroundings) (args : List String) (i : Invocation) (target : Target)
        (plain rich : Output),
      invocation args = .ok i → i.command = some (.plan target true) →
      run { s with console := "plain" } args = .ok plain → plain.status = 0 →
      run { s with console := "rich" } args = .ok rich → rich.status = 0 →
      plain.out = rich.out := by
  intro hall
  have hno : ∀ s, s.columns = 0 →
      (run s ["plan", "p.json", "--json"]).toOption.any (·.status == 0) = true → False := by
    intro s hscreen hends
    obtain ⟨out, hrun, hstatus⟩ := exists_of_status hends
    obtain ⟨-, q, -, -, hshown⟩ :=
      exists_of_document invocation_plan_document rfl hrun hstatus
    have hsame := hall s _ _ _ _ _ invocation_plan_document rfl
      (hshown "plain" s.columns .plain rfl) hstatus (hshown "rich" s.columns .rich rfl) hstatus
    rw [hscreen] at hsame
    exact absurd (congrArg String.length hsame) (by simp [shownDocument, documentText])
  exact hno { describedBy "\x7b\x7d" with columns := 0 } rfl (by decide +kernel)

end CommandLine

end AnalysisPlan
