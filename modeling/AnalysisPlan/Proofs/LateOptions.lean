import AnalysisPlan.Proofs.Agreement
import AnalysisPlan.Proofs.FailedRequests

/-!
# Options may be set late

Applying the analysis plugin completes the options where they are silent, and reads
nothing else of them: the tasks are planned when the project is evaluated, and the version
of the analyser is looked up when its configuration is resolved. So options that are
set by hand may be set before the plugin is applied or after it, as long as they do not
silence again what is completed (`AnalysisOptions.Edit.Fills`). What was applied is the same
either way, apart from what was reported (`Configuring.apply_edited`), and so is all that
comes of it (`Configuring.edit_early_or_late`).
-/

namespace AnalysisPlan

/-- New values for some of the options. -/
structure AnalysisOptions.Edit where
  toolVersion : Option (Option String) := none
  input : Option (List String) := none
  config : Option (List String) := none
  baseline : Option (Option String) := none
  reportsDir : Option String := none
  customReportsDir : Option (Option String) := none
  debug : Option Bool := none
  parallel : Option Bool := none
  disableDefaultRuleSets : Option Bool := none
  buildUponDefaultConfig : Option Bool := none
  failFast : Option Bool := none
  autoCorrect : Option Bool := none
  ignoreFailures : Option Bool := none
  ignoredVariants : Option (List String) := none
  ignoredBuildTypes : Option (List String) := none
  ignoredFlavors : Option (List String) := none
deriving Repr, DecidableEq

namespace AnalysisOptions

/-- The options with their new values. -/
def edit (o : AnalysisOptions) (e : Edit) : AnalysisOptions where
  toolVersion := e.toolVersion.getD o.toolVersion
  input := e.input.getD o.input
  config := e.config.getD o.config
  baseline := e.baseline.getD o.baseline
  reportsDir := e.reportsDir.getD o.reportsDir
  customReportsDir := e.customReportsDir.getD o.customReportsDir
  debug := e.debug.getD o.debug
  parallel := e.parallel.getD o.parallel
  disableDefaultRuleSets := e.disableDefaultRuleSets.getD o.disableDefaultRuleSets
  buildUponDefaultConfig := e.buildUponDefaultConfig.getD o.buildUponDefaultConfig
  failFast := e.failFast.getD o.failFast
  autoCorrect := e.autoCorrect.getD o.autoCorrect
  ignoreFailures := e.ignoreFailures.getD o.ignoreFailures
  ignoredVariants := e.ignoredVariants.getD o.ignoredVariants
  ignoredBuildTypes := e.ignoredBuildTypes.getD o.ignoredBuildTypes
  ignoredFlavors := e.ignoredFlavors.getD o.ignoredFlavors

/-- An edit that chooses neither an empty directory for the reports nor an empty list of
configuration files. -/
def Edit.Fills (e : Edit) : Prop := e.reportsDir ≠ some "" ∧ e.config ≠ some []

instance (e : Edit) : Decidable e.Fills := inferInstanceAs (Decidable (_ ∧ _))

end AnalysisOptions

namespace Project

/-- A project whose options are edited, one edit after the other. -/
def editing (p : Project) (edits : List AnalysisOptions.Edit) : Project :=
  { p with options := edits.foldl AnalysisOptions.edit p.options }

/-- The coordinates of the configuration of a name as they are now. -/
def coordinates (p : Project) (name : String) : Except Fault (List String) :=
  (p.configuration name).map p.resolvedOf

/-- `q` is `p` with its options edited, apart from what was asked and reported. -/
structure Edited (edits : List AnalysisOptions.Edit) (p q : Project) : Prop where
  kept : q = { p.editing edits with registry := q.registry }
  graph : q.graph = p.graph

/-- Two projects show the same: the same options, the same tasks with their dependencies, and
the same coordinates behind every configuration. -/
structure ShowsSame (p q : Project) : Prop where
  options : q.options = p.options
  graph : q.graph = p.graph
  coordinates : ∀ name, q.coordinates name = p.coordinates name
  variantTasks : q.variantTasks = p.variantTasks

variable {edits : List AnalysisOptions.Edit} {p q : Project}

theorem Agrees.showsSame {apart : List String} (h : p.Agrees apart q) : p.ShowsSame q := by
  have hgraph := h.graph
  rw [h.kept] at hgraph ⊢
  exact ⟨rfl, hgraph, fun _ => rfl, rfl⟩

theorem Edited.agrees (h : p.Edited edits q) : (p.editing edits).Agrees [] q := by
  refine ⟨?_, h.graph, fun id _ => ?_⟩
  · rw [h.kept]
  · rw [h.kept]
    rfl

theorem edited_editing (p : Project) (edits : List AnalysisOptions.Edit) :
    p.Edited edits (p.editing edits) := ⟨rfl, rfl⟩

/-- An edit comes to the same before options are completed and after it. -/
theorem completedOptions_edit {e : AnalysisOptions.Edit} (h : e.Fills) (p : Project) :
    completedOptions { p with options := p.options.edit e } = p.completedOptions.edit e := by
  let edited : Project := { p with options := p.options.edit e }
  have hreports : edited.completedOptions.reportsDir =
      e.reportsDir.getD p.completedOptions.reportsDir := by
    change (if e.reportsDir.getD _ = "" then _ else e.reportsDir.getD _) = _
    cases hdir : e.reportsDir with
    | none => rfl
    | some dir => exact if_neg fun hempty => h.1 (hdir.trans (congrArg some hempty))
  have hconfig : edited.completedOptions.config = e.config.getD p.completedOptions.config := by
    change (if (e.config.getD p.options.config).isEmpty && p.present p.defaultConfig then
      [p.defaultConfig] else e.config.getD p.options.config) = _
    cases hfiles : e.config with
    | none => rfl
    | some files =>
        have hne : files ≠ [] := fun hempty => h.2 (hfiles.trans (congrArg some hempty))
        simp [hne]
  change { p.options.edit e with
    reportsDir := edited.completedOptions.reportsDir
    config := edited.completedOptions.config } = _
  rw [hreports, hconfig]
  rfl

theorem completedOptions_editing (hedits : ∀ e ∈ edits, e.Fills) (p : Project) :
    (p.editing edits).completedOptions =
      edits.foldl AnalysisOptions.edit p.completedOptions := by
  induction edits generalizing p with
  | nil => rfl
  | cons e edits ih =>
      obtain ⟨he, hedits⟩ := List.forall_mem_cons.1 hedits
      have hrest := ih hedits { p with options := p.options.edit e }
      rw [completedOptions_edit he] at hrest
      exact hrest

/-- The options of an edited project are completed to the edited options. -/
theorem Edited.completedOptions_eq (h : p.Edited edits q) (hedits : ∀ e ∈ edits, e.Fills) :
    q.completedOptions = edits.foldl AnalysisOptions.edit p.completedOptions := by
  rw [← completedOptions_editing hedits p, h.kept]
  rfl

theorem Edited.marks {id : String} {p' q' : Project} (h : p.Edited edits q)
    (hp : Marks id p p') (hq : Marks id q q') : p'.Edited edits q' := by
  have hids : q.pluginIds = p.pluginIds := by rw [h.kept]; rfl
  have hnodes : q'.graph.nodes = p'.graph.nodes := by rw [hq.nodes, hp.nodes, hids, h.graph]
  refine ⟨?_, congrArg TaskGraph.mk hnodes⟩
  rw [hq.kept, hp.kept, hq.ids, hp.ids, hids, h.kept]
  rfl

end Project

namespace Configuring

variable {edits : List AnalysisOptions.Edit} {p q : Project}

/-- Whatever the options, an identifier is marked alike. -/
theorem applyId_edited (id : String) (h : p.Edited edits q) :
    Alike (Project.Edited edits) (Project.Edited edits) (applyId id p) (applyId id q) := by
  have hsame : q.evaluated = p.evaluated ∧ q.name = p.name ∧ q.pluginIds = p.pluginIds := by
    rw [h.kept]
    exact ⟨rfl, rfl, rfl⟩
  cases hopen : p.evaluated with
  | true =>
      rw [applyId_of_evaluated hopen, applyId_of_evaluated (hsame.1.trans hopen), hsame.2.1]
      exact ⟨rfl, h⟩
  | false =>
      have hopen' := hsame.1.trans hopen
      by_cases hcheck : id = Plugin.lifecycleBase →
          id ∈ p.pluginIds ∨ Project.checkTask.name ∉ p.graph.names
      · obtain ⟨p', hp', hmarks⟩ := applyId_marks hopen hcheck
        obtain ⟨q', hq', hmarks'⟩ := applyId_marks hopen' (by rwa [hsame.2.2, h.graph])
        rw [hp', hq']
        exact ⟨rfl, h.marks hmarks hmarks'⟩
      · simp only [Classical.not_imp, not_or, not_not] at hcheck
        obtain ⟨rfl, hnew, htaken⟩ := hcheck
        obtain ⟨registry, hgraph, hp'⟩ := applyId_of_check hopen hnew htaken
        obtain ⟨registry', hgraph', hq'⟩ :=
          applyId_of_check hopen' (by rwa [hsame.2.2]) (by rwa [h.graph])
        rw [hp', hq']
        refine ⟨rfl, ?_, ?_⟩
        · rw [h.kept]
          rfl
        · exact hgraph'.trans (h.graph.trans hgraph.symm)

/-- The options are completed to edited ones, and the configurations created alike. -/
theorem prepareAnalysis_edited (h : p.Edited edits q) (hedits : ∀ e ∈ edits, e.Fills) :
    Alike (Project.Edited edits) (Project.Edited edits) (prepareAnalysis p)
      (prepareAnalysis q) := by
  have hcompleted := h.completedOptions_eq hedits
  have hnames : q.configurationNames = p.configurationNames := by rw [h.kept]; rfl
  have hmade : ∀ (registry registry' : Registry) (configurations : List Configuration),
      registry.graph = p.graph → registry'.graph = q.graph →
      Project.Edited edits { p with options := p.completedOptions, configurations, registry }
        { q with
          options := q.completedOptions, configurations, registry := registry' } := by
    intro registry registry' configurations hgraph hgraph'
    refine ⟨?_, hgraph'.trans (h.graph.trans hgraph.symm)⟩
    rw [hcompleted, h.kept]
    rfl
  by_cases htaken : p.analysisTaken
  · have htaken' : q.analysisTaken := by rwa [Project.analysisTaken, hnames]
    obtain ⟨registry, hgraph, hp⟩ := prepareAnalysis_of_taken htaken
    obtain ⟨registry', hgraph', hq⟩ := prepareAnalysis_of_taken htaken'
    have huntaken : q.configurations ++ q.untaken = p.configurations ++ p.untaken := by
      rw [Project.untaken, hnames, h.kept]
      rfl
    rw [hp, hq, Project.takenName, Project.takenName, hnames, huntaken]
    exact ⟨rfl, hmade registry registry' _ hgraph hgraph'⟩
  · have htaken' : ¬q.analysisTaken := by rwa [Project.analysisTaken, hnames]
    obtain ⟨registry, hgraph, hp⟩ := prepareAnalysis_of_not_taken htaken
    obtain ⟨registry', hgraph', hq⟩ := prepareAnalysis_of_not_taken htaken'
    have hconfigurations : q.configurations = p.configurations := by rw [h.kept]; rfl
    rw [hp, hq, hconfigurations]
    exact ⟨rfl, hmade registry registry' _ hgraph hgraph'⟩

/-- A plugin brings the same along and is recorded alike, whatever the options. -/
theorem applyOne_edited (plugin : Plugin) (h : p.Edited edits q)
    (hedits : ∀ e ∈ edits, e.Fills) :
    Alike (Project.Edited edits) (Project.Edited edits) (applyOne plugin p)
      (applyOne plugin q) := by
  unfold applyOne
  refine (applyId_edited plugin.id h).bind fun _ p' q' h' => ?_
  have hsame : q'.hasApplied plugin.id = p'.hasApplied plugin.id ∧
      q'.addonOf plugin = p'.addonOf plugin := by
    rw [h'.kept]
    exact ⟨rfl, rfl⟩
  refine Alike.get_bind ?_
  rw [hsame.1, hsame.2]
  split
  · exact .pure [] h'
  · have hrecorded : Project.Edited edits (p'.recording plugin) (q'.recording plugin) := by
      refine ⟨?_, h'.graph⟩
      rw [h'.kept]
      rfl
    have hset : Alike (Project.Edited edits) (Project.Edited edits)
        ((set (p'.recording plugin) : Configuring Unit) p')
        ((set (q'.recording plugin) : Configuring Unit) q') := ⟨rfl, hrecorded⟩
    refine hset.bind fun _ p'' q'' h'' => ?_
    cases plugin with
    | analysis => exact (prepareAnalysis_edited h'' hedits).bind fun _ _ _ hst => .pure [] hst
    | variantAnalysis serial => exact .pure _ h''
    | addon id key => exact .pure _ h''

theorem answer_edited (r : Request) (h : p.Edited edits q) (hedits : ∀ e ∈ edits, e.Fills) :
    Alike (Project.Edited edits) (Project.Edited edits) (answer r p) (answer r q) := by
  cases r with
  | mark id => exact (applyId_edited id h).bind fun _ _ _ hst => .pure [] hst
  | apply plugin => exact applyOne_edited plugin h hedits

theorem answerQueue_edited (n : Nat) (requests : List Request) (h : p.Edited edits q)
    (hedits : ∀ e ∈ edits, e.Fills) :
    Alike (Project.Edited edits) (Project.Edited edits) (answerQueue n requests p)
      (answerQueue n requests q) := by
  induction n generalizing requests p q with
  | zero => cases requests <;> exact .pure () h
  | succ n ih =>
      cases requests with
      | nil => exact .pure () h
      | cons r rest =>
          rw [answerQueue_succ_cons]
          exact (answer_edited r h hedits).bind fun brought _ _ hst => ih (brought ++ rest) hst

/-- Whatever is asked of a project, with all that this brings along, ends alike before its
options are edited and after it. -/
theorem apply_edited (r : Request) (h : p.Edited edits q) (hedits : ∀ e ∈ edits, e.Fills) :
    Alike (Project.Edited edits) (Project.Edited edits) (apply r p) (apply r q) := by
  have hbound : queueBound q = queueBound p := by
    rw [h.kept]
    rfl
  change Alike _ _ (answerQueue (queueBound p) [r] p) (answerQueue (queueBound q) [r] q)
  rw [hbound]
  exact answerQueue_edited _ _ h hedits

/-- Options may be edited before the analysis plugin is applied or after it, however that
ends: the projects show the same, and evaluating them ends alike and leaves projects that
show the same. -/
theorem edit_early_or_late (p : Project) (serial : Nat) (edits : List AnalysisOptions.Edit)
    (hedits : ∀ e ∈ edits, e.Fills) :
    let applied (p : Project) := ended (applyPlugin (.variantAnalysis serial) p)
    let early := (applied (p.editing edits)).2
    let late := (applied p).2.editing edits
    (applied (p.editing edits)).1 = (applied p).1 ∧ late.ShowsSame early ∧
      (ended (evaluate early)).1 = (ended (evaluate late)).1 ∧
      (ended (evaluate late)).2.ShowsSame (ended (evaluate early)).2 := by
  intro applied early late
  have halike := apply_edited (.apply (.variantAnalysis serial)) (p.edited_editing edits) hedits
  have hagrees : late.Agrees [] early := halike.ended_rel.agrees
  have hevaluated := evaluate_alike hagrees
  exact ⟨halike.fault_eq, hagrees.showsSame, hevaluated.fault_eq,
    hevaluated.ended_rel.showsSame⟩

theorem edit_early_or_late_library :
    let p : Project := { Project.fresh "app" "/project" none (fun _ => true) with
      android := some { kind := .library }, pluginIds := [Plugin.kotlinAndroid] }
    let edits : List AnalysisOptions.Edit :=
      [{ ignoredBuildTypes := some ["release"], config := some ["strict.yml"] },
        { toolVersion := some (some "1.11.0"), config := some ["lax.yml"] }]
    let early := (ended (applyPlugin (.variantAnalysis 0) (p.editing edits))).2
    let late := (ended (applyPlugin (.variantAnalysis 0) p)).2.editing edits
    (∀ e ∈ edits, e.Fills) ∧ late.ShowsSame early ∧ (ended (evaluate early)).1 = none ∧
      (ended (evaluate late)).1 = none ∧
      late.coordinates "detekt" = .ok ["io.gitlab.arturbosch.detekt:detekt-cli:1.11.0"] := by
  intro p edits early late
  have hedits : ∀ e ∈ edits, e.Fills := by decide
  obtain ⟨-, hshows, hfault, -⟩ := edit_early_or_late p 0 edits hedits
  have hreturns : (ended (evaluate early)).1 = none := by decide +kernel
  have hcoordinates : early.coordinates "detekt" =
      .ok ["io.gitlab.arturbosch.detekt:detekt-cli:1.11.0"] := by decide +kernel
  exact ⟨hedits, hshows, hreturns, hfault.symm.trans hreturns,
    (hshows.coordinates "detekt").symm.trans hcoordinates⟩

end Configuring

end AnalysisPlan
