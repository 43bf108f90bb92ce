import AnalysisPlan.Proofs.Loading

/-!
# What answering a request does

A request is answered in up to three steps: its identifier is marked, its plugin is
recorded, and the plain analysis is prepared. Each step is given here with the state
that it leaves, whether it returns or fails. Where all of them return, the request
changed the identifiers, the plugins that were applied with their history, the options,
the configurations and the registry, and nothing else; it recorded one plugin or none,
and brought requests along only if it recorded one (`Configuring.answer_answered`).
-/

namespace AnalysisPlan

section Bind

variable {σ α β : Type} {x : EStateM Fault σ α} {s t : σ}

theorem bind_of_ok {a : α} (h : x s = .ok a t) (k : α → EStateM Fault σ β) :
    (x >>= k) s = k a t := by
  change EStateM.bind x k s = _
  rw [EStateM.bind, h]

theorem bind_of_error {f : Fault} (h : x s = .error f t) (k : α → EStateM Fault σ β) :
    (x >>= k) s = .error f t := by
  change EStateM.bind x k s = _
  rw [EStateM.bind, h]

end Bind

def Request.id : Request → String
  | mark id => id
  | apply plugin => plugin.id

namespace Project

def brings (p : Project) : Plugin → List Request
  | .analysis => []
  | .variantAnalysis _ => [.apply .analysis]
  | .addon id key => (p.addonOf (.addon id key)).brings

def recording (p : Project) (plugin : Plugin) : Project :=
  { p with
    applied := p.applied ++ [plugin]
    history := p.history ++ [PluginEvent.applied plugin] }

/-- Whether a configuration that the plain analysis creates is there already. -/
def analysisTaken (p : Project) : Prop :=
  additions.name ∈ p.configurationNames ∨ analyser.name ∈ p.configurationNames

/-- The first of the two configurations of the plain analysis that is there already. -/
def takenName (p : Project) : String :=
  if additions.name ∈ p.configurationNames then additions.name else analyser.name

/-- What the plain analysis creates before it comes upon a configuration that is there
already. -/
def untaken (p : Project) : List Configuration :=
  if additions.name ∈ p.configurationNames then [] else [additions]

theorem hasPlugin_iff {p : Project} {id : String} : p.hasPlugin id = true ↔ id ∈ p.pluginIds :=
  List.contains_iff_mem

theorem hasPlugin_eq_false_iff {p : Project} {id : String} :
    p.hasPlugin id = false ↔ id ∉ p.pluginIds := by
  rw [← hasPlugin_iff, Bool.not_eq_true]

theorem hasApplied_iff {p : Project} {id : String} :
    p.hasApplied id = true ↔ ∃ a ∈ p.applied, a.id = id := by
  simp [hasApplied]

theorem hasApplied_recording (p : Project) (plugin : Plugin) (id : String) :
    (p.recording plugin).hasApplied id = (p.hasApplied id || plugin.id == id) := by
  simp [hasApplied, recording]

/-- `q` is `p` with an identifier marked. The first mark of the lifecycle plugin adds
the task of all checks. -/
structure Marks (id : String) (p q : Project) : Prop where
  kept : q = { p with pluginIds := q.pluginIds, registry := q.registry }
  ids : q.pluginIds = if id ∈ p.pluginIds then p.pluginIds else p.pluginIds ++ [id]
  nodes : q.graph.nodes = p.graph.nodes ++
    if id = Plugin.lifecycleBase ∧ id ∉ p.pluginIds then [⟨checkTask, ∅⟩] else []

theorem Marks.mem_iff {id : String} {p q : Project} (h : Marks id p q) {other : String} :
    other ∈ q.pluginIds ↔ other ∈ p.pluginIds ∨ other = id := by
  rw [h.ids]
  split
  · next hid => exact ⟨.inl, fun hor => hor.elim (fun h => h) fun heq => heq ▸ hid⟩
  · simp

theorem Marks.applied {id : String} {p q : Project} (h : Marks id p q) :
    q.applied = p.applied := by
  rw [h.kept]

end Project

namespace Configuring

variable {p q : Project} {id : String} {plugin : Plugin}

/-! ## Marking an identifier -/

theorem applyId_of_evaluated (h : p.evaluated = true) (id : String) :
    applyId id p = .error (.pluginAfterEvaluation p.name) p := by
  have hbefore : beforeEvaluation p = .error (.pluginAfterEvaluation p.name) p := by
    change (if p.evaluated then _ else pure () : Configuring Unit) p = _
    rw [h]
    rfl
  exact bind_of_error hbefore _

theorem applyId_of_open (h : p.evaluated = false) (id : String) : applyId id p = mark id p := by
  have hbefore : beforeEvaluation p = .ok () p := by
    change (if p.evaluated then _ else pure () : Configuring Unit) p = _
    rw [h]
    rfl
  exact bind_of_ok hbefore _

theorem applyId_of_mem (h : p.evaluated = false) (hid : id ∈ p.pluginIds) :
    applyId id p = .ok () p := by
  rw [applyId_of_open h, mark_of_has (Project.hasPlugin_iff.2 hid)]

/-- Marking returns unless it would have to add the task of all checks a second time. -/
theorem applyId_marks (h : p.evaluated = false)
    (hcheck : id = Plugin.lifecycleBase → id ∈ p.pluginIds ∨ Project.checkTask.name ∉ p.graph.names) :
    ∃ q, applyId id p = .ok () q ∧ Project.Marks id p q := by
  by_cases hid : id ∈ p.pluginIds
  · refine ⟨p, applyId_of_mem h hid, rfl, (if_pos hid).symm, ?_⟩
    rw [if_neg fun hnot => hnot.2 hid, List.append_nil]
  · rw [applyId_of_open h, mark_of_new (Project.hasPlugin_eq_false_iff.2 hid)]
    by_cases hbase : id = Plugin.lifecycleBase
    · have hnot : p.registry.graph.has Project.checkTask.name = false := by
        rw [← Bool.not_eq_true, TaskGraph.has_iff]
        exact (hcheck hbase).resolve_left hid
      rw [if_pos hbase]
      simp only [registering, Registration.add, Registration.change, TaskGraph.register, hnot]
      refine ⟨_, rfl, rfl, (if_neg hid).symm, ?_⟩
      rw [if_pos ⟨hbase, hid⟩]
      rfl
    · rw [if_neg hbase]
      refine ⟨_, rfl, rfl, (if_neg hid).symm, ?_⟩
      rw [if_neg fun hnew => hbase hnew.1, List.append_nil]
      rfl

/-- Where the task of all checks is there already, the identifier that brings it stays
marked although this fails. -/
theorem applyId_of_check (h : p.evaluated = false) (hid : Plugin.lifecycleBase ∉ p.pluginIds)
    (hcheck : Project.checkTask.name ∈ p.graph.names) :
    ∃ registry : Registry, registry.graph = p.graph ∧
      applyId Plugin.lifecycleBase p = .error (.taskExists Project.checkTask.name)
        { p with pluginIds := p.pluginIds ++ [Plugin.lifecycleBase], registry } := by
  have hhas : p.registry.graph.has Project.checkTask.name = true := TaskGraph.has_iff.2 hcheck
  refine ⟨{ p.registry with log := p.registry.log ++ [.pluginApplied Plugin.lifecycleBase p.name] },
    rfl, ?_⟩
  rw [applyId_of_open h, mark_of_new (Project.hasPlugin_eq_false_iff.2 hid), if_pos rfl]
  simp only [registering, Registration.add, Registration.change, TaskGraph.register, hhas,
    if_true]

/-! ## Preparing the analysis -/

theorem createConfiguration_of_mem {c : Configuration} (h : c.name ∈ p.configurationNames) :
    change (·.createConfiguration c) p = .error (.configurationExists c.name) p := by
  simp [change, Project.createConfiguration, h]

theorem createConfiguration_of_not_mem {c : Configuration} (h : c.name ∉ p.configurationNames) :
    change (·.createConfiguration c) p =
      .ok () { p with configurations := p.configurations ++ [c] } := by
  simp [change, Project.createConfiguration, h]

/-- Completing the options is what the plain analysis begins with; creating the two
configurations comes after it. -/
theorem prepareAnalysis_eq (p : Project) :
    ∃ registry : Registry, registry.graph = p.graph ∧
      registry.asked = p.registry.asked ++ p.configQuestions ∧
      prepareAnalysis p =
        (do
          change (·.createConfiguration Project.additions)
          change (·.createConfiguration Project.analyser) : Configuring Unit)
          { p with options := p.completedOptions, registry } := by
  let registry : Registry :=
    { p.registry with asked := p.registry.asked ++ p.configQuestions }
  by_cases hdefault : p.usesDefaultConfig = true
  · refine ⟨{ registry with log := p.registry.log ++ [.configFileFound p.defaultConfig] },
      rfl, rfl, ?_⟩
    change (if p.usesDefaultConfig then _ else _ : Configuring Unit) { p with registry } = _
    rw [if_pos hdefault]
    rfl
  · refine ⟨registry, rfl, rfl, ?_⟩
    change (if p.usesDefaultConfig then _ else _ : Configuring Unit) { p with registry } = _
    rw [if_neg hdefault]
    rfl

/-- Of the two configurations the first stays where only the second is there already. -/
theorem prepareAnalysis_of_taken (h : p.analysisTaken) :
    ∃ registry : Registry, registry.graph = p.graph ∧
      prepareAnalysis p = .error (.configurationExists p.takenName)
        { p with
          options := p.completedOptions
          configurations := p.configurations ++ p.untaken
          registry } := by
  obtain ⟨registry, hgraph, -, hrest⟩ := prepareAnalysis_eq p
  refine ⟨registry, hgraph, ?_⟩
  rw [hrest]
  let completed : Project := { p with options := p.completedOptions, registry }
  by_cases hadditions : Project.additions.name ∈ p.configurationNames
  · have hfirst := createConfiguration_of_mem (p := completed) hadditions
    rw [Project.takenName, Project.untaken, if_pos hadditions, if_pos hadditions, List.append_nil]
    exact bind_of_error hfirst _
  · have hanalyser := h.resolve_left hadditions
    have hfirst := createConfiguration_of_not_mem (p := completed) hadditions
    rw [Project.takenName, Project.untaken, if_neg hadditions, if_neg hadditions]
    refine (bind_of_ok hfirst _).trans (createConfiguration_of_mem ?_)
    rw [Project.configurationNames, List.map_append]
    exact List.mem_append_left _ hanalyser

theorem prepareAnalysis_of_not_taken (h : ¬p.analysisTaken) :
    ∃ registry : Registry, registry.graph = p.graph ∧
      prepareAnalysis p = .ok ()
        { p with
          options := p.completedOptions
          configurations := p.configurations ++ [Project.additions, Project.analyser]
          registry } := by
  obtain ⟨registry, hgraph, -, hrest⟩ := prepareAnalysis_eq p
  refine ⟨registry, hgraph, ?_⟩
  rw [hrest]
  obtain ⟨hadditions, hanalyser⟩ := not_or.1 h
  let completed : Project := { p with options := p.completedOptions, registry }
  have hfirst := createConfiguration_of_not_mem (p := completed) hadditions
  have hne : Project.analyser.name ≠ Project.additions.name := by decide
  refine (bind_of_ok hfirst _).trans ((createConfiguration_of_not_mem ?_).trans ?_)
  · simp only [Project.configurationNames, List.map_append, List.mem_append, not_or]
    exact ⟨hanalyser, by simpa using hne⟩
  · rw [List.append_assoc]
    rfl

/-! ## Applying a plugin -/

theorem applyOne_of_applied (hid : applyId plugin.id p = .ok () q)
    (h : q.hasApplied plugin.id = true) : applyOne plugin p = .ok [] q := by
  refine (bind_of_ok hid _).trans ?_
  change (if q.hasApplied plugin.id then pure [] else _ : Configuring (List Request)) q = _
  rw [if_pos h]
  rfl

/-- A plugin that is new is recorded before it does anything. -/
theorem applyOne_of_new (hid : applyId plugin.id p = .ok () q)
    (h : q.hasApplied plugin.id = false) :
    applyOne plugin p =
      (do
        if plugin = .analysis then prepareAnalysis
        return q.brings plugin : Configuring (List Request)) (q.recording plugin) := by
  refine (bind_of_ok hid _).trans ?_
  change (if q.hasApplied plugin.id then pure [] else _ : Configuring (List Request)) q = _
  rw [if_neg (by simp [h])]
  cases plugin with
  | analysis => rfl
  | variantAnalysis serial => rfl
  | addon id key => rfl

/-- A plugin that is new is recorded; the plain analysis also completes the options and
creates configurations. -/
theorem applyOne_records (hid : applyId plugin.id p = .ok () q)
    (h : q.hasApplied plugin.id = false)
    (hfree : plugin = .analysis → ¬q.analysisTaken) :
    ∃ options configurations, ∃ registry : Registry, registry.graph = q.graph ∧
      (plugin ≠ .analysis → configurations = q.configurations) ∧
      applyOne plugin p =
        .ok (q.brings plugin) { q.recording plugin with options, configurations, registry } := by
  rw [applyOne_of_new hid h]
  cases plugin with
  | analysis =>
      obtain ⟨registry, hgraph, hprepare⟩ :=
        prepareAnalysis_of_not_taken (p := q.recording .analysis) (hfree rfl)
      exact ⟨_, _, registry, hgraph, fun hne => absurd rfl hne, bind_of_ok hprepare _⟩
  | variantAnalysis serial => exact ⟨_, _, q.registry, rfl, fun _ => rfl, rfl⟩
  | addon id key => exact ⟨_, _, q.registry, rfl, fun _ => rfl, rfl⟩

/-- The plain analysis stays recorded where it fails. -/
theorem applyOne_of_taken (hid : applyId Plugin.analysis.id p = .ok () q)
    (hnew : q.hasApplied Plugin.analysis.id = false) (h : q.analysisTaken) :
    ∃ registry : Registry, registry.graph = q.graph ∧
      applyOne .analysis p = .error (.configurationExists q.takenName)
        { q.recording .analysis with
          options := q.completedOptions
          configurations := q.configurations ++ q.untaken
          registry } := by
  rw [applyOne_of_new hid hnew]
  obtain ⟨registry, hgraph, hfail⟩ := prepareAnalysis_of_taken (p := q.recording .analysis) h
  exact ⟨registry, hgraph, bind_of_error hfail _⟩

/-! ## Answering a request -/

theorem answer_of_evaluated (h : p.evaluated = true) (r : Request) :
    answer r p = .error (.pluginAfterEvaluation p.name) p := by
  cases r with
  | mark id => exact bind_of_error (applyId_of_evaluated h id) _
  | apply plugin => exact bind_of_error (applyId_of_evaluated h plugin.id) _

theorem answer_of_error {r : Request} {f : Fault} (h : applyId r.id p = .error f q) :
    answer r p = .error f q := by
  cases r with
  | mark id => exact bind_of_error h _
  | apply plugin => exact bind_of_error h _

end Configuring

namespace Project

/-- What answering a request did to a project where it returned: it marked the
identifier, and recorded the plugin if that is new. -/
structure Answers (r : Request) (p : Project) (brought : List Request) (q : Project) :
    Prop where
  unsettled : p.evaluated = false
  kept : q = { p with
    pluginIds := q.pluginIds, applied := q.applied, history := q.history
    options := q.options, configurations := q.configurations, registry := q.registry }
  ids : q.pluginIds = if r.id ∈ p.pluginIds then p.pluginIds else p.pluginIds ++ [r.id]
  nodes : q.graph.nodes = p.graph.nodes ++
    if r.id = Plugin.lifecycleBase ∧ r.id ∉ p.pluginIds then [⟨checkTask, ∅⟩] else []
  recorded :
    (brought = [] ∧ q.applied = p.applied ∧ q.history = p.history ∧
      q.configurations = p.configurations ∧
      ∀ plugin, r = .apply plugin → p.hasApplied plugin.id = true) ∨
    ∃ plugin, r = .apply plugin ∧ p.hasApplied plugin.id = false ∧
      brought = p.brings plugin ∧ q.applied = p.applied ++ [plugin] ∧
      q.history = p.history ++ [.applied plugin] ∧
      (plugin ≠ .analysis → q.configurations = p.configurations)

/-- A project of which no request can fail: it is not evaluated, it has the task of all
checks only with the plugin that brings it, and no configurations before the plain
analysis. -/
structure Ready (p : Project) : Prop where
  unsettled : p.evaluated = false
  check : checkTask.name ∈ p.graph.names → Plugin.lifecycleBase ∈ p.pluginIds
  configurations : p.hasApplied Plugin.analysis.id = false → p.configurations = []

end Project

namespace Configuring

variable {p q : Project} {brought : List Request} {r : Request}

theorem ready_of_answers (h : p.Ready) (hq : p.Answers r brought q) : q.Ready := by
  refine ⟨?_, ?_, ?_⟩
  · rw [hq.kept]
    exact hq.unsettled
  · intro hmem
    have hids : ∀ id, id ∈ p.pluginIds ∨ id = r.id → id ∈ q.pluginIds := by
      intro id hid
      rw [hq.ids]
      split
      · next hold => exact hid.elim (fun h => h) fun heq => heq ▸ hold
      · simpa using hid
    rw [TaskGraph.names, TaskGraph.tasks, hq.nodes, List.map_append, List.map_append,
      List.mem_append] at hmem
    rcases hmem with hold | hnew
    · exact hids _ (.inl (h.check hold))
    · split at hnew
      · next hbase => exact hids _ (.inr hbase.1.symm)
      · exact absurd hnew List.not_mem_nil
  · intro hnone
    have hsame : ∀ id, p.hasApplied id = true → q.hasApplied id = true := by
      intro id hid
      obtain ⟨a, ha, hid⟩ := Project.hasApplied_iff.1 hid
      refine Project.hasApplied_iff.2 ⟨a, ?_, hid⟩
      rcases hq.recorded with ⟨-, happlied, -⟩ | ⟨plugin, -, -, -, happlied, -⟩
      · rw [happlied]
        exact ha
      · rw [happlied]
        exact List.mem_append_left _ ha
    have hold : p.hasApplied Plugin.analysis.id = false := by
      rw [← Bool.not_eq_true] at hnone ⊢
      exact mt (hsame _) hnone
    rcases hq.recorded with ⟨-, -, -, hkept, -⟩ | ⟨plugin, -, -, -, happlied, -, hkept⟩
    · rw [hkept, h.configurations hold]
    · rw [hkept, h.configurations hold]
      rintro rfl
      rw [Project.hasApplied, happlied] at hnone
      simp at hnone

theorem answers_of_applied {m : Project} (hopen : p.evaluated = false)
    (hm : Project.Marks r.id p m)
    (h : ∀ plugin, r = .apply plugin → p.hasApplied plugin.id = true) : p.Answers r [] m := by
  obtain ⟨ids, registry, rfl⟩ : ∃ ids registry, m = { p with pluginIds := ids, registry } :=
    ⟨_, _, hm.kept⟩
  exact ⟨hopen, rfl, hm.ids, hm.nodes, .inl ⟨rfl, rfl, rfl, rfl, h⟩⟩

/-- How a request is answered once its identifier is marked. -/
theorem answers_of_marks {m : Project} (hopen : p.evaluated = false)
    (hid : applyId r.id p = .ok () m) (hm : Project.Marks r.id p m)
    (hfree : r = .apply .analysis → p.hasApplied Plugin.analysis.id = false →
      ¬p.analysisTaken) :
    ∃ brought q, answer r p = .ok brought q ∧ p.Answers r brought q := by
  cases r with
  | mark id => exact ⟨[], m, bind_of_ok hid _, answers_of_applied hopen hm (by simp)⟩
  | apply plugin =>
      have hsame : m.hasApplied plugin.id = p.hasApplied plugin.id := by
        rw [Project.hasApplied, hm.applied, Project.hasApplied]
      cases h : p.hasApplied plugin.id with
      | true =>
          refine ⟨[], m, applyOne_of_applied hid (hsame.trans h), ?_⟩
          refine answers_of_applied hopen hm ?_
          rintro _ ⟨⟩
          exact h
      | false =>
          obtain ⟨ids, registry, rfl⟩ :
              ∃ ids registry, m = { p with pluginIds := ids, registry } := ⟨_, _, hm.kept⟩
          obtain ⟨options, configurations, registry', hgraph, hsame', hrun⟩ :=
            applyOne_records hid (hsame.trans h) fun heq => by
              subst heq
              exact hfree rfl h
          refine ⟨_, _, hrun, hopen, rfl, hm.ids, ?_, .inr ⟨plugin, rfl, h, ?_, rfl, rfl, hsame'⟩⟩
          · exact (congrArg TaskGraph.nodes hgraph).trans hm.nodes
          · cases plugin <;> rfl

/-- What a request did where it was answered. -/
theorem answer_answered (h : answer r p = .ok brought q) : p.Answers r brought q := by
  have hopen : p.evaluated = false := by
    cases hevaluated : p.evaluated with
    | false => rfl
    | true =>
        rw [answer_of_evaluated hevaluated] at h
        cases h
  have hcheck : r.id = Plugin.lifecycleBase →
      r.id ∈ p.pluginIds ∨ Project.checkTask.name ∉ p.graph.names := by
    intro hbase
    rw [hbase]
    refine Decidable.or_iff_not_imp_left.2 fun hnew hmem => ?_
    obtain ⟨registry, -, hfail⟩ := applyId_of_check hopen hnew hmem
    rw [answer_of_error (hbase ▸ hfail)] at h
    cases h
  obtain ⟨m, hid, hm⟩ := applyId_marks hopen hcheck
  have hfree : r = .apply .analysis → p.hasApplied Plugin.analysis.id = false →
      ¬p.analysisTaken := by
    rintro rfl hnew htaken
    obtain ⟨ids, registry, rfl⟩ : ∃ ids registry, m = { p with pluginIds := ids, registry } :=
      ⟨_, _, hm.kept⟩
    obtain ⟨registry', -, hfail⟩ := applyOne_of_taken hid hnew htaken
    cases hfail.symm.trans h
  obtain ⟨brought', q', hrun, hq'⟩ := answers_of_marks hopen hid hm hfree
  rw [hrun] at h
  cases h
  exact hq'

/-- A project that is ready answers every request, and is ready afterwards. -/
theorem answer_returns (h : p.Ready) (r : Request) :
    ∃ brought q, answer r p = .ok brought q ∧ q.Ready := by
  have hcheck : r.id = Plugin.lifecycleBase →
      r.id ∈ p.pluginIds ∨ Project.checkTask.name ∉ p.graph.names := by
    intro hbase
    rw [hbase]
    exact Decidable.or_iff_not_imp_left.2 fun hnew hmem => hnew (h.check hmem)
  obtain ⟨m, hid, hm⟩ := applyId_marks h.unsettled hcheck
  have hnone : p.hasApplied Plugin.analysis.id = false → p.configurationNames = [] := by
    intro hnew
    rw [Project.configurationNames, h.configurations hnew, List.map_nil]
  obtain ⟨brought, q, hrun, hq⟩ := answers_of_marks h.unsettled hid hm fun _ hnew => by
    rw [Project.analysisTaken, hnone hnew]
    exact not_or.2 ⟨List.not_mem_nil, List.not_mem_nil⟩
  exact ⟨brought, q, hrun, ready_of_answers h hq⟩

end Configuring

end AnalysisPlan
