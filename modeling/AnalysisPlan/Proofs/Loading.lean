import AnalysisPlan.Description.Loading

/-!
# Projects as loading leaves them

Loading marks the listed plugins as applied and applies the variant plugin, which
brings the plain one along. Whatever a description says, the project that it
returns has these two plugins in this order, is not evaluated, has at most the
task of all checks, and is of a kind whose variants can be planned
(`Description.Loaded.configured`). Nothing here depends on how a step fails, so the steps
are followed only where they return (`Leaves`).
-/

namespace AnalysisPlan

theorem exists_of_bind_eq_ok {ε α β : Type} {x : Except ε α} {f : α → Except ε β} {b : β}
    (h : (x >>= f) = .ok b) : ∃ a, x = .ok a ∧ f a = .ok b := by
  cases x with
  | error e => cases h
  | ok a => exact ⟨a, rfl, h⟩

/-- What holds of the result and the state of a computation where it returns. -/
def Leaves {σ α : Type} (done : α → σ → Prop) : EStateM.Result Fault σ α → Prop
  | .ok a s => done a s
  | .error _ _ => True

theorem Leaves.bind {σ α β : Type} {x : EStateM Fault σ α} {k : α → EStateM Fault σ β}
    {s : σ} {m : α → σ → Prop} {done : β → σ → Prop} (hx : Leaves m (x s))
    (hk : ∀ a t, m a t → Leaves done (k a t)) : Leaves done ((x >>= k) s) := by
  change Leaves done (EStateM.bind x k s)
  unfold EStateM.bind
  cases hxs : x s with
  | ok a t =>
      rw [hxs] at hx
      exact hk a t hx
  | error f t => trivial

/-- A project under configuration that has the given plugins: the task of all
checks is there exactly if its plugin is, and no other task. -/
structure Project.Configured (plugins : List Plugin) (p : Project) : Prop where
  applied : p.applied = plugins
  evaluated : p.evaluated = false
  graph : p.graph.nodes =
    if p.hasPlugin Plugin.lifecycleBase then [⟨Project.checkTask, ∅⟩] else []
  android : ∀ a, p.android = some a → a.kind ≠ .other

namespace Configuring

variable {plugins : List Plugin} {p : Project}

theorem mark_of_has {id : String} (h : p.hasPlugin id = true) : mark id p = .ok () p := by
  have hmark : mark id p =
      (if !p.hasPlugin id then _ else pure () : Configuring Unit) p := rfl
  rw [hmark, h]
  rfl

theorem mark_of_new {id : String} (h : p.hasPlugin id = false) :
    mark id p =
      (if id = Plugin.lifecycleBase then registering (Registration.add Project.checkTask)
        else pure () : Configuring Unit)
        { p with
          pluginIds := p.pluginIds ++ [id]
          registry := { p.registry with
            log := p.registry.log ++ [.pluginApplied id p.name] } } := by
  have hmark : mark id p =
      (if !p.hasPlugin id then _ else pure () : Configuring Unit) p := rfl
  rw [hmark, h]
  rfl

theorem mark_leaves (id : String) (h : p.Configured plugins) :
    Leaves (fun _ q => q.Configured plugins) (mark id p) := by
  cases hid : p.hasPlugin id with
  | true =>
      rw [mark_of_has hid]
      exact h
  | false =>
      rw [mark_of_new hid]
      have hgraph := h.graph
      by_cases hbase : id = Plugin.lifecycleBase
      · rw [if_neg (by simp [← hbase, hid])] at hgraph
        rw [if_pos hbase]
        have hempty : p.registry.graph.names = [] := by
          rw [TaskGraph.names, TaskGraph.tasks, show p.registry.graph.nodes = [] from hgraph]
          rfl
        simp only [registering, Registration.add, Registration.change, TaskGraph.register,
          TaskGraph.has, hempty, List.contains_nil, Bool.false_eq_true, if_false]
        refine ⟨h.applied, h.evaluated, ?_, h.android⟩
        simp [Project.graph, Project.hasPlugin, hbase,
          show p.registry.graph.nodes = [] from hgraph]
      · rw [if_neg hbase]
        refine ⟨h.applied, h.evaluated, ?_, h.android⟩
        have hsame : (p.pluginIds ++ [id]).contains Plugin.lifecycleBase =
            p.hasPlugin Plugin.lifecycleBase := by
          simp [Project.hasPlugin, Ne.symm hbase]
        change p.graph.nodes =
          if (p.pluginIds ++ [id]).contains Plugin.lifecycleBase then _ else _
        rw [hsame]
        exact hgraph

theorem applyId_leaves (id : String) (h : p.Configured plugins) :
    Leaves (fun _ q => q.Configured plugins) (applyId id p) := by
  have hbefore : beforeEvaluation p = .ok () p := by
    change (if p.evaluated then _ else pure () : Configuring Unit) p = _
    rw [h.evaluated]
    rfl
  refine Leaves.bind (m := fun _ q => q = p) ?_ fun _ q hq => ?_
  · rw [hbefore]
    rfl
  · rw [hq]
    exact mark_leaves id h

theorem change_leaves {f : Project → Except Fault Project} (h : p.Configured plugins)
    (hf : ∀ q, f p = .ok q → ∃ configurations, q = { p with configurations }) :
    Leaves (fun _ q => q.Configured plugins) (change f p) := by
  unfold change
  cases hq : f p with
  | error e => trivial
  | ok q =>
      obtain ⟨configurations, rfl⟩ := hf q hq
      exact ⟨h.applied, h.evaluated, h.graph, h.android⟩

theorem createConfiguration_leaves (c : Configuration) (h : p.Configured plugins) :
    Leaves (fun _ q => q.Configured plugins) (change (·.createConfiguration c) p) := by
  refine change_leaves h fun q hq => ?_
  unfold Project.createConfiguration at hq
  split at hq
  · cases hq
  · cases hq
    exact ⟨_, rfl⟩

theorem declareDependencies_leaves (name : String) (coordinates : List String)
    (h : p.Configured plugins) :
    Leaves (fun _ q => q.Configured plugins)
      (change (·.declareDependencies name coordinates) p) := by
  refine change_leaves h fun q hq => ?_
  obtain ⟨_, _, hq⟩ := exists_of_bind_eq_ok hq
  cases hq
  exact ⟨_, rfl⟩

theorem report_leaves (event : LogEvent) (h : p.Configured plugins) :
    Leaves (fun _ q => q.Configured plugins) (report event p) :=
  ⟨h.applied, h.evaluated, h.graph, h.android⟩

theorem ask_leaves (paths : List String) (h : p.Configured plugins) :
    Leaves (fun _ q => q.Configured plugins) (registering (Registration.ask paths) p) :=
  ⟨h.applied, h.evaluated, h.graph, h.android⟩

theorem prepareAnalysis_leaves (h : p.Configured plugins) :
    Leaves (fun _ q => q.Configured plugins) (prepareAnalysis p) := by
  have hrest : ∀ q : Project, q.Configured plugins →
      Leaves (fun _ q => q.Configured plugins)
        ((do
          modify fun q => { q with options := p.completedOptions }
          change (·.createConfiguration Project.additions)
          change (·.createConfiguration Project.analyser) : Configuring Unit) q) := by
    intro q hq
    refine Leaves.bind (m := fun _ q => q.Configured plugins) ?_ fun _ q hq => ?_
    · exact ⟨hq.applied, hq.evaluated, hq.graph, hq.android⟩
    · exact (createConfiguration_leaves _ hq).bind fun _ q hq =>
        createConfiguration_leaves _ hq
  change Leaves _ ((do registering (Registration.ask p.configQuestions); _ : Configuring Unit) p)
  refine (ask_leaves _ h).bind fun _ q hq => ?_
  change Leaves _ ((if p.usesDefaultConfig then (do
    report (.configFileFound p.defaultConfig)
    _) else _ : Configuring Unit) q)
  split
  · exact (report_leaves _ hq).bind fun _ q hq => hrest q hq
  · exact hrest q hq

/-- Applying one of the two analysis plugins for the first time puts it behind the
others; the variant plugin brings the plain one along. -/
theorem applyOne_leaves (plugin : Plugin) (h : p.Configured plugins)
    (hnew : plugins.any (·.id == plugin.id) = false)
    (hplugin : ∀ id key, plugin ≠ .addon id key) :
    Leaves (fun brought q => q.Configured (plugins ++ [plugin]) ∧
        brought = if plugin = .analysis then [] else [.apply .analysis])
      (applyOne plugin p) := by
  unfold applyOne
  refine (applyId_leaves plugin.id h).bind fun _ q hq => ?_
  have hnot : q.hasApplied plugin.id = false := by
    rw [Project.hasApplied, hq.applied, hnew]
  change Leaves _ ((if q.hasApplied plugin.id then pure [] else _ :
    Configuring (List Request)) q)
  rw [hnot]
  refine Leaves.bind (m := fun _ q' => q'.Configured (plugins ++ [plugin])) ?_
    fun _ q' hq' => ?_
  · exact ⟨congrArg (· ++ [plugin]) hq.applied, hq.evaluated, hq.graph, hq.android⟩
  · cases plugin with
    | analysis => exact (prepareAnalysis_leaves hq').bind fun _ q'' hq'' => ⟨hq'', rfl⟩
    | variantAnalysis serial => exact ⟨hq', rfl⟩
    | addon id key => exact absurd rfl (hplugin id key)

theorem exists_queueBound_eq (p : Project) : ∃ n, queueBound p = n + 2 := by
  unfold queueBound
  induction p.shelf with
  | nil => exact ⟨0, rfl⟩
  | cons a shelf ih =>
      obtain ⟨n, hn⟩ := ih
      refine ⟨a.2.brings.length + n, ?_⟩
      rw [List.map_cons, List.foldr_cons, hn, Nat.add_assoc]

/-- Applying the variant plugin to a project without plugins adds the two analysis
plugins. -/
theorem applyPlugin_leaves (serial : Nat) (h : p.Configured []) :
    Leaves (fun _ q => q.Configured [.variantAnalysis serial, .analysis])
      (applyPlugin (.variantAnalysis serial) p) := by
  change Leaves _ (answerQueue (queueBound p) [.apply (.variantAnalysis serial)] p)
  obtain ⟨n, hn⟩ := exists_queueBound_eq p
  rw [hn]
  refine (applyOne_leaves _ h rfl (by simp)).bind fun brought q hq => ?_
  obtain ⟨hq, rfl⟩ := hq
  have hnew : [Plugin.variantAnalysis serial].any (·.id == Plugin.analysis.id) = false := by
    simp [Plugin.id]
  refine (applyOne_leaves .analysis hq hnew (by simp)).bind fun brought q' hq' => ?_
  obtain ⟨hq', rfl⟩ := hq'
  change Leaves _ (answerQueue n [] q')
  rw [answerQueue_nil]
  exact hq'

end Configuring

/-- The first Android plugin makes a project of a kind that can be planned. -/
theorem AndroidKind.ofPlugins?_ne_other {plugins : List String} {kind : AndroidKind}
    (h : AndroidKind.ofPlugins? plugins = some kind) : kind ≠ .other := by
  obtain ⟨plugin, -, hplugin⟩ := List.exists_of_findSome?_eq_some h
  have hmem : kind ∈ AndroidKind.supported := List.mem_of_find?_eq_some hplugin
  rintro rfl
  revert hmem
  decide

namespace Description

theorem kind_of_androidBlock {kind : AndroidKind} {block : Fields} {a : AndroidOptions}
    (h : androidBlock kind block = .ok a) : a.kind = kind := by
  unfold androidBlock at h
  iterate 9 obtain ⟨_, -, h⟩ := exists_of_bind_eq_ok h
  cases h
  rfl

theorem kind_of_androidOptions {block : Json.Value} {plugins : List String}
    {android : Option AndroidOptions} (h : androidOptions block plugins = .ok android) :
    ∀ a, android = some a → a.kind ≠ .other := by
  rintro a rfl
  unfold androidOptions at h
  cases hkind : AndroidKind.ofPlugins? plugins with
  | none =>
      rw [hkind] at h
      simp only at h
      split at h <;> cases h
  | some kind =>
      have hblock : ∀ fields, (androidBlock kind fields).map some = .ok (some a) →
          a.kind ≠ .other := by
        intro fields hmap
        cases hb : androidBlock kind fields with
        | error f =>
            rw [hb] at hmap
            cases hmap
        | ok b =>
            rw [hb] at hmap
            cases hmap
            rw [kind_of_androidBlock hb]
            exact AndroidKind.ofPlugins?_ne_other hkind
      rw [hkind] at h
      simp only at h
      split at h
      · exact hblock [] h
      · split at h
        · exact hblock _ h
        · cases h

theorem android_of_ofFields {directory : Location} {fields : Fields} {d : Draft}
    (h : Draft.ofFields directory fields = .ok d) :
    ∀ a, d.android = some a → a.kind ≠ .other := by
  unfold Draft.ofFields at h
  iterate 5 obtain ⟨_, -, h⟩ := exists_of_bind_eq_ok h
  obtain ⟨_, hoptions, h⟩ := exists_of_bind_eq_ok h
  iterate 2 obtain ⟨_, -, h⟩ := exists_of_bind_eq_ok h
  cases h
  exact kind_of_androidOptions hoptions

theorem directory_of_ofFields {directory : Location} {fields : Fields} {d : Draft}
    (h : Draft.ofFields directory fields = .ok d) : d.directory = directory := by
  unfold Draft.ofFields at h
  iterate 8 obtain ⟨_, -, h⟩ := exists_of_bind_eq_ok h
  cases h
  rfl

variable {plugins : List Plugin} {p : Project}

theorem applyIds_leaves (ids : List String) (h : p.Configured plugins) :
    Leaves (fun _ q => q.Configured plugins) (applyIds ids p) := by
  induction ids generalizing p with
  | nil => exact h
  | cons id ids ih => exact (Configuring.applyId_leaves id h).bind fun _ _ hq => ih hq

theorem declareField_leaves (configuration : String) (v : Json.Value)
    (h : p.Configured plugins) :
    Leaves (fun _ q => q.Configured plugins) (declareField configuration v p) := by
  unfold declareField
  split
  · next items =>
      cases texts ("dependencies." ++ configuration) items with
      | ok coordinates => exact Configuring.declareDependencies_leaves configuration _ h
      | error f => trivial
  · trivial

theorem declareEach_leaves (fields : Fields) (h : p.Configured plugins) :
    Leaves (fun _ q => q.Configured plugins) (declareEach fields p) := by
  induction fields generalizing p with
  | nil => exact h
  | cons field fields ih =>
      exact (declareField_leaves field.1 field.2 h).bind fun _ _ hq => ih hq

theorem configure_leaves (ids : List String) (fields : Fields) (h : p.Configured []) :
    Leaves (fun _ q => q.Configured [.variantAnalysis 0, .analysis])
      (configure ids fields p) := by
  unfold configure
  refine (applyIds_leaves ids h).bind fun _ q hq => ?_
  refine (Configuring.applyPlugin_leaves 0 hq).bind fun _ q hq => ?_
  have hreport : ∀ q : Project, q.Configured [.variantAnalysis 0, .analysis] →
      Leaves (fun _ q => q.Configured [.variantAnalysis 0, .analysis])
        ((do
          let p ← get
          Configuring.report (.projectLoaded p.name p.directories.project) :
            Configuring Unit) q) := fun q hq => Configuring.report_leaves _ hq
  cases withDefault Shape.object fields "dependencies" [] with
  | error f => trivial
  | ok dependencies =>
      exact (declareEach_leaves dependencies hq).bind fun _ q hq => hreport q hq

/-- A project that loading returned, from a file or from a description that was
already read. -/
inductive Loaded (p : Project) : Prop where
  | file (tree : FileTree) (current : Location) (path : Path)
      (h : (load tree current path).outcome = .ok p)
  | fields (tree : FileTree) (current : Location) (base : Path) (fields : Fields)
      (h : (loadFields tree current base fields).outcome = .ok p)

theorem configured_of_loadIn {tree : FileTree} {directory : Location} {fields : Fields}
    (h : (loadIn tree directory fields).outcome = .ok p) :
    p.Configured [.variantAnalysis 0, .analysis] := by
  unfold loadIn at h
  cases hd : Draft.ofFields directory fields with
  | error f =>
      rw [hd] at h
      cases h
  | ok draft =>
      have hfresh : (draft.project tree).Configured [] :=
        ⟨rfl, rfl, rfl, android_of_ofFields hd⟩
      have hleaves := configure_leaves draft.plugins fields hfresh
      rw [hd] at h
      simp only at h
      split at h
      · cases h
      · next hc =>
          rw [(Configuring.attempt_eq_ok_iff.1 hc).1] at hleaves
          cases h
          exact hleaves
      · cases h

/-- Loading leaves a project configured with the two analysis plugins. -/
theorem Loaded.configured (h : Loaded p) : p.Configured [.variantAnalysis 0, .analysis] := by
  have hfields : ∀ {tree : FileTree} {current : Location} {base : Path} {fields : Fields},
      (loadFields tree current base fields).outcome = .ok p →
        p.Configured [.variantAnalysis 0, .analysis] := by
    intro tree current base fields hload
    unfold loadFields at hload
    split at hload
    · cases hload
    · exact configured_of_loadIn hload
  cases h with
  | fields tree current base fields hload => exact hfields hload
  | file tree current path hload =>
      unfold load at hload
      split at hload
      · cases hload
      · exact hfields hload

theorem Loaded.configured_with (h : Loaded p) (options : AnalysisOptions) :
    Project.Configured [.variantAnalysis 0, .analysis] { p with options } :=
  ⟨h.configured.applied, h.configured.evaluated, h.configured.graph, h.configured.android⟩

end Description

end AnalysisPlan
