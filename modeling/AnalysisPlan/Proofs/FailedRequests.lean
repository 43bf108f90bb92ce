import AnalysisPlan.Proofs.Finalizing

/-!
# What a failed request leaves behind

A request is carried out step by step and nothing is taken back where a step fails. So a
failed request may leave marks, recorded plugins, completed options and a configuration,
but never a task (`Project.Fails`). What it left makes a second attempt return at once,
and the plugins that it recorded are finalized like all others
(`Configuring.apply_fails`).
-/

namespace AnalysisPlan

/-- What is recorded when a plugin is applied: the variant plugin brings the plain one. -/
def Plugin.chain : Plugin → List Plugin
  | variantAnalysis serial => [variantAnalysis serial, analysis]
  | plugin => [plugin]

theorem Plugin.mem_chain (plugin : Plugin) : plugin ∈ plugin.chain := by
  cases plugin <;> exact List.mem_cons_self

namespace Project

def marking (p : Project) (ids : List String) : List String :=
  p.pluginIds ++ ids.filter (· ∉ p.pluginIds)

/-- The ways in which a request can fail that is not for an addon, each with the fault
and the project that is left. -/
inductive Fails (p : Project) : Request → Fault → Project → Prop
  | evaluated (h : p.evaluated = true) (r : Request) :
      Fails p r (.pluginAfterEvaluation p.name) p
  | check (h : p.evaluated = false) (new : Plugin.lifecycleBase ∉ p.pluginIds)
      (taken : checkTask.name ∈ p.graph.names) (registry : Registry)
      (graph : registry.graph = p.graph) :
      Fails p (.mark Plugin.lifecycleBase) (.taskExists checkTask.name)
        { p with pluginIds := p.pluginIds ++ [Plugin.lifecycleBase], registry }
  | configuration (plugin : Plugin) (h : p.evaluated = false)
      (new : ∀ a ∈ plugin.chain, p.hasApplied a.id = false) (taken : p.analysisTaken)
      (registry : Registry) (graph : registry.graph = p.graph) :
      Fails p (.apply plugin) (.configurationExists p.takenName)
        { p with
          pluginIds := p.marking (plugin.chain.map (·.id))
          applied := p.applied ++ plugin.chain
          history := p.history ++ plugin.chain.map .applied
          options := p.completedOptions
          configurations := p.configurations ++ p.untaken
          registry }

variable {p q : Project} {r : Request} {f : Fault} {id : String}

theorem marking_singleton (p : Project) (id : String) :
    p.marking [id] = if id ∈ p.pluginIds then p.pluginIds else p.pluginIds ++ [id] := by
  unfold marking
  split <;> simp [*]

theorem marking_marking (p : Project) {ids ids' : List String} (h : ∀ id ∈ ids', id ∉ ids) :
    marking { p with pluginIds := p.marking ids } ids' = p.marking (ids ++ ids') := by
  have hsame : ids'.filter (· ∉ p.marking ids) = ids'.filter (· ∉ p.pluginIds) := by
    refine List.filter_congr fun id hid => ?_
    simp [marking, h id hid]
  change p.marking ids ++ ids'.filter (· ∉ p.marking ids) = _
  rw [hsame, marking, marking, List.filter_append, List.append_assoc]

theorem mem_marking {ids : List String} (h : id ∈ ids) : id ∈ p.marking ids := by
  by_cases hold : id ∈ p.pluginIds
  · exact List.mem_append_left _ hold
  · exact List.mem_append_right _ (List.mem_filter.2 ⟨h, by simpa using hold⟩)

theorem Marks.ids_eq (h : Marks id p q) : q.pluginIds = p.marking [id] :=
  h.ids.trans (p.marking_singleton id).symm

theorem Marks.graph_eq (h : Marks id p q) (hid : id ≠ Plugin.lifecycleBase) :
    q.graph = p.graph := by
  have hnodes := h.nodes
  rw [if_neg fun hbase => hid hbase.1, List.append_nil] at hnodes
  exact congrArg TaskGraph.mk hnodes

theorem Fails.graph_eq (h : p.Fails r f q) : q.graph = p.graph := by
  cases h with
  | evaluated => rfl
  | check _ _ _ _ hgraph => exact hgraph
  | configuration _ _ _ _ _ hgraph => exact hgraph

theorem Fails.mem_applied {plugin : Plugin} (h : p.Fails (.apply plugin) f q)
    (hopen : p.evaluated = false) : plugin ∈ q.applied := by
  cases h with
  | evaluated hevaluated =>
      rw [hopen] at hevaluated
      cases hevaluated
  | configuration => exact List.mem_append_right _ plugin.mem_chain

theorem Fails.evaluated_eq (h : p.Fails r f q) : q.evaluated = p.evaluated := by
  cases h <;> rfl

end Project

namespace Configuring

variable {p q : Project} {r : Request} {f : Fault}

/-- An identifier that brings no task can be marked. -/
theorem applyId_marking {id : String} (h : p.evaluated = false)
    (hid : id ≠ Plugin.lifecycleBase) :
    ∃ registry : Registry, registry.graph = p.graph ∧
      applyId id p = .ok () { p with pluginIds := p.marking [id], registry } := by
  obtain ⟨m, hrun, hm⟩ := applyId_marks h fun hbase => absurd hbase hid
  refine ⟨m.registry, hm.graph_eq hid, ?_⟩
  rw [hrun, ← hm.ids_eq, ← hm.kept]

/-- Asked for a second time, a request that failed returns at once. -/
theorem apply_again (h : p.Fails r f q) (hopen : p.evaluated = false) :
    apply r q = .ok () q := by
  have hq : q.evaluated = false := h.evaluated_eq.trans hopen
  cases h with
  | evaluated hevaluated =>
      rw [hopen] at hevaluated
      cases hevaluated
  | check _ _ _ registry =>
      refine apply_of_nothing (bind_of_ok (applyId_of_mem hq ?_) _)
      exact List.mem_append_right _ (List.mem_singleton_self _)
  | configuration plugin =>
      have hmark := applyId_of_mem hq
        (Project.mem_marking (List.mem_map_of_mem plugin.mem_chain))
      refine apply_of_nothing (applyOne_of_applied hmark (Project.hasApplied_iff.2 ?_))
      exact ⟨plugin, List.mem_append_right _ plugin.mem_chain, rfl⟩

theorem mark_fails {id : String} (hopen : p.evaluated = false)
    (h : apply (.mark id) p = .error f q) : p.Fails (.mark id) f q := by
  have hcheck : id = Plugin.lifecycleBase ∧ id ∉ p.pluginIds ∧
      Project.checkTask.name ∈ p.graph.names := by
    by_contra hnot
    have hfree : id = Plugin.lifecycleBase →
        id ∈ p.pluginIds ∨ Project.checkTask.name ∉ p.graph.names := by tauto
    obtain ⟨m, hid, -⟩ := applyId_marks hopen hfree
    rw [apply_of_nothing (r := .mark id) (bind_of_ok hid _)] at h
    cases h
  obtain ⟨rfl, hnew, htaken⟩ := hcheck
  obtain ⟨registry, hgraph, hfail⟩ := applyId_of_check hopen hnew htaken
  rw [apply_of_error (r := .mark _) (bind_of_error hfail _)] at h
  cases h
  exact .check hopen hnew htaken registry hgraph

/-- The plain analysis fails, and stays recorded, where one of its configurations is
there already. -/
theorem analysis_fails {n : Nat} (hopen : p.evaluated = false)
    (h : (applyOne .analysis >>= answerQueue n) p = .error f q) :
    p.Fails (.apply .analysis) f q := by
  obtain ⟨registry, hgraph, hid⟩ :=
    applyId_marking hopen (by decide : Plugin.analysis.id ≠ Plugin.lifecycleBase)
  cases hnew : p.hasApplied Plugin.analysis.id with
  | true =>
      rw [bind_of_ok (applyOne_of_applied hid hnew), answerQueue_nil] at h
      cases h
  | false =>
      by_cases htaken : p.analysisTaken
      · obtain ⟨registry', hgraph', hfail⟩ := applyOne_of_taken hid hnew htaken
        rw [bind_of_error hfail] at h
        cases h
        exact .configuration .analysis hopen (by simpa [Plugin.chain] using hnew) htaken registry'
          (hgraph'.trans hgraph)
      · obtain ⟨_, _, _, -, -, hrun⟩ := applyOne_records hid hnew fun _ => htaken
        rw [bind_of_ok hrun, Project.brings, answerQueue_nil] at h
        cases h

/-- The variant plugin fails where the plain one does that it brings along, and both stay
recorded. -/
theorem variantAnalysis_fails {serial : Nat} (hopen : p.evaluated = false)
    (h : apply (.apply (.variantAnalysis serial)) p = .error f q) :
    p.Fails (.apply (.variantAnalysis serial)) f q := by
  let plugin := Plugin.variantAnalysis serial
  have hbase : plugin.id ≠ Plugin.lifecycleBase :=
    (by decide : (Plugin.variantAnalysis 0).id ≠ Plugin.lifecycleBase)
  obtain ⟨registry, hgraph, hid⟩ := applyId_marking hopen hbase
  cases hnew : p.hasApplied plugin.id with
  | true =>
      rw [apply_of_nothing (r := .apply plugin) (applyOne_of_applied hid hnew)] at h
      cases h
  | false =>
      obtain ⟨n, hn⟩ := exists_apply_eq (.apply plugin) p
      replace h := (bind_of_ok (applyOne_of_new hid hnew) _).symm.trans (hn.symm.trans h)
      change answerQueue (n + 1) [.apply .analysis] _ = _ at h
      rw [answerQueue_singleton] at h
      cases analysis_fails (by exact hopen) h with
      | evaluated hevaluated =>
          rw [show p.evaluated = true from hevaluated] at hopen
          cases hopen
      | configuration _ _ hnew' htaken registry' hgraph' =>
          have hbrought : p.hasApplied Plugin.analysis.id = false := by
            have := hnew' .analysis Plugin.analysis.mem_chain
            rw [Project.hasApplied_recording, Bool.or_eq_false_iff] at this
            exact this.1
          change p.Fails (.apply plugin) _ { p with
            pluginIds := Project.marking { p with pluginIds := p.marking [plugin.id] }
              [Plugin.analysis.id]
            applied := p.applied ++ [plugin] ++ [.analysis]
            history := p.history ++ [.applied plugin] ++ [.applied .analysis]
            options := p.completedOptions
            configurations := p.configurations ++ p.untaken
            registry := registry' }
          rw [Project.marking_marking p (by simp [plugin, Plugin.id]), List.append_assoc,
            List.append_assoc]
          exact .configuration plugin hopen
            (by simpa [plugin, Plugin.chain] using ⟨hnew, hbrought⟩) htaken registry'
            (hgraph'.trans hgraph)

/-- A request that is not for an addon and fails leaves the tasks and what they depend on
as they were. If the project was evaluated it leaves everything as it was, and fails
again in the same way. Otherwise it leaves behind what was done before the failing step
(`Project.Fails`); a second attempt returns and changes nothing, the plugin that was asked
for is among those that are recorded, and evaluating finalizes these in order. -/
theorem apply_fails (p q : Project) (r : Request) (f : Fault)
    (hr : ∀ id key, r ≠ .apply (.addon id key)) (h : apply r p = .error f q) :
    p.Fails r f q ∧ q.graph = p.graph ∧
      (p.evaluated = true → q = p ∧ apply r q = .error f q) ∧
      (p.evaluated = false → apply r q = .ok () q ∧ q.FinalizesInOrder ∧
        ∀ plugin, r = .apply plugin → plugin ∈ q.applied) := by
  have hfails : p.Fails r f q := by
    cases hopen : p.evaluated with
    | true =>
        rw [apply_of_evaluated hopen] at h
        cases h
        exact .evaluated hopen r
    | false =>
        cases r with
        | mark id => exact mark_fails hopen h
        | apply plugin =>
            cases plugin with
            | analysis =>
                obtain ⟨n, hn⟩ := exists_apply_eq (.apply .analysis) p
                exact analysis_fails hopen (hn.symm.trans h)
            | variantAnalysis serial => exact variantAnalysis_fails hopen h
            | addon id key => exact absurd rfl (hr id key)
  refine ⟨hfails, hfails.graph_eq, fun hevaluated => ?_, fun hopen => ?_⟩
  · rw [apply_of_evaluated hevaluated] at h
    cases h
    exact ⟨rfl, apply_of_evaluated hevaluated r⟩
  · refine ⟨apply_again hfails hopen, finalizesInOrder (hfails.evaluated_eq.trans hopen), ?_⟩
    rintro plugin rfl
    exact hfails.mem_applied hopen

/-- A project in which the configuration of the analyser was created by hand. -/
def occupied : Project :=
  { Project.fresh "app" "/project" none (fun _ => false) with
    configurations := [Project.analyser] }

theorem apply_fails_occupied :
    ∃ q, apply (.apply .analysis) occupied = .error (.configurationExists "detekt") q ∧
      q.graph = occupied.graph ∧ apply (.apply .analysis) q = .ok () q ∧
      q.FinalizesInOrder ∧ .analysis ∈ q.applied := by
  have hrun : apply (.apply .analysis) occupied =
      .error (.configurationExists "detekt") (ended (apply (.apply .analysis) occupied)).2 := rfl
  obtain ⟨-, hgraph, -, hopen⟩ := apply_fails _ _ _ _ (by simp) hrun
  obtain ⟨hagain, horder, hmem⟩ := hopen rfl
  exact ⟨_, hrun, hgraph, hagain, horder, hmem .analysis rfl⟩

/-- A failed request does leave something behind. -/
theorem not_forall_apply_error_unchanged :
    ¬∀ (name directory : String) (buildDirectory : Option String) (present : String → Bool)
        (c : Configuration) (p q : Project) (r : Request) (f : Fault),
      change (·.createConfiguration c)
        (Project.fresh name directory buildDirectory present) = .ok () p →
      (∀ id key, r ≠ .apply (.addon id key)) → apply r p = .error f q →
      q.pluginIds = p.pluginIds ∧ q.applied = p.applied ∧ q.options = p.options ∧
        q.configurations = p.configurations ∧ q.graph = p.graph ∧
        apply r q = .error f q := by
  intro h
  have hrun : apply (.apply .analysis) occupied =
      .error (.configurationExists "detekt") (ended (apply (.apply .analysis) occupied)).2 := rfl
  obtain ⟨hids, -⟩ := h "app" "/project" none (fun _ => false) Project.analyser occupied _
    (.apply .analysis) _ rfl (by simp) hrun
  revert hids
  decide +kernel

end Configuring

end AnalysisPlan
