import AnalysisPlan.Proofs.PlannedNames

/-!
# The graph that evaluation leaves

An evaluation that returns leaves a graph that is known from the project
(`Configuring.nodes_of_evaluate`): the task of all checks, which depends on the
plain analysis, the tasks of the variants with their umbrellas, and the tasks of
the project's own, which depend on nothing. Their names are the planned ones and
different, so every planned task is found under its name.
-/

namespace AnalysisPlan

theorem Umbrella.name_ne_check (u : Umbrella) : u.name ≠ Project.checkTask.name := by
  cases u <;> decide

/-- Planning source sets adds tasks and connects none. -/
theorem SourceSet.mem_course {r : Registrar} {sets : List SourceSet} {m : Move}
    (h : m ∈ course r sets) :
    (∃ f, m = .refuse f) ∨ ∃ s ∈ sets, m = .add ⟨r.taskFor s.unit, ∅⟩ := by
  obtain ⟨s, hs, hm⟩ := List.mem_flatMap.1 h
  rcases List.mem_append.1 hm with hm | hm
  · unfold refusals at hm
    split at hm
    · exact .inl ⟨_, List.mem_singleton.1 hm⟩
    · cases hm
  · unfold Registrar.moves Registration.unnamed at hm
    rcases List.mem_append.1 hm with hm | hm
    · split at hm
      · exact .inl ⟨_, List.mem_singleton.1 hm⟩
      · cases hm
    · exact .inr ⟨s, hs, List.mem_singleton.1 hm⟩

namespace Project

def sourceSetTasks (p : Project) : List Task :=
  if p.hasPlugin Plugin.kotlinJvm then p.sourceSets.map (p.registrar.taskFor ·.unit) else []

/-- The tasks of a project that no variant leads to, apart from that of all checks. -/
def ownTasks (p : Project) : List Task :=
  [p.analysisTask, p.baselineTask, generateConfigTask] ++ p.sourceSetTasks

/-- The task of all checks, with what it depends on in the end. -/
def checkNodes (p : Project) : List TaskNode :=
  if p.hasPlugin Plugin.lifecycleBase then
    [⟨checkTask, (∅ : NameSet).insert Task.analysisName⟩]
  else []

/-- The tasks of the variants and their umbrellas, with what they depend on. -/
def variantNodes (p : Project) : List TaskNode :=
  (Enlistment.tasks p.registrar [] p.enlistments).map fun t =>
    ⟨t, Enlistment.gathered p.enlistments t.name⟩

/-- The tasks that a project has when all is planned, with what they depend on. -/
def plannedNodes (p : Project) : List TaskNode :=
  p.checkNodes ++ p.variantNodes ++ p.ownTasks.map (⟨·, ∅⟩)

variable {p : Project} {g g' : TaskGraph}

theorem nodes_sourceSetCourse (p : Project) :
    Move.nodes p.sourceSetCourse = p.sourceSetTasks.map (⟨·, ∅⟩) := by
  unfold sourceSetCourse sourceSetTasks
  split
  · induction p.sourceSets with
    | nil => rfl
    | cons s sets ih =>
        have hone : Move.nodes (s.refusals ++ p.registrar.moves s.unit) =
            [⟨p.registrar.taskFor s.unit, ∅⟩] := by
          unfold SourceSet.refusals Registrar.moves Registration.unnamed
          split <;> split <;> rfl
        rw [SourceSet.course, List.flatMap_cons, Move.nodes_append, hone]
        exact congrArg (_ :: ·) ih
  · rfl

theorem nodes_projectCourse (p : Project) :
    Move.nodes p.projectCourse = p.ownTasks.map (⟨·, ∅⟩) := by
  have hcheck : Move.nodes p.checkCourse = [] := by
    unfold checkCourse
    split <;> rfl
  rw [projectCourse, Move.nodes_append, Move.nodes_append, hcheck, nodes_sourceSetCourse,
    ownTasks, List.map_append]
  rfl

theorem connect_mem_projectCourse_iff {name dependency : String} :
    .connect name dependency ∈ p.projectCourse ↔
      p.hasPlugin Plugin.lifecycleBase = true ∧ name = checkTask.name ∧
        dependency = Task.analysisName := by
  have hsets : .connect name dependency ∉ p.sourceSetCourse := by
    unfold sourceSetCourse
    split
    · intro hm
      rcases SourceSet.mem_course hm with ⟨f, hm⟩ | ⟨s, -, hm⟩ <;> cases hm
    · exact List.not_mem_nil
  have hcheck : .connect name dependency ∈ p.checkCourse ↔
      p.hasPlugin Plugin.lifecycleBase = true ∧ name = checkTask.name ∧
        dependency = Task.analysisName := by
    unfold checkCourse
    split
    · next hbase => simp [hbase]
    · next hbase => simp [hbase]
  simp [projectCourse, hsets, hcheck]

theorem nodes_of_variantCourse (h : g.follow p.variantCourse = (g', none)) :
    g'.nodes = g.nodes ++ p.variantNodes := by
  unfold variantCourse at h
  unfold variantNodes enlistments
  split at h
  · next hplugin =>
      cases h
      simp [hplugin, Enlistment.tasks]
  · next hplugin =>
      rw [if_neg hplugin]
      cases hsource : p.variantSource with
      | error f =>
          rw [hsource] at h
          cases h
      | ok source? =>
          rw [hsource] at h
          cases source? with
          | none => cases h
          | some source =>
              have hnodes := Enlistment.nodes_of_completed h
              rwa [Resolver.ofEntries_entries, survivors_resolverFor] at hnodes

theorem settle_projectCourse_of_ne {n : TaskNode} (h : n.task.name ≠ checkTask.name) :
    Move.settle p.projectCourse n = n := by
  apply Move.settle_of_not_connected
  intro k hk
  exact h (connect_mem_projectCourse_iff.1 hk).2.1

theorem settle_projectCourse_check (h : p.hasPlugin Plugin.lifecycleBase = true) :
    Move.settle p.projectCourse ⟨checkTask, ∅⟩ =
      ⟨checkTask, (∅ : NameSet).insert Task.analysisName⟩ := by
  have htask := Move.settle_task p.projectCourse ⟨checkTask, ∅⟩
  have hneeds : (Move.settle p.projectCourse ⟨checkTask, ∅⟩).needs =
      (∅ : NameSet).insert Task.analysisName := by
    apply NameSet.ext_mem
    intro k
    rw [Move.mem_needs_settle, connect_mem_projectCourse_iff]
    simp [h]
  cases hs : Move.settle p.projectCourse ⟨checkTask, ∅⟩
  simp_all

theorem ne_check_of_mem_variantNodes {n : TaskNode} (h : n ∈ p.variantNodes) :
    n.task.name ≠ checkTask.name := by
  rintro hname
  apply p.check_not_mem_course (.variantAnalysis 0)
  obtain ⟨t, ht, rfl⟩ := List.mem_map.1 h
  rw [course, names_variantCourse, ← Enlistment.names_tasks p.registrar, ← hname]
  exact List.mem_map_of_mem ht

theorem ne_check_of_mem_ownTasks {t : Task} (h : t ∈ p.ownTasks) :
    t.name ≠ checkTask.name := by
  rintro hname
  apply p.check_not_mem_course .analysis
  rw [course, Move.names, nodes_projectCourse, List.map_map, ← hname]
  exact List.mem_map_of_mem h

theorem names_ownTasks (p : Project) :
    p.ownTasks.map (·.name) =
      ["detekt", "detektBaseline", "detektGenerateConfig"] ++
        if p.hasPlugin Plugin.kotlinJvm then p.sourceSets.map (Task.nameFor ·.name) else [] := by
  rw [ownTasks, List.map_append, sourceSetTasks]
  split
  · rw [List.map_map]
    rfl
  · rfl

theorem names_plannedNodes (p : Project) :
    p.plannedNodes.map (·.task.name) = p.plannedNames := by
  have hcheck : p.checkNodes.map (·.task.name) =
      if p.hasPlugin Plugin.lifecycleBase then ["check"] else [] := by
    unfold checkNodes
    split <;> rfl
  have hvariants : p.variantNodes.map (·.task.name) = Enlistment.roll [] p.enlistments := by
    rw [← Enlistment.names_tasks p.registrar, variantNodes, List.map_map]
    rfl
  have hown : (p.ownTasks.map fun t => (⟨t, ∅⟩ : TaskNode)).map (·.task.name) =
      p.ownTasks.map (·.name) := by
    rw [List.map_map]
    rfl
  rw [plannedNodes, List.map_append, List.map_append, hcheck, hvariants, hown,
    names_ownTasks, plannedNames, ← List.append_assoc]

theorem mem_variantNodes {n : TaskNode} :
    n ∈ p.variantNodes ↔
      (∃ e ∈ p.enlistments,
        n = ⟨e.task p.registrar, Enlistment.gathered p.enlistments e.taskName⟩) ∨
      ∃ u : Umbrella, (∃ e ∈ p.enlistments, e.umbrella = u) ∧
        n = ⟨u.task, Enlistment.gathered p.enlistments u.name⟩ := by
  have hfounded : ∀ u, u ∈ Enlistment.founded [] p.enlistments ↔
      ∃ e ∈ p.enlistments, e.umbrella = u := by
    intro u
    simp [Enlistment.mem_founded]
  rw [variantNodes, List.mem_map]
  simp only [(Enlistment.tasks_perm p.registrar [] p.enlistments).mem_iff, List.mem_append,
    List.mem_map, hfounded]
  constructor
  · rintro ⟨_, ⟨e, he, rfl⟩ | ⟨u, hu, rfl⟩, rfl⟩
    · exact .inl ⟨e, he, rfl⟩
    · exact .inr ⟨u, hu, rfl⟩
  · rintro (⟨e, he, rfl⟩ | ⟨u, hu, rfl⟩)
    · exact ⟨_, .inl ⟨e, he, rfl⟩, rfl⟩
    · exact ⟨_, .inr ⟨u, hu, rfl⟩, rfl⟩

theorem mem_checkNodes {n : TaskNode} :
    n ∈ p.checkNodes ↔ p.hasPlugin Plugin.lifecycleBase = true ∧
      n = ⟨checkTask, (∅ : NameSet).insert Task.analysisName⟩ := by
  unfold checkNodes
  split
  · next hbase => simp [hbase]
  · next hbase => simp [hbase]

theorem mem_plannedNodes {n : TaskNode} :
    n ∈ p.plannedNodes ↔
      n ∈ p.checkNodes ∨ n ∈ p.variantNodes ∨ ∃ t ∈ p.ownTasks, n = ⟨t, ∅⟩ := by
  simp [plannedNodes, eq_comm]

theorem kind_of_mem_ownTasks {t : Task} (h : t ∈ p.ownTasks) : t.kind ≠ .lifecycle := by
  rw [ownTasks, sourceSetTasks] at h
  rcases List.mem_append.1 h with h | h
  · simp only [List.mem_cons, List.not_mem_nil, or_false] at h
    rcases h with rfl | rfl | rfl <;> simp [analysisTask, baselineTask, generateConfigTask]
  · split at h
    · obtain ⟨s, -, rfl⟩ := List.mem_map.1 h
      simp
    · cases h

theorem ne_of_mem_variantNodes {n : TaskNode} {t : Task} (h : p.plannedNames.Nodup)
    (hn : n ∈ p.variantNodes) (ht : t ∈ p.ownTasks) : n.task.name ≠ t.name := by
  rw [← names_plannedNodes, plannedNodes, List.map_append] at h
  refine (List.nodup_append.1 h).2.2 _ ?_ _ ?_
  · exact List.mem_map_of_mem (List.mem_append_right _ hn)
  · exact List.mem_map.2 ⟨⟨t, ∅⟩, List.mem_map_of_mem ht, rfl⟩

namespace Configured

variable (h : p.Configured [.variantAnalysis 0, .analysis])

include h

theorem nodes_of_completed
    (hcourse : p.graph.follow (p.applied.flatMap p.course) = (g', none)) :
    g'.nodes = p.plannedNodes := by
  rw [h.course_eq] at hcourse
  obtain ⟨m, hvariants, hproject⟩ := TaskGraph.exists_of_follow_append hcourse
  have hm := nodes_of_variantCourse hvariants
  have hgrounded : Move.Grounded m.names p.projectCourse := by
    apply Move.grounded_of_known
    intro name dependency hconnect
    obtain ⟨hbase, rfl, -⟩ := connect_mem_projectCourse_iff.1 hconnect
    rw [TaskGraph.names_of_completed hvariants]
    exact List.mem_append_left _ (h.hasCheck.2 hbase)
  have hcheck : p.graph.nodes.map (Move.settle p.projectCourse) = p.checkNodes := by
    rw [h.graph, checkNodes]
    split
    · next hbase => rw [List.map_singleton, settle_projectCourse_check hbase]
    · rfl
  have hvariant : p.variantNodes.map (Move.settle p.projectCourse) = p.variantNodes := by
    rw [List.map_congr_left fun n hn =>
      settle_projectCourse_of_ne (ne_check_of_mem_variantNodes hn), List.map_id']
  have hown : (p.ownTasks.map fun t => (⟨t, ∅⟩ : TaskNode)).map (Move.settle p.projectCourse) =
      p.ownTasks.map (⟨·, ∅⟩) := by
    rw [List.map_map]
    apply List.map_congr_left
    intro t ht
    exact settle_projectCourse_of_ne (n := ⟨t, ∅⟩) (ne_check_of_mem_ownTasks ht)
  rw [TaskGraph.nodes_of_completed hgrounded hproject, hm, nodes_projectCourse, plannedNodes,
    List.map_append, List.map_append, hcheck, hvariant, hown]

end Configured

end Project

namespace Configuring

variable {p q : Project}

/-- An evaluation that returns leaves the planned tasks, each with what it depends
on, under different names. -/
theorem nodes_of_evaluate (h : p.Configured [.variantAnalysis 0, .analysis])
    (hq : evaluate p = .ok () q) :
    q.graph.nodes = p.plannedNodes ∧ q.graph.names.Nodup := by
  have hfollows := evaluate_follows h.evaluated h.hasCheck
  rw [hq] at hfollows
  have hnodes := h.nodes_of_completed hfollows.1
  have hnodup := (h.course_completes_iff.1 (congrArg Prod.snd hfollows.1)).2.2
  refine ⟨hnodes, ?_⟩
  rwa [TaskGraph.names_eq_nodes, hnodes, Project.names_plannedNodes]

theorem exists_evaluate_iff (h : p.Configured [.variantAnalysis 0, .analysis]) :
    (∃ q, evaluate p = .ok () q) ↔
      (p.hasPlugin Plugin.kotlinAndroid = true → p.VariantsFit) ∧
        (p.hasPlugin Plugin.kotlinJvm = true →
          ∀ s ∈ p.sourceSets, s.kotlinSources ≠ none ∧ s.name ≠ "") ∧
        p.plannedNames.Nodup := by
  have hfollows := evaluate_follows h.evaluated h.hasCheck
  rw [← h.course_completes_iff, ← hfollows.returns_iff]
  constructor
  · rintro ⟨q, hq⟩
    exact ⟨(), q, hq⟩
  · rintro ⟨_, q, hq⟩
    exact ⟨q, hq⟩

end Configuring

namespace Description.Loading

/-- Whether loading returns a project that evaluation makes something of, so that both
pass a test. -/
def evaluates (loading : Loading) (test : Project → Project → Bool) : Bool :=
  loading.outcome.toOption.any fun p =>
    ((do Configuring.evaluate; get : Configuring Project).run' p).any (test p)

theorem exists_of_evaluates {loading : Loading} {test : Project → Project → Bool}
    (h : loading.evaluates test = true) :
    ∃ p q, loading.outcome = .ok p ∧ Configuring.evaluate p = .ok () q ∧ test p q = true := by
  unfold evaluates at h
  cases hload : loading.outcome with
  | error failure =>
      rw [hload] at h
      cases h
  | ok p =>
      rw [hload] at h
      change (EStateM.run' (EStateM.bind Configuring.evaluate fun _ => get) p).any (test p) = true
        at h
      unfold EStateM.run' EStateM.run EStateM.bind at h
      cases hq : Configuring.evaluate p with
      | error f q =>
          rw [hq] at h
          cases h
      | ok a q =>
          rw [hq] at h
          exact ⟨p, q, rfl, hq, h⟩

end Description.Loading

end AnalysisPlan
