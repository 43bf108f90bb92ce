import AnalysisPlan.Proofs.PlannedTasks
import AnalysisPlan.Proofs.Resolving

/-!
# Two layers of tasks

In a graph that planning builds, only lifecycle tasks depend on others, and they
depend on analyses, which nothing else depends on (`TaskGraph.Layered`). So there
are no cycles and no longer paths. This holds at every point of the construction,
and evaluation may break off at any of them.

A course keeps a graph in layers if each of its dependencies leads from a lifecycle
task to an analysis that is still free (`Move.Orderly`). The free analyses are kept
in a list with the last one in front: a variant's task is taken by its umbrella
right after it was added, and the plain analysis by the task of all checks.
-/

namespace AnalysisPlan

/-- A dependency leads from a lifecycle task to an analysis of its own. -/
structure TaskGraph.Layered (g : TaskGraph) : Prop where
  distinct : g.names.Nodup
  edges : ∀ n ∈ g.nodes, ∀ k ∈ n.needs,
    n.task.kind = .lifecycle ∧ ∃ m ∈ g.nodes, m.task.name = k ∧ m.task.kind = .analysis
  apart : ∀ n ∈ g.nodes, ∀ m ∈ g.nodes, ∀ k, k ∈ n.needs → k ∈ m.needs → n = m
  sheltering : ∀ n ∈ g.nodes, n.task.kind = .lifecycle →
    ∀ u : Umbrella, n.task.name = u.name → n.needs.names ≠ []

/-- A course whose dependencies lead from lifecycle tasks, the known ones or those
it adds, to analyses that are free, the known ones or those it adds. -/
inductive Move.Orderly : List String → List String → List Move → Prop
  | done (heads free : List String) : Orderly heads free []
  | plain {heads free : List String} {task : Task} {moves : List Move}
      (hkind : task.kind ≠ .lifecycle) (rest : Orderly heads free moves) :
      Orderly heads free (add ⟨task, ∅⟩ :: moves)
  | analysis {heads free : List String} {task : Task} {moves : List Move}
      (hkind : task.kind = .analysis) (rest : Orderly heads (task.name :: free) moves) :
      Orderly heads free (add ⟨task, ∅⟩ :: moves)
  | found {heads free : List String} {task : Task} {k : String} {moves : List Move}
      (hkind : task.kind = .lifecycle) (rest : Orderly (task.name :: heads) free moves) :
      Orderly heads (k :: free) (add ⟨task, (∅ : NameSet).insert k⟩ :: moves)
  | connect {heads free : List String} {name k : String} {moves : List Move}
      (hname : name ∈ heads) (rest : Orderly heads free moves) :
      Orderly heads (k :: free) (connect name k :: moves)
  | refuse {heads free : List String} {f : Fault} {moves : List Move}
      (rest : Orderly heads free moves) : Orderly heads free (refuse f :: moves)

namespace TaskGraph

/-- The heads are lifecycle tasks of the graph, and the free names are those of
analyses that nothing depends on. -/
structure Offers (g : TaskGraph) (heads free : List String) : Prop where
  lifecycles : ∀ name ∈ heads, ∃ n ∈ g.nodes, n.task.name = name ∧ n.task.kind = .lifecycle
  analyses : ∀ k ∈ free, ∃ n ∈ g.nodes, n.task.name = k ∧ n.task.kind = .analysis
  untaken : ∀ k ∈ free, ∀ n ∈ g.nodes, k ∉ n.needs
  distinct : free.Nodup

variable {g : TaskGraph} {heads free : List String} {task : Task} {name k : String}

theorem mem_nodes_append {n m : TaskNode} :
    m ∈ (g.append n).nodes ↔ m ∈ g.nodes ∨ m = n := by
  simp [append]

theorem mem_nodes_tie {m : TaskNode} :
    m ∈ (g.tie name k).nodes ↔ ∃ n ∈ g.nodes, needing name k n = m := by
  simp [tie]

theorem mem_needs_needing {j : String} {n : TaskNode} :
    j ∈ (needing name k n).needs ↔ j ∈ n.needs ∨ n.task.name = name ∧ j = k := by
  have h := Move.mem_needs_settleOne (k := j) (n := n) (m := .connect name k)
  rwa [Move.connect.injEq] at h

theorem mem_needs_singleton {j : String} : j ∈ (∅ : NameSet).insert k ↔ j = k := by
  simp

theorem nodup_names_append {n : TaskNode} (h : g.names.Nodup) (hnew : n.task.name ∉ g.names) :
    (g.append n).names.Nodup := by
  rw [names_append, List.nodup_append]
  refine ⟨h, by simp, ?_⟩
  rintro a ha b hb rfl
  obtain rfl := List.mem_singleton.1 hb
  exact hnew ha

/-! ## One move -/

theorem Layered.append_leaf (h : g.Layered) (hnew : task.name ∉ g.names)
    (hkind : task.kind ≠ .lifecycle) : (g.append ⟨task, ∅⟩).Layered where
  distinct := nodup_names_append h.distinct hnew
  edges := by
    intro n hn j hj
    rcases mem_nodes_append.1 hn with hn | rfl
    · obtain ⟨hlife, m, hm, hmk⟩ := h.edges n hn j hj
      exact ⟨hlife, m, mem_nodes_append.2 (.inl hm), hmk⟩
    · exact absurd hj (NameSet.not_mem_empty j)
  apart := by
    intro n hn m hm j hj hj'
    rcases mem_nodes_append.1 hn with hn | rfl
    · rcases mem_nodes_append.1 hm with hm | rfl
      · exact h.apart n hn m hm j hj hj'
      · exact absurd hj' (NameSet.not_mem_empty j)
    · exact absurd hj (NameSet.not_mem_empty j)
  sheltering := by
    intro n hn hlife
    rcases mem_nodes_append.1 hn with hn | rfl
    · exact h.sheltering n hn hlife
    · exact absurd hlife hkind

theorem Offers.append_leaf (h : g.Offers heads free) :
    (g.append ⟨task, ∅⟩).Offers heads free where
  lifecycles := by
    intro a ha
    obtain ⟨n, hn, hna⟩ := h.lifecycles a ha
    exact ⟨n, mem_nodes_append.2 (.inl hn), hna⟩
  analyses := by
    intro a ha
    obtain ⟨n, hn, hna⟩ := h.analyses a ha
    exact ⟨n, mem_nodes_append.2 (.inl hn), hna⟩
  untaken := by
    intro a ha n hn
    rcases mem_nodes_append.1 hn with hn | rfl
    · exact h.untaken a ha n hn
    · exact NameSet.not_mem_empty a
  distinct := h.distinct

/-- A new analysis is free, for dependencies lead only to what is there. -/
theorem Offers.append_analysis (h : g.Offers heads free) (hg : g.Layered)
    (hnew : task.name ∉ g.names) (hkind : task.kind = .analysis) :
    (g.append ⟨task, ∅⟩).Offers heads (task.name :: free) where
  lifecycles := h.append_leaf.lifecycles
  analyses := by
    intro a ha
    rcases List.mem_cons.1 ha with rfl | ha
    · exact ⟨⟨task, ∅⟩, mem_nodes_append.2 (.inr rfl), rfl, hkind⟩
    · exact h.append_leaf.analyses a ha
  untaken := by
    intro a ha n hn
    rcases List.mem_cons.1 ha with rfl | ha
    · intro hneeds
      rcases mem_nodes_append.1 hn with hn | rfl
      · obtain ⟨-, m, hm, hname, -⟩ := hg.edges n hn _ hneeds
        exact hnew (hname ▸ mem_names_of_mem hm)
      · exact NameSet.not_mem_empty _ hneeds
    · exact h.append_leaf.untaken a ha n hn
  distinct := by
    refine List.nodup_cons.2 ⟨fun hmem => ?_, h.distinct⟩
    obtain ⟨n, hn, hname, -⟩ := h.analyses _ hmem
    exact hnew (hname ▸ mem_names_of_mem hn)

theorem Layered.append_head (h : g.Layered) (hoffers : g.Offers heads (k :: free))
    (hnew : task.name ∉ g.names) (hkind : task.kind = .lifecycle) :
    (g.append ⟨task, (∅ : NameSet).insert k⟩).Layered where
  distinct := nodup_names_append h.distinct hnew
  edges := by
    intro n hn j hj
    rcases mem_nodes_append.1 hn with hn | rfl
    · obtain ⟨hlife, m, hm, hmk⟩ := h.edges n hn j hj
      exact ⟨hlife, m, mem_nodes_append.2 (.inl hm), hmk⟩
    · obtain rfl := mem_needs_singleton.1 hj
      obtain ⟨m, hm, hmk⟩ := hoffers.analyses j List.mem_cons_self
      exact ⟨hkind, m, mem_nodes_append.2 (.inl hm), hmk⟩
  apart := by
    intro n hn m hm j hj hj'
    have huntaken := hoffers.untaken k List.mem_cons_self
    rcases mem_nodes_append.1 hn with hn | rfl
    · rcases mem_nodes_append.1 hm with hm | rfl
      · exact h.apart n hn m hm j hj hj'
      · rw [mem_needs_singleton.1 hj'] at hj
        exact absurd hj (huntaken n hn)
    · rcases mem_nodes_append.1 hm with hm | rfl
      · rw [mem_needs_singleton.1 hj] at hj'
        exact absurd hj' (huntaken m hm)
      · rfl
  sheltering := by
    intro n hn hlife
    rcases mem_nodes_append.1 hn with hn | rfl
    · exact h.sheltering n hn hlife
    · intro u _
      exact List.ne_nil_of_mem (mem_needs_singleton.2 rfl)

theorem Offers.append_head (h : g.Offers heads (k :: free)) (hkind : task.kind = .lifecycle) :
    (g.append ⟨task, (∅ : NameSet).insert k⟩).Offers (task.name :: heads) free where
  lifecycles := by
    intro a ha
    rcases List.mem_cons.1 ha with rfl | ha
    · exact ⟨_, mem_nodes_append.2 (.inr rfl), rfl, hkind⟩
    · obtain ⟨n, hn, hna⟩ := h.lifecycles a ha
      exact ⟨n, mem_nodes_append.2 (.inl hn), hna⟩
  analyses := by
    intro a ha
    obtain ⟨n, hn, hna⟩ := h.analyses a (List.mem_cons_of_mem _ ha)
    exact ⟨n, mem_nodes_append.2 (.inl hn), hna⟩
  untaken := by
    intro a ha n hn hneeds
    rcases mem_nodes_append.1 hn with hn | rfl
    · exact h.untaken a (List.mem_cons_of_mem _ ha) n hn hneeds
    · obtain rfl := mem_needs_singleton.1 hneeds
      exact (List.nodup_cons.1 h.distinct).1 ha
  distinct := (List.nodup_cons.1 h.distinct).2

theorem Layered.tie (h : g.Layered) (hoffers : g.Offers heads (k :: free))
    (hname : name ∈ heads) : (g.tie name k).Layered where
  distinct := by
    rw [names_tie]
    exact h.distinct
  edges := by
    intro n' hn' j hj
    obtain ⟨n, hn, rfl⟩ := mem_nodes_tie.1 hn'
    rw [needing_task]
    have hthere : ∀ m ∈ g.nodes, m.task.name = j ∧ m.task.kind = .analysis →
        ∃ m' ∈ (g.tie name k).nodes, m'.task.name = j ∧ m'.task.kind = .analysis := by
      intro m hm hmj
      exact ⟨needing name k m, mem_nodes_tie.2 ⟨m, hm, rfl⟩, by rwa [needing_task]⟩
    rcases mem_needs_needing.1 hj with hj | ⟨hn_name, rfl⟩
    · obtain ⟨hlife, m, hm, hmj⟩ := h.edges n hn j hj
      exact ⟨hlife, hthere m hm hmj⟩
    · obtain ⟨head, hhead, hhead_name, hlife⟩ := hoffers.lifecycles name hname
      obtain rfl := eq_of_name_eq h.distinct hn hhead (hn_name.trans hhead_name.symm)
      obtain ⟨m, hm, hmj⟩ := hoffers.analyses j List.mem_cons_self
      exact ⟨hlife, hthere m hm hmj⟩
  apart := by
    intro n' hn' m' hm' j hj hj'
    obtain ⟨n, hn, rfl⟩ := mem_nodes_tie.1 hn'
    obtain ⟨m, hm, rfl⟩ := mem_nodes_tie.1 hm'
    have huntaken := hoffers.untaken k List.mem_cons_self
    rcases mem_needs_needing.1 hj with hold | ⟨hn_name, hjk⟩
    · rcases mem_needs_needing.1 hj' with hold' | ⟨-, hjk⟩
      · rw [h.apart n hn m hm j hold hold']
      · exact absurd (hjk ▸ hold) (huntaken n hn)
    · rcases mem_needs_needing.1 hj' with hold' | ⟨hm_name, -⟩
      · exact absurd (hjk ▸ hold') (huntaken m hm)
      · rw [eq_of_name_eq h.distinct hn hm (hn_name.trans hm_name.symm)]
  sheltering := by
    intro n' hn' hlife u hu
    obtain ⟨n, hn, rfl⟩ := mem_nodes_tie.1 hn'
    rw [needing_task] at hlife hu
    obtain ⟨j, hj⟩ := List.exists_mem_of_ne_nil _ (h.sheltering n hn hlife u hu)
    exact List.ne_nil_of_mem (mem_needs_needing.2 (.inl hj) : j ∈ (needing name k n).needs)

theorem Offers.tie (h : g.Offers heads (k :: free)) : (g.tie name k).Offers heads free where
  lifecycles := by
    intro a ha
    obtain ⟨n, hn, hna⟩ := h.lifecycles a ha
    exact ⟨needing name k n, mem_nodes_tie.2 ⟨n, hn, rfl⟩, by rwa [needing_task]⟩
  analyses := by
    intro a ha
    obtain ⟨n, hn, hna⟩ := h.analyses a (List.mem_cons_of_mem _ ha)
    exact ⟨needing name k n, mem_nodes_tie.2 ⟨n, hn, rfl⟩, by rwa [needing_task]⟩
  untaken := by
    intro a ha n' hn' hneeds
    obtain ⟨n, hn, rfl⟩ := mem_nodes_tie.1 hn'
    rcases mem_needs_needing.1 hneeds with hneeds | ⟨-, rfl⟩
    · exact h.untaken a (List.mem_cons_of_mem _ ha) n hn hneeds
    · exact (List.nodup_cons.1 h.distinct).1 ha
  distinct := (List.nodup_cons.1 h.distinct).2

/-! ## A whole course -/

/-- However it ends, an orderly course keeps a graph in layers. -/
theorem Layered.follow {moves : List Move} (h : g.Layered) (hoffers : g.Offers heads free)
    (horderly : Move.Orderly heads free moves) : (g.follow moves).1.Layered := by
  -- on the course; what is offered changes with each move as `Move.Orderly` tells
  induction horderly generalizing g with
  | done => exact h
  | @plain heads free task moves hkind rest ih =>
      by_cases hnew : task.name ∈ g.names
      · rwa [follow_add_of_mem (n := ⟨task, ∅⟩) moves hnew]
      · rw [follow_add_of_not_mem (n := ⟨task, ∅⟩) moves hnew]
        exact ih (h.append_leaf hnew hkind) hoffers.append_leaf
  | @analysis heads free task moves hkind rest ih =>
      by_cases hnew : task.name ∈ g.names
      · rwa [follow_add_of_mem (n := ⟨task, ∅⟩) moves hnew]
      · rw [follow_add_of_not_mem (n := ⟨task, ∅⟩) moves hnew]
        exact ih (h.append_leaf hnew (by simp [hkind])) (hoffers.append_analysis h hnew hkind)
  | @found heads free task k moves hkind rest ih =>
      by_cases hnew : task.name ∈ g.names
      · rwa [follow_add_of_mem (n := ⟨task, (∅ : NameSet).insert k⟩) moves hnew]
      · rw [follow_add_of_not_mem (n := ⟨task, (∅ : NameSet).insert k⟩) moves hnew]
        exact ih (h.append_head hoffers hnew hkind) (hoffers.append_head hkind)
  | connect hname rest ih => exact ih (h.tie hoffers hname) hoffers.tie
  | refuse rest ih => exact h

/-- Only lifecycle tasks depend on others. -/
theorem Layered.needs_of_kind {n : TaskNode} (h : g.Layered) (hn : n ∈ g.nodes)
    (hkind : n.task.kind ≠ .lifecycle) : n.needs = ∅ := by
  apply NameSet.ext_mem
  intro k
  exact iff_of_false (fun hk => hkind (h.edges n hn k hk).1) (NameSet.not_mem_empty k)

/-- Where dependencies lead from a lifecycle task to an analysis, they end there. -/
theorem Layered.needs_eq_empty {n m : TaskNode} (h : g.Layered) (hn : n ∈ g.nodes)
    (hm : m ∈ g.nodes) (hneeds : m.task.name ∈ n.needs) : m.needs = ∅ := by
  obtain ⟨-, m', hm', hname, hkind⟩ := h.edges n hn _ hneeds
  obtain rfl := eq_of_name_eq h.distinct hm' hm hname
  exact h.needs_of_kind hm' (by simp [hkind])

end TaskGraph

namespace Move

/-- A course that only adds tasks without dependencies, and no lifecycle task. -/
theorem orderly_of_leaves {heads free : List String} {moves : List Move}
    (h : ∀ m ∈ moves, (∃ f, m = .refuse f) ∨
      ∃ task : Task, task.kind ≠ .lifecycle ∧ m = .add ⟨task, ∅⟩) :
    Orderly heads free moves := by
  induction moves with
  | nil => exact .done heads free
  | cons m moves ih =>
      have hrest := ih fun m' hm' => h m' (List.mem_cons_of_mem _ hm')
      rcases h m List.mem_cons_self with ⟨f, rfl⟩ | ⟨task, hkind, rfl⟩
      · exact .refuse hrest
      · exact .plain hkind hrest

/-- An enlistment takes its own task at once, so it leaves as many analyses free as
there were. -/
theorem orderly_moves (r : Registrar) {before : List Enlistment} (e : Enlistment)
    {heads free : List String} {rest : List Move}
    (hbefore : ∀ e' ∈ before, e'.umbrella.name ∈ heads)
    (hrest : ∀ heads', e.umbrella.name ∈ heads' → (∀ name ∈ heads, name ∈ heads') →
      Orderly heads' free rest) :
    Orderly heads free (e.moves r before ++ rest) := by
  have hadd : Orderly heads free ([.add ⟨e.task r, ∅⟩, e.gathering before] ++ rest) := by
    refine .analysis (Enlistment.task_kind r e) ?_
    unfold Enlistment.gathering
    split
    · next hu =>
        obtain ⟨e', he', heq⟩ := List.mem_map.1 hu
        have hhead : e.umbrella.name ∈ heads := heq ▸ hbefore e' he'
        exact .connect hhead (hrest heads hhead fun _ h => h)
    · exact .found e.umbrella.task_kind
        (hrest _ List.mem_cons_self fun _ h => List.mem_cons_of_mem _ h)
  rw [Enlistment.moves, List.append_assoc]
  cases e.refusal? before with
  | none => exact hadd
  | some f => exact .refuse hadd

theorem orderly_course (r : Registrar) {before : List Enlistment}
    {entries : List (Except Fault Enlistment)} {heads free : List String} {rest : List Move}
    (hbefore : ∀ e ∈ before, e.umbrella.name ∈ heads)
    (hrest : ∀ heads', (∀ name ∈ heads, name ∈ heads') → Orderly heads' free rest) :
    Orderly heads free (Enlistment.course r before entries ++ rest) := by
  induction entries generalizing before heads with
  | nil => exact hrest heads fun _ h => h
  | cons entry entries ih =>
      cases entry with
      | error f => exact .refuse (ih hbefore hrest)
      | ok e =>
          rw [Enlistment.course, List.append_assoc]
          refine orderly_moves r e hbefore fun heads' he hheads => ih ?_ ?_
          · intro e' he'
            rcases List.mem_append.1 he' with he' | he'
            · exact hheads _ (hbefore e' he')
            · obtain rfl := List.mem_singleton.1 he'
              exact he
          · intro heads'' hheads'
            exact hrest heads'' fun name hname => hheads' name (hheads name hname)

end Move

namespace Project

variable {p : Project}

theorem orderly_sourceSetCourse (p : Project) (heads free : List String) :
    Move.Orderly heads free p.sourceSetCourse := by
  unfold sourceSetCourse
  split
  · apply Move.orderly_of_leaves
    intro m hm
    rcases SourceSet.mem_course hm with hrefuse | ⟨s, -, rfl⟩
    · exact .inl hrefuse
    · exact .inr ⟨p.registrar.taskFor s.unit, by simp, rfl⟩
  · exact .done heads free

/-- The plain analysis is taken by the task of all checks, if that is there. -/
theorem orderly_projectCourse {heads free : List String}
    (h : p.hasPlugin Plugin.lifecycleBase = true → checkTask.name ∈ heads) :
    Move.Orderly heads free p.projectCourse := by
  have hrest : Move.Orderly heads (Task.analysisName :: free)
      (p.checkCourse ++ p.sourceSetCourse) := by
    unfold checkCourse
    split
    · next hbase => exact .connect (h hbase) (p.orderly_sourceSetCourse heads free)
    · exact p.orderly_sourceSetCourse heads _
  refine .analysis (by simp [analysisTask]) ?_
  refine .plain (by simp [baselineTask]) ?_
  exact .plain (by simp [generateConfigTask]) hrest

theorem orderly_variantCourse {heads free : List String} {rest : List Move}
    (hrest : ∀ heads', (∀ name ∈ heads, name ∈ heads') → Move.Orderly heads' free rest) :
    Move.Orderly heads free (p.variantCourse ++ rest) := by
  have hsame := hrest heads fun _ h => h
  unfold variantCourse
  split
  · exact hsame
  · cases p.variantSource with
    | error f => exact .refuse hsame
    | ok source? =>
        cases source? with
        | none => exact .refuse hsame
        | some source => exact Move.orderly_course _ (by simp) hrest

namespace Configured

variable (h : p.Configured [.variantAnalysis 0, .analysis])

include h

theorem layered : p.graph.Layered := by
  have hnodes : ∀ n ∈ p.graph.nodes, n = ⟨checkTask, ∅⟩ := by
    intro n hn
    rw [h.graph] at hn
    split at hn
    · exact List.mem_singleton.1 hn
    · cases hn
  constructor
  · rw [h.names_graph]
    split <;> simp
  · intro n hn k hk
    rw [hnodes n hn] at hk
    exact absurd hk (NameSet.not_mem_empty k)
  · intro n hn m hm _ _ _
    rw [hnodes n hn, hnodes m hm]
  · intro n hn _ u hu
    rw [hnodes n hn] at hu
    exact absurd hu.symm u.name_ne_check

/-- However an evaluation ends, its graph is in layers. -/
theorem layered_follow : (p.graph.follow (p.applied.flatMap p.course)).1.Layered := by
  have hoffers : p.graph.Offers p.graph.names [] := by
    refine ⟨fun name hname => ?_, by simp, by simp, .nil⟩
    rw [h.names_graph] at hname
    rw [h.graph]
    split at hname
    · next hbase =>
        refine ⟨⟨checkTask, ∅⟩, by simp [hbase], ?_, rfl⟩
        exact (List.mem_singleton.1 hname).symm
    · cases hname
  rw [h.course_eq]
  apply h.layered.follow hoffers
  apply orderly_variantCourse
  intro heads hheads
  apply orderly_projectCourse
  intro hbase
  exact hheads _ (h.hasCheck.2 hbase)

end Configured

variable {g : TaskGraph}

/-- Where all is planned, every lifecycle task depends on something. -/
theorem needs_ne_nil_of_planned {n : TaskNode} (hn : n ∈ p.plannedNodes)
    (hkind : n.task.kind = .lifecycle) : n.needs.names ≠ [] := by
  rcases mem_plannedNodes.1 hn with hn | hn | ⟨t, ht, rfl⟩
  · rw [(mem_checkNodes.1 hn).2]
    exact List.ne_nil_of_mem (NameSet.mem_insert.2 (.inl rfl))
  · rcases mem_variantNodes.1 hn with ⟨e, -, rfl⟩ | ⟨u, ⟨e, he, heu⟩, rfl⟩
    · cases hkind
    · have hmem : e.taskName ∈ Enlistment.gathered p.enlistments u.name :=
        Enlistment.mem_gathered.2 ⟨e, he, heu ▸ rfl, rfl⟩
      exact List.ne_nil_of_mem hmem
  · exact absurd hkind (kind_of_mem_ownTasks ht)

theorem dependencies?_check (hnodes : g.nodes = p.plannedNodes) (hnodup : g.names.Nodup)
    (hcheck : checkTask.name ∈ g.names) :
    g.dependencies? checkTask.name = some [Task.analysisName] := by
  rw [TaskGraph.names_eq_nodes, hnodes] at hcheck
  obtain ⟨n, hn, hname⟩ := List.mem_map.1 hcheck
  have hn' : n ∈ p.checkNodes := by
    rcases mem_plannedNodes.1 hn with hn | hn | ⟨t, ht, rfl⟩
    · exact hn
    · exact absurd hname (ne_check_of_mem_variantNodes hn)
    · exact absurd hname (ne_check_of_mem_ownTasks ht)
  obtain ⟨-, rfl⟩ := mem_checkNodes.1 hn'
  have hnode := TaskGraph.node?_of_mem hnodup (hnodes ▸ hn)
  rw [TaskGraph.dependencies?, TaskGraph.needs?, hnode]
  rfl

end Project

namespace TaskGraph

def DependsOn (g : TaskGraph) (name dependency : String) : Prop :=
  ∃ names, g.dependencies? name = some names ∧ dependency ∈ names

theorem dependsOn_iff {g : TaskGraph} (h : g.names.Nodup) {name dependency : String} :
    g.DependsOn name dependency ↔ ∃ n ∈ g.nodes, n.task.name = name ∧ dependency ∈ n.needs := by
  unfold DependsOn dependencies? needs?
  constructor
  · rintro ⟨names, hnames, hmem⟩
    cases hnode : g.node? name with
    | none =>
        rw [hnode] at hnames
        cases hnames
    | some n =>
        rw [hnode] at hnames
        cases hnames
        obtain ⟨hn, hname⟩ := mem_of_node? hnode
        exact ⟨n, hn, hname, hmem⟩
  · rintro ⟨n, hn, rfl, hmem⟩
    exact ⟨n.needs.names, by rw [node?_of_mem h hn]; rfl, hmem⟩

end TaskGraph

namespace Project

variable {p : Project} {g : TaskGraph} (hnodes : g.nodes = p.plannedNodes)
  (hnodup : g.names.Nodup)

include hnodes hnodup

/-- The task of a variant is under the umbrella that it was enlisted for, and under
no other. -/
theorem dependsOn_umbrella_iff (hlayered : g.Layered) {e : Enlistment}
    (he : e ∈ p.enlistments) (u : Umbrella) :
    g.DependsOn u.name e.taskName ↔ u = e.umbrella := by
  have hown : ⟨e.umbrella.task, Enlistment.gathered p.enlistments e.umbrella.name⟩ ∈ g.nodes := by
    rw [hnodes]
    exact mem_plannedNodes.2 (.inr (.inl (mem_variantNodes.2
      (.inr ⟨e.umbrella, ⟨e, he, rfl⟩, rfl⟩))))
  have hgathered : e.taskName ∈ Enlistment.gathered p.enlistments e.umbrella.name :=
    Enlistment.mem_gathered.2 ⟨e, he, rfl, rfl⟩
  rw [TaskGraph.dependsOn_iff hnodup]
  constructor
  · rintro ⟨n, hn, hname, hmem⟩
    have hsame := hlayered.apart n hn _ hown _ hmem hgathered
    rw [hsame] at hname
    exact (Umbrella.name_injective hname).symm
  · rintro rfl
    exact ⟨_, hown, rfl, hgathered⟩

theorem not_dependsOn_umbrella {t : Task} (ht : t ∈ p.ownTasks) (u : Umbrella) :
    ¬ g.DependsOn u.name t.name := by
  rw [TaskGraph.dependsOn_iff hnodup]
  rintro ⟨n, hn, hname, hmem⟩
  rw [hnodes] at hn
  rcases mem_plannedNodes.1 hn with hn | hn | ⟨t', -, rfl⟩
  · rw [(mem_checkNodes.1 hn).2] at hname
    exact u.name_ne_check hname.symm
  · obtain ⟨t', -, rfl⟩ := List.mem_map.1 hn
    obtain ⟨e, he, -, htask⟩ := Enlistment.mem_gathered.1 hmem
    have hvariant : ⟨e.task p.registrar, Enlistment.gathered p.enlistments e.taskName⟩ ∈
        p.variantNodes := mem_variantNodes.2 (.inl ⟨e, he, rfl⟩)
    have hnames : p.plannedNames.Nodup := by
      rwa [← names_plannedNodes, ← hnodes, ← TaskGraph.names_eq_nodes]
    exact ne_of_mem_variantNodes hnames hvariant ht htask
  · exact NameSet.not_mem_empty _ hmem

end Project

namespace Configuring

/-- Evaluation leaves a graph in layers, however it ends. -/
theorem layered_of_evaluate {p q : Project} (h : p.Configured [.variantAnalysis 0, .analysis])
    (hq : evaluate p = .ok () q ∨ ∃ fault, evaluate p = .error fault q) : q.graph.Layered := by
  have hfollows := evaluate_follows h.evaluated h.hasCheck
  have hend := h.layered_follow
  rcases hq with hq | ⟨fault, hq⟩
  · rw [hq] at hfollows
    rwa [hfollows.1] at hend
  · rw [hq] at hfollows
    rwa [show p.graph.follow _ = (q.graph, some fault) from hfollows] at hend

/-- Whether evaluating a loaded project returns or fails, it leaves a graph in
layers, in which every task is found under its name and nothing depends on what
depends on something. If it returns, every lifecycle task depends on something, the
task of all checks on the plain analysis alone; the task of a variant is under one
umbrella, and the project's own tasks are under none. -/
theorem evaluate_leaves_layers (loaded : Project) (h : Description.Loaded loaded)
    (options : AnalysisOptions) :
    let p : Project := { loaded with options }
    (∀ q, (evaluate p = .ok () q ∨ ∃ fault, evaluate p = .error fault q) →
      q.graph.Layered ∧
        (∀ t ∈ q.graph.tasks, q.graph.get? t.name = some t) ∧
        ∀ n ∈ q.graph.nodes, ∀ m ∈ q.graph.nodes, m.task.name ∈ n.needs → m.needs = ∅) ∧
    ∀ q, evaluate p = .ok () q →
      (∀ n ∈ q.graph.nodes, n.task.kind = .lifecycle → n.needs.names ≠ []) ∧
        (Project.checkTask.name ∈ q.graph.names →
          q.graph.dependencies? Project.checkTask.name = some [Task.analysisName]) ∧
        (∀ e ∈ p.enlistments, e.task p.registrar ∈ q.graph.tasks ∧
          ∀ u : Umbrella, q.graph.DependsOn u.name e.taskName ↔ u = e.umbrella) ∧
        ∀ t ∈ p.ownTasks, t ∈ q.graph.tasks ∧
          ∀ u : Umbrella, ¬ q.graph.DependsOn u.name t.name := by
  intro p
  have hconfigured := h.configured_with options
  have hlayered := fun q => layered_of_evaluate hconfigured (q := q)
  refine ⟨fun q hq => ?_, fun q hq => ?_⟩
  · have hq := hlayered q hq
    refine ⟨hq, fun t ht => ?_, fun n hn m hm hneeds => hq.needs_eq_empty hn hm hneeds⟩
    obtain ⟨n, hn, rfl⟩ := List.mem_map.1 ht
    rw [TaskGraph.get?, TaskGraph.node?_of_mem hq.distinct hn]
    rfl
  · obtain ⟨hnodes, hnodup⟩ := nodes_of_evaluate hconfigured hq
    refine ⟨fun n hn hkind => ?_, Project.dependencies?_check hnodes hnodup, fun e he => ?_,
      fun t ht => ?_⟩
    · exact Project.needs_ne_nil_of_planned (hnodes ▸ hn) hkind
    · refine ⟨?_, Project.dependsOn_umbrella_iff hnodes hnodup (hlayered q (.inl hq)) he⟩
      have hmem := Project.mem_variantNodes.2 (.inl ⟨e, he, rfl⟩)
      exact TaskGraph.mem_tasks_of_mem
        (hnodes ▸ Project.mem_plannedNodes.2 (.inr (.inl hmem)))
    · refine ⟨?_, Project.not_dependsOn_umbrella hnodes hnodup ht⟩
      exact TaskGraph.mem_tasks_of_mem (n := ⟨t, ∅⟩)
        (hnodes ▸ Project.mem_plannedNodes.2 (.inr (.inr ⟨t, ht, rfl⟩)))

theorem evaluate_leaves_layers_library :
    ∃ p q, Description.Loaded p ∧ evaluate p = .ok () q ∧ q.graph.Layered ∧
      q.graph.dependencies? "check" = some ["detekt"] ∧
      q.graph.DependsOn "detektTest" "detektDebugUnitTest" := by
  let loading : Description.Loading := Description.loadFields {} [] (.ofLocation [])
    [("plugins", .list [.str "com.android.library", .str "kotlin-android",
      .str "lifecycle-base"])]
  have hrun : loading.evaluates (fun p q => q.graph.has "check" &&
      p.enlistments.any fun e => e.umbrella == .test && e.taskName == "detektDebugUnitTest") =
        true := by decide +kernel
  obtain ⟨p, q, hload, hq, htest⟩ := Description.Loading.exists_of_evaluates hrun
  simp only [Bool.and_eq_true, List.any_eq_true, beq_iff_eq, TaskGraph.has_iff] at htest
  obtain ⟨hcheck, e, he, hu, hname⟩ := htest
  have hloaded : Description.Loaded p := .fields _ _ _ _ hload
  obtain ⟨hlayers, hneeds⟩ := evaluate_leaves_layers p hloaded p.options
  obtain ⟨-, hdetekt, hvariants, -⟩ := hneeds q hq
  refine ⟨p, q, hloaded, hq, (hlayers q (.inl hq)).1, hdetekt hcheck, ?_⟩
  have hdepends := ((hvariants e he).2 .test).2 hu.symm
  rwa [hname] at hdepends

end Configuring

end AnalysisPlan
