import AnalysisPlan.Proofs.Survivors

/-!
# Resolving variants

A resolution returns exactly if the survivors of all sources lead to tasks whose
names are free and differ, also from each other with case ignored and from the
umbrellas that they need (`Enlistment.roll_free_iff`). What it returns and the
graph that it leaves are then given by the survivors: each has its task, and each
umbrella that has tasks depends on them (`Resolution.dependencies?_of_under`).

Umbrellas and the tasks of variants share their names. An umbrella's name is taken
only once a task needs the umbrella, so a primary variant `test` may have it as
long as there is no test variant.
-/

namespace AnalysisPlan

theorem Umbrella.name_injective {u v : Umbrella} (h : u.name = v.name) : u = v := by
  revert h
  cases u <;> cases v <;> decide

namespace Enlistment

theorem taskName_nodup_of_key {es : List Enlistment} (h : (es.map key).Nodup) :
    (es.map taskName).Nodup := by
  apply List.Nodup.of_map Text.foldCase
  rwa [List.map_map]

/-- The names on the roll are different and new exactly if those of the tasks are
new, and those of the umbrellas are new and no task has them. -/
theorem roll_free_iff {es : List Enlistment} {known : List String}
    (h : (es.map taskName).Nodup) :
    ((roll [] es).Nodup ∧ ∀ name ∈ roll [] es, name ∉ known) ↔
      (∀ e ∈ es, e.taskName ∉ known) ∧
        ∀ u, (∃ e ∈ es, e.umbrella = u) →
          u.name ∉ known ∧ ∀ e ∈ es, e.taskName ≠ u.name := by
  have hperm := roll_perm [] es
  have hfounded : ∀ u, u ∈ founded [] es ↔ ∃ e ∈ es, e.umbrella = u := by
    intro u
    rw [mem_founded]
    simp
  have hnames : ((founded [] es).map Umbrella.name).Nodup :=
    (nodup_founded [] es).map fun _ _ => Umbrella.name_injective
  rw [hperm.nodup_iff, List.nodup_append]
  simp only [hperm.mem_iff, List.mem_append]
  constructor
  · rintro ⟨⟨-, -, hdiff⟩, hnew⟩
    refine ⟨fun e he => hnew _ (.inl (List.mem_map_of_mem he)), fun u hu => ?_⟩
    have hmem : u.name ∈ (founded [] es).map Umbrella.name :=
      List.mem_map_of_mem ((hfounded u).2 hu)
    exact ⟨hnew _ (.inr hmem), fun e he => hdiff _ (List.mem_map_of_mem he) _ hmem⟩
  · rintro ⟨htasks, humbrellas⟩
    refine ⟨⟨h, hnames, fun name hname other hother => ?_⟩, fun name hname => ?_⟩
    · obtain ⟨e, he, rfl⟩ := List.mem_map.1 hname
      obtain ⟨u, hu, rfl⟩ := List.mem_map.1 hother
      exact (humbrellas u ((hfounded u).1 hu)).2 e he
    · rcases hname with hname | hname
      · obtain ⟨e, he, rfl⟩ := List.mem_map.1 hname
        exact htasks e he
      · obtain ⟨u, hu, rfl⟩ := List.mem_map.1 hname
        exact (humbrellas u ((hfounded u).1 hu)).1

end Enlistment

namespace Resolution

variable {r : Registrar} {es : List Enlistment}

theorem nodup_names_ofEnlistments (h : (es.map Enlistment.taskName).Nodup) :
    ((ofEnlistments r es).main.map (·.name)).Nodup ∧
      ((ofEnlistments r es).test.map (·.name)).Nodup ∧
      ∀ name ∈ (ofEnlistments r es).mainNames, name ∉ (ofEnlistments r es).testNames := by
  have hperm := (tasks_ofEnlistments_perm r es).map (·.name)
  rw [List.map_append, List.map_map] at hperm
  obtain ⟨hmain, htest, hdiff⟩ := List.nodup_append.1 (hperm.nodup_iff.2 h)
  refine ⟨hmain, htest, fun name hname hname' => ?_⟩
  exact hdiff name (NameSet.mem_ofList.1 hname) name (NameSet.mem_ofList.1 hname') rfl

/-- Behind a completed course, an umbrella depends on the tasks under it. -/
theorem dependencies?_of_under {g g' : TaskGraph} {entries : List (Except Fault Enlistment)}
    {u : Umbrella} (hcourse : g.follow (Enlistment.course r [] entries) = (g', none))
    (hes : Enlistment.ofEntries entries = es) (hu : (ofEnlistments r es).under u ≠ []) :
    g'.dependencies? u.name =
      some (NameSet.ofList (((ofEnlistments r es).under u).map (·.name))).names := by
  subst hes
  have hmem := Enlistment.umbrella_mem_tasks r ((under_ofEnlistments_ne_nil_iff r _ u).1 hu)
  have hnode := Enlistment.node?_of_mem_tasks hcourse hmem
  rw [Umbrella.task_name, gathered_name r] at hnode
  simp [TaskGraph.dependencies?, TaskGraph.needs?, hnode]

/-- Behind a completed course, an umbrella without a task is as it was, unless a
task has its name. -/
theorem node?_of_under {g g' : TaskGraph} {entries : List (Except Fault Enlistment)}
    {u : Umbrella} (hcourse : g.follow (Enlistment.course r [] entries) = (g', none))
    (hes : Enlistment.ofEntries entries = es) (hu : (ofEnlistments r es).under u = [])
    (hname : ∀ e ∈ es, e.taskName ≠ u.name) : g'.node? u.name = g.node? u.name := by
  subst hes
  refine Enlistment.node?_of_not_mem_roll hcourse fun hmem => ?_
  rcases Enlistment.mem_roll.1 hmem with ⟨e, he, heq⟩ | ⟨e, he, heq⟩
  · exact hname e he heq
  · have heq : e.umbrella = u := Umbrella.name_injective heq
    exact (under_ofEnlistments_ne_nil_iff r _ u).2 ⟨e, he, heq⟩ hu

end Resolution

namespace Resolver

/-- Resolving returns exactly if every source can be enumerated, every survivor
has a name, their task names differ also with case ignored and are free, and the
umbrella of each of them is free and not among these names. Where it fails, all
that was there stays as it was, and the umbrellas that it added have tasks under
them. -/
theorem resolve_returns_iff (registrar : Registrar) (rules : IgnoreRules)
    (sources : List VariantSource) (registry : Registry) :
    let resolver : Resolver := { registrar, rules, sources }
    let es := resolver.survivors
    ((∃ resolution after, (resolver.resolve registry).2 = .ok resolution after) ↔
      (∀ s ∈ sources, ∃ vs, s.variants = .ok vs) ∧
        (∀ e ∈ es, e.variant.name ≠ "") ∧
        (es.map Enlistment.key).Nodup ∧
        (∀ e ∈ es, e.taskName ∉ registry.graph.names) ∧
        ∀ u, (∃ e ∈ es, e.umbrella = u) →
          u.name ∉ registry.graph.names ∧ ∀ e ∈ es, e.taskName ≠ u.name) ∧
      ∀ fault after, (resolver.resolve registry).2 = .error fault after →
        ∃ added, after.graph.nodes = registry.graph.nodes ++ added ∧
          ∀ n ∈ added, n.task.kind = .lifecycle →
            (∃ u : Umbrella, n.task = u.task) ∧ n.needs.names ≠ [] := by
  intro resolver es
  have hfollows := resolver.resolve_follows rfl registry
  constructor
  · rw [hfollows.returns_iff, course, Enlistment.course_completes_iff,
      resolver.error_not_mem_entries_iff, resolver.ofEntries_entries]
    refine and_congr_right fun _ => and_congr_right fun _ => and_congr_right fun hkey => ?_
    exact Enlistment.roll_free_iff (Enlistment.taskName_nodup_of_key hkey)
  · intro fault after hres
    rw [hres] at hfollows
    have hnodes := Enlistment.nodes_follow_course registry.graph registrar resolver.entries
    rwa [show registry.graph.follow (Enlistment.course registrar [] resolver.entries) =
      (after.graph, some fault) from hfollows] at hnodes

/-- What a resolution returns are the tasks of the survivors, by umbrella, under
different names. They are in the graph, each umbrella with a task depends on the
tasks under it, and nothing else was added. An umbrella without a task is left as
it was, unless the task of a primary variant has the name of the test umbrella. -/
theorem tasks_of_resolve (registrar : Registrar) (rules : IgnoreRules)
    (sources : List VariantSource) (registry after : Registry) (resolution : Resolution)
    (h : (resolve { registrar, rules, sources } registry).2 = .ok resolution after) :
    let resolver : Resolver := { registrar, rules, sources }
    (resolution.main.map (·.name) = resolver.primaries.map (Task.nameFor ·.name) ∧
      resolution.test.map (·.name) = resolver.secondaries.map (Task.nameFor ·.name)) ∧
    ((resolution.main.map (·.name)).Nodup ∧ (resolution.test.map (·.name)).Nodup ∧
      ∀ name ∈ resolution.mainNames, name ∉ resolution.testNames) ∧
    (∀ t ∈ resolution.main ++ resolution.test, after.graph.get? t.name = some t) ∧
    ((resolution.main ≠ [] →
        after.graph.dependencies? Task.mainUmbrella = some resolution.mainNames.names) ∧
      (resolution.main = [] →
        after.graph.node? Task.mainUmbrella = registry.graph.node? Task.mainUmbrella)) ∧
    ((resolution.test ≠ [] →
        after.graph.dependencies? Task.testUmbrella = some resolution.testNames.names) ∧
      (resolution.test = [] → Task.testUmbrella ∉ resolution.mainNames →
        after.graph.node? Task.testUmbrella = registry.graph.node? Task.testUmbrella)) ∧
    ∃ added, after.graph.nodes = registry.graph.nodes ++ added ∧
      added.Perm resolution.nodes := by
  intro resolver
  have hfollows := resolver.resolve_follows rfl registry
  rw [h] at hfollows
  obtain ⟨hcourse, rfl⟩ := hfollows
  have hes := resolver.ofEntries_entries
  have hfree := Enlistment.course_completes_iff.1 (congrArg Prod.snd hcourse)
  rw [hes] at hfree
  obtain ⟨-, -, hkey, hroll, hnew⟩ := hfree
  have htask := Enlistment.taskName_nodup_of_key hkey
  have humbrella := ((Enlistment.roll_free_iff htask).1 ⟨hroll, hnew⟩).2
  refine ⟨⟨?_, ?_⟩, Resolution.nodup_names_ofEnlistments htask, ?_,
    ⟨Resolution.dependencies?_of_under (u := .main) hcourse hes, ?_⟩,
    ⟨Resolution.dependencies?_of_under (u := .test) hcourse hes, ?_⟩, ?_⟩
  · have hnames := Resolution.names_under_ofEnlistments registrar resolver.survivors .main
    rwa [resolver.survivors_main, List.map_map] at hnames
  · have hnames := Resolution.names_under_ofEnlistments registrar resolver.survivors .test
    rwa [resolver.survivors_test] at hnames
  · intro t ht
    obtain ⟨e, he, rfl⟩ :=
      List.mem_map.1 ((Resolution.tasks_ofEnlistments_perm registrar _).mem_iff.1 ht)
    have hmem := Enlistment.task_mem_tasks registrar he
    rw [← hes] at hmem
    rw [TaskGraph.get?, Enlistment.node?_of_mem_tasks hcourse hmem]
    rfl
  · intro hmain
    refine Resolution.node?_of_under (u := .main) hcourse hes hmain fun e he => ?_
    have hsome := (Resolution.under_ofEnlistments_ne_nil_iff registrar _ _).2
      (exists_main_of_mem he)
    exact absurd hmain hsome
  · intro htest hname
    refine Resolution.node?_of_under (u := .test) hcourse hes htest fun e he heq => ?_
    cases hu : e.umbrella with
    | main =>
        have hmem : e ∈ resolver.survivors.filter (·.umbrella == .main) := by simp [he, hu]
        have hmain := List.mem_map_of_mem (f := Task.name)
          (List.mem_map_of_mem (f := Enlistment.task registrar) hmem)
        rw [show (e.task registrar).name = Task.testUmbrella from heq] at hmain
        exact hname (NameSet.mem_ofList.2 hmain)
    | test =>
        have hsome := (Resolution.under_ofEnlistments_ne_nil_iff registrar _ _).2
          ⟨e, he, hu⟩
        exact absurd htest hsome
  · refine ⟨_, Enlistment.nodes_of_completed hcourse, ?_⟩
    rw [hes]
    exact Resolution.nodes_ofEnlistments_perm registrar _ fun e he e' he' =>
      (humbrella e'.umbrella ⟨e', he', rfl⟩).2 e he

theorem tasks_of_resolve_debug :
    ∃ resolution after,
      (resolve
        { registrar := ⟨fun _ => true, {}⟩
          rules := {}
          sources := [.fixed [{
            name := "debug"
            buildType := "debug"
            secondaries := [{ name := "debugUnitTest", buildType := "debug" }] }] []] }
        {}).2 = .ok resolution after ∧
      resolution.test ≠ [] ∧
      after.graph.dependencies? Task.testUmbrella = some resolution.testNames.names := by
  refine exists_ok_of_returned (by decide +kernel) fun resolution after h => ?_
  obtain ⟨⟨-, htest⟩, -, -, -, ⟨hneeds, -⟩, -⟩ := tasks_of_resolve _ _ _ _ _ _ h
  have hsome : resolution.test ≠ [] := by
    rintro hnil
    rw [hnil] at htest
    cases htest
  exact ⟨hsome, hneeds hsome⟩

/-- The task of a primary variant may take the name of the test umbrella. -/
theorem not_forall_test_umbrella_unchanged :
    ¬ ∀ (registrar : Registrar) (rules : IgnoreRules) (sources : List VariantSource)
        (registry after : Registry) (resolution : Resolution),
      (resolve { registrar, rules, sources } registry).2 = .ok resolution after →
      resolution.test = [] →
        after.graph.node? Task.testUmbrella =
          registry.graph.node? Task.testUmbrella := by
  intro h
  have hnode := h ⟨fun _ => true, {}⟩ {} [.fixed [{ name := "test", buildType := "test" }] []]
    {} _ _ rfl rfl
  revert hnode
  decide

end Resolver

end AnalysisPlan
