import AnalysisPlan.Proofs.AssembledClasspath
import AnalysisPlan.Proofs.Layers
import AnalysisPlan.Proofs.ListedVariants

/-!
# The class paths of variants after evaluation

However an evaluation ends, the graph has the tasks of a first part of the enlistments
(`Project.exists_enlisted`). A test variant is enlisted behind the variant that it tests, so
with its task also that of the tested variant is there
(`VariantSource.exists_primary_of_prefix`).

The class path of a variant is assembled from its own entries and the platform library. Of
the entries those count that are there, so class paths are told by membership
(`Classpath.mem_assemble_iff`), and a variant that lists what another one lists has all of
its class path: neither asking which entries are there nor leaving out repeated ones can
part them.
-/

namespace AnalysisPlan

theorem exists_of_prefix_append {α : Type} {xs ys zs : List α} (h : zs <+: xs ++ ys) :
    ∃ front rest, zs = front ++ rest ∧ front <+: xs ∧ rest <+: ys := by
  obtain ⟨tail, htail⟩ := h
  rcases List.append_eq_append_iff.1 htail with ⟨missing, rfl, -⟩ | ⟨rest, rfl, rfl⟩
  · exact ⟨zs, [], (List.append_nil zs).symm, List.prefix_append _ _, List.nil_prefix⟩
  · exact ⟨xs, rest, rfl, List.prefix_rfl, List.prefix_append _ _⟩

namespace TaskGraph

theorem tasks_of_completed {g g' : TaskGraph} {moves : List Move}
    (h : g.follow moves = (g', none)) :
    g'.tasks = g.tasks ++ (Move.nodes moves).map (·.task) := by
  induction moves generalizing g with
  | nil =>
      cases h
      simp
  | cons m moves ih =>
      cases m with
      | add n =>
          by_cases hn : n.task.name ∈ g.names
          · rw [follow_add_of_mem moves hn] at h
            cases h
          · rw [follow_add_of_not_mem moves hn] at h
            have happend : (g.append n).tasks = g.tasks ++ [n.task] := by simp [append, tasks]
            rw [ih h, happend, List.append_assoc]
            rfl
      | connect name dependency =>
          have htie : (g.tie name dependency).tasks = g.tasks := by
            simp [tie, tasks, Function.comp_def]
          rw [ih h, htie, Move.nodes_connect]
      | refuse f => cases h

/-- However a course ends, the graph has gained first ones of its tasks, and all of them if
it was completed. -/
theorem tasks_follow (g : TaskGraph) (moves : List Move) :
    ∃ gained, gained <+: (Move.nodes moves).map (·.task) ∧
      (g.follow moves).1.tasks = g.tasks ++ gained ∧
      ((g.follow moves).2 = none → gained = (Move.nodes moves).map (·.task)) := by
  obtain ⟨taken, htaken, hfollow, hall⟩ := exists_taken g moves
  refine ⟨_, (htaken.filterMap _).map _, tasks_of_completed hfollow, fun h => ?_⟩
  rw [hall h]
  rfl

end TaskGraph

namespace Enlistment

variable {r : Registrar} {before es : List Enlistment}

/-- First ones of the tasks on the roll are the tasks of first enlistments, and umbrellas. -/
theorem exists_of_prefix_tasks {ts : List Task} (h : ts <+: tasks r before es) :
    ∃ done, done <+: es ∧ (ts = tasks r before es → done = es) ∧
      (∀ e ∈ done, e.task r ∈ ts) ∧
      ∀ t ∈ ts, (∃ e ∈ done, t = e.task r) ∨ ∃ u : Umbrella, t = u.task := by
  -- umbrellas stand between the tasks of variants, so the prefix is taken of the analyses
  have hanalysis := h.filter (·.kind == .analysis)
  rw [filter_analysis_tasks, List.prefix_map_iff] at hanalysis
  obtain ⟨done, hdone, hfilter⟩ := hanalysis
  refine ⟨done, hdone, fun hall => ?_, fun e he => ?_, fun t ht => ?_⟩
  · rw [hall, filter_analysis_tasks] at hfilter
    exact hdone.eq_of_length (by simpa using congrArg List.length hfilter.symm)
  · have hmem : e.task r ∈ ts.filter (·.kind == .analysis) := hfilter ▸ List.mem_map_of_mem he
    exact (List.mem_filter.1 hmem).1
  · rcases List.mem_append.1 ((tasks_perm r before es).mem_iff.1 (h.subset ht)) with hmem | hmem
    · obtain ⟨e, -, rfl⟩ := List.mem_map.1 hmem
      have hmem : e.task r ∈ done.map (task r) :=
        hfilter ▸ List.mem_filter.2 ⟨ht, beq_self_eq_true _⟩
      obtain ⟨e', he', htask⟩ := List.mem_map.1 hmem
      exact .inl ⟨e', he', htask.symm⟩
    · obtain ⟨u, -, rfl⟩ := List.mem_map.1 hmem
      exact .inr ⟨u, rfl⟩

end Enlistment

namespace Project

/-- The variants whose tasks a graph has are first ones of a project's enlistments. The
other tasks are umbrellas, that of all checks, and the project's own. -/
structure Enlists (p : Project) (done : List Enlistment) (g : TaskGraph) : Prop where
  first : done <+: p.enlistments
  there : ∀ e ∈ done, e.task p.registrar ∈ g.tasks
  only : ∀ t ∈ g.tasks, (∃ e ∈ done, t = e.task p.registrar) ∨ (∃ u : Umbrella, t = u.task) ∨
    t = checkTask ∨ t ∈ p.ownTasks

variable {p : Project}

theorem tasks_variantCourse (p : Project) :
    (Move.nodes p.variantCourse).map (·.task) =
      Enlistment.tasks p.registrar [] p.enlistments := by
  unfold variantCourse enlistments
  split
  · rfl
  · cases p.variantSource with
    | error f => rfl
    | ok source? =>
        cases source? with
        | none => rfl
        | some source =>
            simp only
            rw [← p.survivors_resolverFor source, ← Resolver.ofEntries_entries]
            exact Enlistment.tasks_course _ [] _

/-- However the courses of the two plugins end, the graph has the tasks of first
enlistments. -/
theorem exists_enlisted (p : Project) (hgraph : ∀ t ∈ p.graph.tasks, t = checkTask) :
    ∃ done, p.Enlists done (p.graph.follow (p.variantCourse ++ p.projectCourse)).1 ∧
      ((p.graph.follow (p.variantCourse ++ p.projectCourse)).2 = none →
        done = p.enlistments) := by
  obtain ⟨gained, hgained, htasks, hall⟩ :=
    p.graph.tasks_follow (p.variantCourse ++ p.projectCourse)
  have hown : (Move.nodes p.projectCourse).map (·.task) = p.ownTasks := by
    rw [nodes_projectCourse, List.map_map]
    exact List.map_id _
  rw [Move.nodes_append, List.map_append, tasks_variantCourse, hown] at hgained hall
  obtain ⟨front, rest, rfl, hfront, hrest⟩ := exists_of_prefix_append hgained
  obtain ⟨done, hdone, hfull, hthere, honly⟩ := Enlistment.exists_of_prefix_tasks hfront
  refine ⟨done, ⟨hdone, fun e he => ?_, fun t ht => ?_⟩, fun hcompleted => hfull ?_⟩
  · rw [htasks]
    exact List.mem_append_right _ (List.mem_append_left _ (hthere e he))
  · rw [htasks, List.mem_append, List.mem_append] at ht
    rcases ht with ht | ht | ht
    · exact .inr (.inr (.inl (hgraph t ht)))
    · rcases honly t ht with ht | ht
      · exact .inl ht
      · exact .inr (.inl ht)
    · exact .inr (.inr (.inr (hrest.subset ht)))
  · -- a completed course has gained both parts in full, as neither can be longer
    have hlength := congrArg List.length (hall hcompleted)
    rw [List.length_append, List.length_append] at hlength
    have hle := hfront.length_le
    have hle' := hrest.length_le
    exact hfront.eq_of_length (by omega)

end Project

theorem Follows.ended_eq {σ α : Type} {graph : σ → TaskGraph} {g : TaskGraph}
    {moves : List Move} {done : α → σ → Prop} {result : EStateM.Result Fault σ α}
    (h : Follows graph g moves done result) :
    g.follow moves = (graph (ended result).2, (ended result).1) := by
  cases result with
  | ok a s => exact h.1
  | error f s => exact h

namespace Configuring

/-- However evaluating a project with the two analysis plugins ends, the graph has the tasks
of first enlistments, and of all of them if it returns. -/
theorem exists_enlisted_of_evaluate {p : Project}
    (happlied : p.applied = [.variantAnalysis 0, .analysis]) (hfresh : p.evaluated = false)
    (hcheck : p.HasCheck) (hgraph : ∀ t ∈ p.graph.tasks, t = Project.checkTask) :
    ∃ done, p.Enlists done (ended (evaluate p)).2.graph ∧
      ((ended (evaluate p)).1 = none → done = p.enlistments) := by
  have hfollows := (evaluate_follows hfresh hcheck).ended_eq
  have hcourse : p.applied.flatMap p.course = p.variantCourse ++ p.projectCourse := by
    simp [happlied, Project.course]
  rw [hcourse] at hfollows
  obtain ⟨done, hdone, hall⟩ := p.exists_enlisted hgraph
  rw [hfollows] at hdone hall
  exact ⟨done, hdone, hall⟩

end Configuring

namespace VariantSource

theorem boot_of_mem_flatMap {rules : IgnoreRules} {boot : List String}
    {vs : List PrimaryVariant} {e : Enlistment} (he : e ∈ vs.flatMap (enlistments rules boot)) :
    e.boot = boot := by
  obtain ⟨v, -, he⟩ := List.mem_flatMap.1 he
  rcases List.mem_cons.1 he with rfl | he
  · rfl
  · obtain ⟨w, -, rfl⟩ := List.mem_map.1 he
    rfl

/-- A test variant among first enlistments is enlisted behind the variant that it tests. -/
theorem exists_primary_of_prefix {rules : IgnoreRules} {boot : List String}
    {vs : List PrimaryVariant} {done : List Enlistment}
    (h : done <+: vs.flatMap (enlistments rules boot)) {e : Enlistment} (he : e ∈ done)
    (htest : e.umbrella = .test) :
    ∃ v ∈ vs, e.variant ∈ v.secondaries ∧ ⟨.main, v.toVariant, boot⟩ ∈ done := by
  induction vs generalizing done with
  | nil =>
      rw [List.flatMap_nil, List.prefix_nil] at h
      rw [h] at he
      cases he
  | cons v vs ih =>
      rw [List.flatMap_cons] at h
      obtain ⟨front, rest, rfl, hfront, hrest⟩ := exists_of_prefix_append h
      rcases List.mem_append.1 he with he | he
      · cases front with
        | nil => cases he
        | cons primary others =>
            obtain ⟨rfl, hothers⟩ := List.cons_prefix_cons.1 hfront
            rcases List.mem_cons.1 he with rfl | he
            · cases htest
            · obtain ⟨w, hw, rfl⟩ := List.mem_map.1 (hothers.subset he)
              exact ⟨v, List.mem_cons_self, List.mem_of_mem_filter hw, List.mem_cons_self⟩
      · obtain ⟨v', hv', hsecondary, hmem⟩ := ih hrest he
        exact ⟨v', List.mem_cons_of_mem _ hv', hsecondary, List.mem_append_right _ hmem⟩

end VariantSource

namespace Classpath

variable {present : String → Bool} {ordinary extra : List String}

/-- With nothing leading, a class path has the ordinary entries that are there, and the
extra ones. -/
theorem mem_assemble_iff {path : String} :
    path ∈ assemble present [] ordinary extra ↔
      (path ∈ ordinary ∧ present path = true) ∨ path ∈ extra := by
  obtain ⟨kept, hkept, hassemble⟩ := assemble_eq present [] ordinary extra
  have hmem : path ∈ kept ↔ path ∈ ordinary ∧ present path = true := by
    simpa using hkept.mem_iff path
  rw [hassemble, rest, List.nil_append, List.mem_append, List.mem_filter, ← hmem]
  by_cases h : path ∈ kept <;> simp [h]

theorem nodup_assemble (h : extra.Nodup) : (assemble present [] ordinary extra).Nodup := by
  obtain ⟨kept, hkept, hassemble⟩ := assemble_eq present [] ordinary extra
  rw [hassemble, List.nil_append, List.nodup_append]
  refine ⟨hkept.nodup, h.filter _, ?_⟩
  rintro path hmem _ hrest rfl
  have hnew : path ∉ [] ∧ path ∉ kept := by simpa using (List.mem_filter.1 hrest).2
  exact hnew.2 hmem

theorem assemble_subset {ordinary' : List String} (h : ordinary ⊆ ordinary') :
    assemble present [] ordinary extra ⊆ assemble present [] ordinary' extra := by
  intro path hpath
  rw [mem_assemble_iff] at hpath ⊢
  exact hpath.imp_left fun ⟨hmem, hpresent⟩ => ⟨h hmem, hpresent⟩

end Classpath

namespace AndroidOptions

def bootJar (a : AndroidOptions) : String :=
  joinPaths a.sdkDir ["platforms", s!"android-{a.compileSdkVersion}", "android.jar"]

/-- What can be the class path of a variant: no entry stands twice, and each is there or the
platform library. With a directory of the platforms this stands once, and without one every
entry is there. -/
structure IsClasspath (a : AndroidOptions) (present : String → Bool) (paths : List String) :
    Prop where
  nodup : paths.Nodup
  there : ∀ path ∈ paths, present path = true ∨ path = a.bootJar
  boot : a.sdkDir ≠ "" → paths.count a.bootJar = 1
  bare : a.sdkDir = "" → ∀ path ∈ paths, present path = true

variable {a : AndroidOptions} {d : Directories} {tested : Bool} {vs : List PrimaryVariant}

theorem bootClasspath_eq (a : AndroidOptions) :
    a.bootClasspath = if a.sdkDir = "" then [] else [a.bootJar] := rfl

theorem isClasspath_assemble (a : AndroidOptions) (present : String → Bool)
    (ordinary : List String) :
    a.IsClasspath present (Classpath.assemble present [] ordinary a.bootClasspath) := by
  have hnodup : (Classpath.assemble present [] ordinary a.bootClasspath).Nodup := by
    apply Classpath.nodup_assemble
    rw [bootClasspath_eq]
    split <;> simp
  have hmem : ∀ path ∈ Classpath.assemble present [] ordinary a.bootClasspath,
      present path = true ∨ path ∈ a.bootClasspath := fun path hpath =>
    (Classpath.mem_assemble_iff.1 hpath).imp_left And.right
  constructor
  · exact hnodup
  · intro path hpath
    refine (hmem path hpath).imp_right fun hboot => ?_
    rw [bootClasspath_eq] at hboot
    split at hboot
    · cases hboot
    · exact List.mem_singleton.1 hboot
  · intro hsdk
    refine List.count_eq_one_of_mem hnodup (Classpath.mem_assemble_iff.2 (.inr ?_))
    rw [bootClasspath_eq, if_neg hsdk]
    exact List.mem_singleton_self _
  · intro hsdk path hpath
    refine (hmem path hpath).resolve_right ?_
    rw [bootClasspath_eq, if_pos hsdk]
    exact List.not_mem_nil

/-- A test variant sees what the variant that it tests sees, and this variant itself. -/
theorem classpath_subset_of_secondary (h : a.variants d tested = .ok vs) {v : PrimaryVariant}
    (hv : v ∈ vs) {w : Variant} (hw : w ∈ v.secondaries) : v.classpath ⊆ w.classpath := by
  obtain ⟨flavors, buildType, rfl⟩ := exists_of_mem_variants h hv
  obtain ⟨kind, -, rfl⟩ := exists_of_mem_secondaries hw
  exact List.subset_append_right _ _

end AndroidOptions

namespace Project

variable {p : Project} {a : AndroidOptions}

theorem variantSource?_of_variantSource (ha : p.android = some a) {source : VariantSource}
    (h : p.variantSource = .ok (some source)) : a.variantSource? p.directories = some source := by
  unfold variantSource at h
  rw [ha] at h
  cases hsource : a.variantSource? p.directories with
  | none => simp [hsource] at h
  | some source' => simpa [hsource] using h

theorem Configured.eq_check_of_mem {plugins : List Plugin} (h : p.Configured plugins) :
    ∀ t ∈ p.graph.tasks, t = checkTask := by
  intro t ht
  rw [TaskGraph.tasks, h.graph] at ht
  split at ht
  · exact List.mem_singleton.1 ht
  · cases ht

/-- Where anything is enlisted, the variants of the project can be listed. Those that are kept
are enlisted with the platform library. -/
theorem exists_variants_of_enlisted (ha : p.android = some a) {e : Enlistment}
    (he : e ∈ p.enlistments) :
    ∃ vs, a.variants p.directories (a.kind != .test) = .ok vs ∧
      p.enlistments = (p.options.ignoreRules.kept vs).flatMap
        (VariantSource.enlistments p.options.ignoreRules a.bootClasspath) ∧
      e.boot = a.bootClasspath := by
  unfold enlistments at he ⊢
  split at he
  · cases he
  · next hplugin =>
      rw [if_neg hplugin]
      split at he
      · next source hsource =>
          obtain ⟨hvariants, hboot⟩ := AndroidOptions.variants_of_variantSource?
            (variantSource?_of_variantSource ha hsource)
          rw [← hvariants, ← hboot]
          unfold VariantSource.survivors VariantSource.listed at he ⊢
          cases hvs : source.variants with
          | error f => simp [hvs] at he
          | ok vs =>
              rw [hvs] at he
              exact ⟨vs, rfl, rfl, VariantSource.boot_of_mem_flatMap he⟩
      · cases he

end Project

namespace Configuring

/-- However evaluating a loaded Android project ends, the variants whose tasks the graph has
are first ones of those enlisted. The class path of such a task has no entry twice; each
entry is there or the platform library, and this stands in it once if a directory of the
platforms is given. With the task of a test variant the graph also has that of the variant
that it tests, and its class path has all entries of the class path of that one. -/
theorem evaluate_leaves_classpaths (loaded : Project) (h : Description.Loaded loaded)
    (a : AndroidOptions) (directories : Directories) (options : AnalysisOptions)
    (present : String → Bool) :
    let p : Project := { loaded with android := some a, directories, options, present }
    ∃ done, p.Enlists done (ended (evaluate p)).2.graph ∧
      ((ended (evaluate p)).1 = none → done = p.enlistments) ∧
      (∀ e ∈ done, a.IsClasspath present (e.task p.registrar).classpath) ∧
      ∀ e ∈ done, e.umbrella = .test →
        ∃ vs, a.variants directories (a.kind != .test) = .ok vs ∧
          (∃ v ∈ vs, e.variant ∈ v.secondaries ∧ ⟨.main, v.toVariant, e.boot⟩ ∈ done) ∧
          ∀ v ∈ vs, e.variant ∈ v.secondaries →
            (Enlistment.task p.registrar ⟨.main, v.toVariant, e.boot⟩).classpath ⊆
              (e.task p.registrar).classpath := by
  intro p
  have happlied : p.applied = [.variantAnalysis 0, .analysis] := h.configured.applied
  have hfresh : p.evaluated = false := h.configured.evaluated
  have hcheck : p.HasCheck := h.configured.hasCheck
  have hgraph : ∀ t ∈ p.graph.tasks, t = Project.checkTask := h.configured.eq_check_of_mem
  obtain ⟨done, hdone, hall⟩ := exists_enlisted_of_evaluate happlied hfresh hcheck hgraph
  refine ⟨done, hdone, hall, fun e he => ?_, fun e he htest => ?_⟩
  · have hclasspath := a.isClasspath_assemble present e.variant.classpath
    obtain ⟨-, -, -, hboot⟩ :=
      Project.exists_variants_of_enlisted (p := p) rfl (hdone.first.subset he)
    rwa [← hboot] at hclasspath
  · obtain ⟨vs, hvs, henlistments, hboot⟩ :=
      Project.exists_variants_of_enlisted (p := p) rfl (hdone.first.subset he)
    obtain ⟨v, hv, hsecondary, hmem⟩ :=
      VariantSource.exists_primary_of_prefix (henlistments ▸ hdone.first) he htest
    refine ⟨vs, hvs, ⟨v, List.mem_of_mem_filter hv, hsecondary, hboot ▸ hmem⟩, ?_⟩
    intro v hv hsecondary
    exact Classpath.assemble_subset
      (AndroidOptions.classpath_subset_of_secondary hvs hv hsecondary)

theorem evaluate_leaves_classpaths_library :
    ∃ p q, Description.Loaded p ∧ evaluate p = .ok () q ∧
      ∃ production ∈ q.graph.tasks, ∃ test ∈ q.graph.tasks,
        production.name = "detektDebug" ∧ test.name = "detektDebugUnitTest" ∧
        "libs/a.jar" ∈ production.classpath ∧ production.classpath ⊆ test.classpath ∧
        test.classpath.Nodup ∧
        test.classpath.count "/sdk/platforms/android-29/android.jar" = 1 := by
  let a : AndroidOptions :=
    { kind := .library
      buildTypes := some ["debug"]
      sdkDir := "/sdk"
      compileClasspath := ["libs/a.jar", "libs/gone.jar"] }
  let loading : Description.Loading :=
    Description.loadFields { files := [(["libs", "a.jar"], [])] } [] (.ofLocation [])
      [("plugins", .list [.str "com.android.library", .str "kotlin-android"]),
       ("android", .object [("buildTypes", .list [.str "debug"]), ("sdkDir", .str "/sdk"),
          ("compileClasspath", .list [.str "libs/a.jar", .str "libs/gone.jar"])])]
  have hrun : loading.evaluates (fun p _ => p.android == some a &&
      (p.enlistments.any fun e => e.umbrella == .test && e.taskName == "detektDebugUnitTest") &&
      p.enlistments.all fun e => e.umbrella == .test || (e.taskName == "detektDebug" &&
        (e.task p.registrar).classpath.contains "libs/a.jar")) = true := by decide +kernel
  obtain ⟨p, q, hload, hq, htest⟩ := Description.Loading.exists_of_evaluates hrun
  simp only [Bool.and_eq_true, List.any_eq_true, List.all_eq_true, Bool.or_eq_true, beq_iff_eq,
    List.contains_iff_mem] at htest
  obtain ⟨⟨ha, e, he, htest, hname⟩, hproduction⟩ := htest
  have hloaded : Description.Loaded p := .fields _ _ _ _ hload
  have hclasspaths := evaluate_leaves_classpaths p hloaded a p.directories p.options p.present
  have hsame : { p with android := some a } = p := by rw [← ha]
  simp only [hsame, hq] at hclasspaths
  obtain ⟨done, hdone, hall, hclasspath, htested⟩ := hclasspaths
  obtain rfl := hall rfl
  obtain ⟨vs, -, ⟨v, hv, hsecondary, hmain⟩, hsubset⟩ := htested e he htest
  obtain ⟨hdebug, hjar⟩ := (hproduction _ hmain).resolve_left (by simp)
  have hboot : a.bootJar = "/sdk/platforms/android-29/android.jar" := by decide +kernel
  exact ⟨p, q, hloaded, hq, _, hdone.there _ hmain, _, hdone.there e he, hdebug, hname, hjar,
    hsubset v hv hsecondary, (hclasspath e he).nodup,
    hboot ▸ (hclasspath e he).boot (by decide)⟩

end Configuring

end AnalysisPlan
