import AnalysisPlan.Proofs.AskedPaths

/-!
# The names that evaluation plans

The names of all tasks that a project will have are known before it is evaluated
(`Project.plannedNames`): the task of all checks, the tasks of the variants with
their umbrellas, the tasks of the project as a whole, and those of the source
sets. Evaluation returns exactly if variants and source sets can be planned at
all and these names are different (`Project.Configured.course_completes_iff`); the
graph then has them in this order, and a first part of them, but not all, where
evaluation fails.

So are the paths that evaluation asks for (`Project.questions`). Where one of them is denied
an answer, evaluation does not return; at the first such path it is cut off, unless it failed
before.
-/

namespace AnalysisPlan

namespace Project

/-- The names of the tasks of a project, in the order in which they are planned. -/
def plannedNames (p : Project) : List String :=
  (if p.hasPlugin Plugin.lifecycleBase then ["check"] else []) ++
    Enlistment.roll [] p.enlistments ++
    ["detekt", "detektBaseline", "detektGenerateConfig"] ++
    if p.hasPlugin Plugin.kotlinJvm then p.sourceSets.map (Task.nameFor ·.name) else []

/-- The paths that evaluating a project asks for, in order. -/
def questions (p : Project) : List String :=
  Enlistment.questions p.present p.enlistments ++ p.options.input ++ p.sourceSetQuestions

/-- The variants of a project can be planned: there is an Android project whose
flavors can be combined, and its survivors have names whose tasks differ also with
case ignored. -/
structure VariantsFit (p : Project) : Prop where
  combined : ∃ a combinations,
    p.android = some a ∧ a.flavorCombinations = .ok combinations
  named : ∀ e ∈ p.enlistments, e.variant.name ≠ ""
  distinct : (p.enlistments.map Enlistment.key).Nodup

variable {p : Project}

theorem variantSource_of_android {a : AndroidOptions} (ha : p.android = some a)
    (hkind : a.kind ≠ .other) :
    ∃ source, p.variantSource = .ok (some source) ∧
      ((∃ vs, source.variants = .ok vs) ↔
        ∃ combinations, a.flavorCombinations = .ok combinations) := by
  unfold variantSource AndroidOptions.variantSource?
  rw [ha]
  simp only [hkind, if_false]
  refine ⟨_, rfl, ?_⟩
  simp only [AndroidOptions.variants]
  cases a.flavorCombinations <;> simp [Except.map]

theorem refuse_not_mem_variantCourse_iff
    (hkind : ∀ a, p.android = some a → a.kind ≠ .other)
    (hnodup : (p.enlistments.map Enlistment.taskName).Nodup) :
    (∀ f, .refuse f ∉ p.variantCourse) ↔
      (p.hasPlugin Plugin.kotlinAndroid = true → p.VariantsFit) := by
  cases hplugin : p.hasPlugin Plugin.kotlinAndroid with
  | false => simp [variantCourse, hplugin]
  | true =>
      cases ha : p.android with
      | none =>
          have hsource : p.variantSource = .ok none := by simp [variantSource, ha]
          have hunfit : ¬ p.VariantsFit := by
            rintro ⟨⟨a, _, hsome, -⟩, -, -⟩
            rw [ha] at hsome
            cases hsome
          simp [variantCourse, hplugin, hsource, hunfit]
      | some a =>
          obtain ⟨source, hsource, hvariants⟩ := variantSource_of_android ha (hkind a ha)
          have hcourse : p.variantCourse = (p.resolverFor source).course := by
            simp [variantCourse, hplugin, hsource]
          have hsurvivors : (p.resolverFor source).survivors = p.enlistments := by
            simp [survivors_resolverFor, enlistments, hplugin, hsource]
          rw [hcourse, Resolver.course, Enlistment.refuse_not_mem_course_iff .nil,
            Resolver.error_not_mem_entries_iff, Resolver.ofEntries_entries, hsurvivors,
            List.nil_append, ← Enlistment.nodup_key_iff hnodup]
          constructor
          · rintro ⟨hsources, hnames, hkeys⟩ -
            have hcombined := hvariants.1 (hsources source (by simp [resolverFor]))
            obtain ⟨combinations, hcombinations⟩ := hcombined
            exact ⟨⟨a, combinations, ha, hcombinations⟩, hnames, hkeys⟩
          · intro h
            obtain ⟨⟨b, combinations, hb, hcombinations⟩, hnames, hkeys⟩ := h rfl
            rw [ha] at hb
            cases hb
            refine ⟨fun s hs => ?_, hnames, hkeys⟩
            obtain rfl : s = source := by simpa [resolverFor] using hs
            exact hvariants.2 ⟨combinations, hcombinations⟩

theorem refuse_not_mem_projectCourse_iff (p : Project) :
    (∀ f, .refuse f ∉ p.projectCourse) ↔
      (p.hasPlugin Plugin.kotlinJvm = true →
        ∀ s ∈ p.sourceSets, s.kotlinSources ≠ none ∧ s.name ≠ "") := by
  have hcheck : ∀ f, .refuse f ∉ p.checkCourse := by
    intro f
    unfold checkCourse
    split <;> simp
  have hsets : (∀ f, .refuse f ∉ p.projectCourse) ↔ ∀ f, .refuse f ∉ p.sourceSetCourse := by
    simp [projectCourse, hcheck]
  rw [hsets, sourceSetCourse]
  split
  · next h => simp [h, SourceSet.refuse_not_mem_course_iff]
  · next h => simp [h]

variable (h : p.Configured [.variantAnalysis 0, .analysis])

include h

namespace Configured

theorem names_graph :
    p.graph.names = if p.hasPlugin Plugin.lifecycleBase then ["check"] else [] := by
  rw [TaskGraph.names_eq_nodes, h.graph]
  split <;> rfl

theorem hasCheck : p.HasCheck := by
  unfold HasCheck
  rw [h.names_graph]
  by_cases hbase : p.hasPlugin Plugin.lifecycleBase = true
  · simp [hbase, checkTask, Task.lifecycle]
  · simp [hbase]

theorem course_eq : p.applied.flatMap p.course = p.variantCourse ++ p.projectCourse := by
  rw [h.applied]
  simp [course]

theorem questions_eq : p.questions = p.applied.flatMap p.questionsOf := by
  rw [h.applied]
  simp [questions, questionsOf]

theorem closed_course : Move.Closed (p.applied.flatMap p.course) := by
  rw [h.course_eq]
  exact p.closed_projectCourse.behind (by simp [names_projectCourse]) p.variantCourse

theorem plannedNames_eq :
    p.plannedNames = p.graph.names ++ Move.names (p.applied.flatMap p.course) := by
  rw [h.course_eq, Move.names_append, names_variantCourse, names_projectCourse,
    names_sourceSetCourse, h.names_graph, plannedNames]
  simp only [List.append_assoc]
  rfl

/-- The course of a configured project is completed exactly if its variants and
source sets can be planned and the planned names are different. -/
theorem course_completes_iff :
    (p.graph.follow (p.applied.flatMap p.course)).2 = none ↔
      (p.hasPlugin Plugin.kotlinAndroid = true → p.VariantsFit) ∧
        (p.hasPlugin Plugin.kotlinJvm = true →
          ∀ s ∈ p.sourceSets, s.kotlinSources ≠ none ∧ s.name ≠ "") ∧
        p.plannedNames.Nodup := by
  have hgraph : p.graph.names.Nodup := by
    rw [h.names_graph]
    split <;> simp
  have hplanned : p.plannedNames.Nodup ↔
      (Move.names (p.applied.flatMap p.course)).Nodup ∧
        ∀ name ∈ Move.names (p.applied.flatMap p.course), name ∉ p.graph.names := by
    rw [h.plannedNames_eq, List.nodup_append]
    constructor
    · rintro ⟨-, hnames, hnew⟩
      exact ⟨hnames, fun name hname hold => hnew name hold name hname rfl⟩
    · rintro ⟨hnames, hnew⟩
      refine ⟨hgraph, hnames, fun name hold other hother => ?_⟩
      rintro rfl
      exact hnew name hother hold
  have hrefuse : (∀ f, .refuse f ∉ p.applied.flatMap p.course) ↔
      (∀ f, .refuse f ∉ p.variantCourse) ∧ ∀ f, .refuse f ∉ p.projectCourse := by
    rw [h.course_eq, ← forall_and]
    simp
  rw [TaskGraph.follow_completes_iff, ← hplanned, hrefuse, and_assoc,
    refuse_not_mem_projectCourse_iff]
  refine and_congr_left fun ⟨_, hnodup⟩ => refuse_not_mem_variantCourse_iff h.android ?_
  have hroll : (Enlistment.roll [] p.enlistments).Nodup := by
    rw [← names_variantCourse]
    have hnames := (hplanned.1 hnodup).1
    rw [h.course_eq, Move.names_append] at hnames
    exact hnames.of_append_left
  exact ((Enlistment.roll_perm [] _).nodup_iff.1 hroll).of_append_left

end Configured

end Project

namespace Configuring

variable {p : Project}

/-- Evaluation returns exactly if its course is completed, and then leaves the planned names;
where it fails, it leaves a first part of them. -/
theorem names_of_evaluate (h : p.Configured [.variantAnalysis 0, .analysis]) :
    ((∃ q, evaluate p = .ok () q) ↔
      (p.graph.follow (p.applied.flatMap p.course)).2 = none) ∧
      (∀ q, evaluate p = .ok () q → q.graph.names = p.plannedNames) ∧
      ∀ fault q, evaluate p = .error fault q →
        q.graph.names <+: p.plannedNames ∧ q.graph.names ≠ p.plannedNames := by
  have hfollows := evaluate_follows h.evaluated h.hasCheck
  refine ⟨?_, fun q hq => ?_, fun fault q hq => ?_⟩
  · have hunit : (∃ q, evaluate p = .ok () q) ↔ ∃ a q, evaluate p = .ok a q :=
      ⟨fun ⟨q, hq⟩ => ⟨(), q, hq⟩, fun ⟨_, q, hq⟩ => ⟨q, hq⟩⟩
    rw [hunit, hfollows.returns_iff]
  · rw [hq] at hfollows
    rw [h.plannedNames_eq]
    exact TaskGraph.names_of_completed hfollows.1
  · rw [hq] at hfollows
    obtain ⟨taken, htaken, hnames⟩ :=
      TaskGraph.names_follow p.graph (p.applied.flatMap p.course)
    rw [show p.graph.follow (p.applied.flatMap p.course) = (q.graph, some fault) from hfollows]
      at hnames
    have hshort := TaskGraph.length_names_lt h.closed_course hfollows
    rw [h.plannedNames_eq]
    constructor
    · rw [hnames]
      exact (List.prefix_append_right_inj _).2 htaken
    · intro hall
      rw [hall, List.length_append] at hshort
      exact Nat.lt_irrefl _ hshort

end Configuring

end AnalysisPlan
