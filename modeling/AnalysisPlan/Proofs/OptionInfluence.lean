import AnalysisPlan.Proofs.PlannedTasks
import Mathlib.Data.List.Forall2

/-!
# What the options of a project have influence on

Two evaluations of one project under different options are compared move by move.
Where the options name the same inputs and the same to ignore
(`AnalysisOptions.PlansLike`), the two courses refuse the same, connect the same, and
add tasks that belong together; so both end alike, in the middle of planning as well,
and the graphs have the same shape (`Configuring.evaluate_confines`).

Which tasks belong together is a relation, for which it is enough that it holds of the
tasks that the two registrars make of a unit. It allows other reports and settings in
general, other reports of the plain analysis where only their directory was chosen
otherwise, and nothing where only another version of the analyser was.
-/

namespace AnalysisPlan

/-- Two options that name the same inputs and the same to ignore. -/
structure AnalysisOptions.PlansLike (o o' : AnalysisOptions) : Prop where
  input : o'.input = o.input
  ignoredVariants : o'.ignoredVariants = o.ignoredVariants
  ignoredBuildTypes : o'.ignoredBuildTypes = o.ignoredBuildTypes
  ignoredFlavors : o'.ignoredFlavors = o.ignoredFlavors

/-- Two tasks that are the same apart from their reports and settings. -/
structure Task.SameWork (t t' : Task) : Prop where
  name : t'.name = t.name
  kind : t'.kind = t.kind
  group : t'.group = t.group
  description : t'.description = t.description
  sources : t'.sources = t.sources
  includes : t'.includes = t.includes
  excludes : t'.excludes = t.excludes
  classpath : t'.classpath = t.classpath
  toolConfigurations : t'.toolConfigurations = t.toolConfigurations

theorem Task.SameWork.refl (t : Task) : t.SameWork t := ⟨rfl, rfl, rfl, rfl, rfl, rfl, rfl, rfl, rfl⟩

/-- Two tasks of which only those of the plain analysis may differ, in their reports. -/
def Task.SameButPlainReports (t t' : Task) : Prop :=
  t' = t ∨ t.name = Task.analysisName ∧ ∃ reports, t' = { t with reports }

/-! ## Courses that belong together -/

/-- Two nodes with tasks that belong together, which depend on the same. -/
structure TaskNode.Pairs (R : Task → Task → Prop) (n n' : TaskNode) : Prop where
  task : R n.task n'.task
  needs : n'.needs = n.needs

/-- Two moves that differ at most in the task of the node that they add. -/
inductive Move.Pairs (R : Task → Task → Prop) : Move → Move → Prop
  | add {n n' : TaskNode} (h : n.Pairs R n') : Pairs R (.add n) (.add n')
  | connect (name dependency : String) :
      Pairs R (.connect name dependency) (.connect name dependency)
  | refuse (f : Fault) : Pairs R (.refuse f) (.refuse f)

section Pairs

variable {R : Task → Task → Prop}

theorem Move.Pairs.refl (hrefl : ∀ t, R t t) (m : Move) : m.Pairs R m := by
  cases m with
  | add n => exact .add ⟨hrefl n.task, rfl⟩
  | connect name dependency => exact .connect name dependency
  | refuse f => exact .refuse f

theorem Move.pairs_self (hrefl : ∀ t, R t t) (moves : List Move) :
    List.Forall₂ (Move.Pairs R) moves moves :=
  List.forall₂_same.2 fun m _ => .refl hrefl m

theorem TaskNode.Pairs.needing (hname : ∀ t t', R t t' → t'.name = t.name) {n n' : TaskNode}
    (h : n.Pairs R n') (name dependency : String) :
    (TaskGraph.needing name dependency n).Pairs R (TaskGraph.needing name dependency n') := by
  unfold TaskGraph.needing
  rw [hname _ _ h.task]
  split
  · exact ⟨h.task, congrArg (·.insert dependency) h.needs⟩
  · exact h

theorem TaskGraph.names_eq_of_pairs (hname : ∀ t t', R t t' → t'.name = t.name)
    {g g' : TaskGraph} (h : List.Forall₂ (TaskNode.Pairs R) g.nodes g'.nodes) :
    g'.names = g.names := by
  rw [names_eq_nodes, names_eq_nodes]
  generalize g.nodes = nodes, g'.nodes = nodes' at h
  induction h with
  | nil => rfl
  | cons hn _ ih => rw [List.map_cons, List.map_cons, ih, hname _ _ hn.task]

/-- Courses that belong together end alike and lead to graphs that do. -/
theorem TaskGraph.follow_pairs (hname : ∀ t t', R t t' → t'.name = t.name)
    {g g' : TaskGraph} (hg : List.Forall₂ (TaskNode.Pairs R) g.nodes g'.nodes)
    {moves moves' : List Move} (hmoves : List.Forall₂ (Move.Pairs R) moves moves') :
    (g'.follow moves').2 = (g.follow moves).2 ∧
      List.Forall₂ (TaskNode.Pairs R) (g.follow moves).1.nodes (g'.follow moves').1.nodes := by
  induction hmoves generalizing g g' with
  | nil => exact ⟨rfl, hg⟩
  | cons hm _ ih =>
      cases hm with
      | refuse f => exact ⟨rfl, hg⟩
      | connect name dependency =>
          rw [follow_connect, follow_connect]
          apply ih
          rw [tie, tie, List.forall₂_map_left_iff, List.forall₂_map_right_iff]
          exact hg.imp fun _ _ hn => hn.needing hname name dependency
      | @add n n' hn =>
          have hsame : n'.task.name ∈ g'.names ↔ n.task.name ∈ g.names := by
            rw [names_eq_of_pairs hname hg, hname _ _ hn.task]
          by_cases hmem : n.task.name ∈ g.names
          · rw [follow_add_of_mem _ hmem, follow_add_of_mem _ (hsame.2 hmem), hname _ _ hn.task]
            exact ⟨rfl, hg⟩
          · rw [follow_add_of_not_mem _ hmem, follow_add_of_not_mem _ (mt hsame.1 hmem)]
            apply ih
            exact List.rel_append hg (.cons hn .nil)

theorem Enlistment.course_pairs (hrefl : ∀ t, R t t) {r r' : Registrar}
    (hunit : ∀ u, R (r.taskFor u) (r'.taskFor u)) (before : List Enlistment)
    (entries : List (Except Fault Enlistment)) :
    List.Forall₂ (Move.Pairs R) (course r before entries) (course r' before entries) := by
  induction entries generalizing before with
  | nil => exact .nil
  | cons entry entries ih =>
      cases entry with
      | error f => exact .cons (.refuse f) (ih before)
      | ok e =>
          rw [course, course, moves, moves]
          refine List.rel_append (List.rel_append (Move.pairs_self hrefl _) ?_) (ih _)
          exact .cons (.add ⟨hunit _, rfl⟩) (Move.pairs_self hrefl _)

theorem SourceSet.course_pairs (hrefl : ∀ t, R t t) {r r' : Registrar}
    (hunit : ∀ u, R (r.taskFor u) (r'.taskFor u)) (sets : List SourceSet) :
    List.Forall₂ (Move.Pairs R) (course r sets) (course r' sets) := by
  induction sets with
  | nil => exact .nil
  | cons s sets ih =>
      rw [course, course, List.flatMap_cons, List.flatMap_cons, Registrar.moves, Registrar.moves]
      refine List.rel_append (List.rel_append (Move.pairs_self hrefl _) ?_) ih
      exact List.rel_append (Move.pairs_self hrefl _) (.cons (.add ⟨hunit _, rfl⟩) .nil)

/-! ## One project under two options -/

namespace Project

variable {p : Project} {o o' : AnalysisOptions}

/-- What has to hold of a relation so that tasks planned under two options belong
together. -/
structure Confines (p : Project) (o o' : AnalysisOptions) (R : Task → Task → Prop) :
    Prop where
  refl : ∀ t, R t t
  name : ∀ t t', R t t' → t'.name = t.name
  unit : ∀ u, R (Registrar.taskFor ⟨p.present, o⟩ u) (Registrar.taskFor ⟨p.present, o'⟩ u)
  plain : R (analysisTask { p with options := o }) (analysisTask { p with options := o' })
  baseline : R (baselineTask { p with options := o }) (baselineTask { p with options := o' })

theorem variantCourse_pairs (hsame : o.PlansLike o') (h : p.Confines o o' R) :
    List.Forall₂ (Move.Pairs R) (variantCourse { p with options := o })
      (variantCourse { p with options := o' }) := by
  have hrules : o'.ignoreRules = o.ignoreRules := by
    unfold AnalysisOptions.ignoreRules
    rw [hsame.ignoredVariants, hsame.ignoredBuildTypes, hsame.ignoredFlavors]
  have hplugin : ∀ options, hasPlugin { p with options } Plugin.kotlinAndroid =
      p.hasPlugin Plugin.kotlinAndroid := fun _ => rfl
  have hsource : ∀ options, variantSource { p with options } = p.variantSource := fun _ => rfl
  unfold variantCourse
  rw [hplugin o, hplugin o', hsource o, hsource o']
  split
  · exact .nil
  · cases p.variantSource with
    | error f => exact .cons (.refuse f) .nil
    | ok source? =>
        cases source? with
        | none => exact .cons (.refuse _) .nil
        | some source =>
            simp only [Resolver.course, Resolver.entries, resolverFor, hrules]
            exact Enlistment.course_pairs h.refl h.unit [] _

theorem projectCourse_pairs (h : p.Confines o o' R) :
    List.Forall₂ (Move.Pairs R) (projectCourse { p with options := o })
      (projectCourse { p with options := o' }) := by
  refine List.rel_append (.cons (.add ⟨h.plain, rfl⟩) (.cons (.add ⟨h.baseline, rfl⟩)
    (.cons (.refl h.refl _) .nil))) (List.rel_append ?_ ?_)
  · exact Move.pairs_self h.refl _
  · unfold sourceSetCourse
    change List.Forall₂ _ (if p.hasPlugin Plugin.kotlinJvm then _ else _)
      (if p.hasPlugin Plugin.kotlinJvm then _ else _)
    split
    · exact SourceSet.course_pairs h.refl h.unit p.sourceSets
    · exact .nil

theorem course_pairs (hsame : o.PlansLike o') (h : p.Confines o o' R) (plugin : Plugin) :
    List.Forall₂ (Move.Pairs R) (course { p with options := o } plugin)
      (course { p with options := o' } plugin) := by
  cases plugin with
  | analysis => exact projectCourse_pairs h
  | variantAnalysis serial => exact variantCourse_pairs hsame h
  | addon id key => exact Move.pairs_self h.refl _

theorem confines_sameWork (p : Project) (hinput : o'.input = o.input) :
    p.Confines o o' Task.SameWork := by
  have hinputs : inputs { p with options := o' } = inputs { p with options := o } :=
    congrArg (List.filter p.present) hinput
  refine ⟨Task.SameWork.refl, fun _ _ h => h.name, fun u => ?_, ?_, ?_⟩
  · exact ⟨rfl, rfl, rfl, rfl, rfl, rfl, rfl, rfl, rfl⟩
  · exact ⟨rfl, rfl, rfl, rfl, hinputs, rfl, rfl, rfl, rfl⟩
  · exact ⟨rfl, rfl, rfl, rfl, hinputs, rfl, rfl, rfl, rfl⟩

theorem confines_customReportsDir (p : Project) (o : AnalysisOptions) (dir : Option String) :
    p.Confines o { o with customReportsDir := dir } Task.SameButPlainReports := by
  refine ⟨fun t => .inl rfl, fun t t' h => ?_, fun u => .inl rfl, .inr ⟨rfl, _, rfl⟩, .inl rfl⟩
  rcases h with rfl | ⟨-, reports, rfl⟩
  · rfl
  · rfl

theorem confines_toolVersion (p : Project) (o : AnalysisOptions) (version : Option String) :
    p.Confines o { o with toolVersion := version } Eq :=
  ⟨fun _ => rfl, fun _ _ h => congrArg Task.name h.symm, fun _ => rfl, rfl, rfl⟩

end Project

namespace Configuring

variable {p : Project} {o o' : AnalysisOptions}

theorem evaluate_pairs (hfresh : p.evaluated = false) (hcheck : p.HasCheck)
    (hsame : o.PlansLike o') (h : p.Confines o o' R) :
    let before := ended (evaluate { p with options := o })
    let after := ended (evaluate { p with options := o' })
    after.1 = before.1 ∧
      List.Forall₂ (TaskNode.Pairs R) before.2.graph.nodes after.2.graph.nodes := by
  intro before after
  have hbefore := (evaluate_follows (p := { p with options := o }) hfresh hcheck).follow_eq
  have hafter := (evaluate_follows (p := { p with options := o' }) hfresh hcheck).follow_eq
  have hcourse : List.Forall₂ (Move.Pairs R)
      (p.applied.flatMap (Project.course { p with options := o }))
      (p.applied.flatMap (Project.course { p with options := o' })) := by
    induction p.applied with
    | nil => exact .nil
    | cons plugin plugins ih =>
        rw [List.flatMap_cons, List.flatMap_cons]
        exact List.rel_append (Project.course_pairs hsame h plugin) ih
  have hgraph : List.Forall₂ (TaskNode.Pairs R) p.graph.nodes p.graph.nodes :=
    List.forall₂_same.2 fun n _ => ⟨h.refl n.task, rfl⟩
  obtain ⟨hfault, hnodes⟩ := TaskGraph.follow_pairs h.name hgraph hcourse
  have hbefore : p.graph.follow (p.applied.flatMap (Project.course { p with options := o })) =
      (before.2.graph, before.1) := hbefore
  have hafter : p.graph.follow (p.applied.flatMap (Project.course { p with options := o' })) =
      (after.2.graph, after.1) := hafter
  rw [hbefore, hafter] at hfault hnodes
  exact ⟨hfault, hnodes⟩

end Configuring

end Pairs

theorem TaskGraph.eq_of_pairs {g g' : TaskGraph}
    (h : List.Forall₂ (TaskNode.Pairs Eq) g.nodes g'.nodes) : g' = g := by
  have hnodes : g'.nodes = g.nodes := by
    rw [← List.forall₂_eq_eq_eq]
    refine h.flip.imp fun n' n hn => ?_
    cases n
    cases n'
    cases hn.task
    cases hn.needs
    rfl
  cases g
  cases g'
  exact congrArg TaskGraph.mk hnodes

namespace Configuring

/-- Under two options that name the same inputs and the same to ignore, evaluating a
loaded project ends alike: it returns under both, or fails with the same fault. What
the two graphs hold then are, one by one and in the same order, tasks of the same name
that depend on the same and are the same apart from their reports and settings. If
only the custom directory of reports was chosen otherwise, the tasks are the same apart
from the reports of the plain analysis; if only the version of the analyser was, the
graphs are the same. -/
theorem evaluate_confines (loaded : Project) (h : Description.Loaded loaded)
    (o o' : AnalysisOptions) (hsame : o.PlansLike o') :
    let before := ended (evaluate { loaded with options := o })
    let after := ended (evaluate { loaded with options := o' })
    after.1 = before.1 ∧
      List.Forall₂ (TaskNode.Pairs Task.SameWork) before.2.graph.nodes after.2.graph.nodes ∧
      (∀ dir, o' = { o with customReportsDir := dir } →
        List.Forall₂ (TaskNode.Pairs Task.SameButPlainReports) before.2.graph.nodes
          after.2.graph.nodes) ∧
      ∀ version, o' = { o with toolVersion := version } → after.2.graph = before.2.graph := by
  intro before after
  have hfresh := h.configured.evaluated
  have hcheck := h.configured.hasCheck
  obtain ⟨hfault, hnodes⟩ :=
    evaluate_pairs hfresh hcheck hsame (loaded.confines_sameWork hsame.input)
  refine ⟨hfault, hnodes, ?_, ?_⟩
  · rintro dir rfl
    exact (evaluate_pairs hfresh hcheck hsame (loaded.confines_customReportsDir o dir)).2
  · rintro version rfl
    exact TaskGraph.eq_of_pairs
      (evaluate_pairs hfresh hcheck hsame (loaded.confines_toolVersion o version)).2

theorem evaluate_confines_library :
    ∃ p q o, Description.Loaded p ∧ evaluate p = .ok () q ∧ o.debug ≠ p.options.debug ∧
      o.reportsDir ≠ p.options.reportsDir ∧
      ∃ q', evaluate { p with options := o } = .ok () q' ∧
        List.Forall₂ (TaskNode.Pairs Task.SameWork) q.graph.nodes q'.graph.nodes := by
  have hrun : (Description.loadFields {} [] (.ofLocation [])
      [("plugins", .list [.str "com.android.library", .str "kotlin-android"])]).evaluates
        (fun p _ => p.options.debug == false && p.options.reportsDir != "") = true := by
    decide +kernel
  obtain ⟨p, q, hload, hq, htest⟩ := Description.Loading.exists_of_evaluates hrun
  rw [Bool.and_eq_true, beq_iff_eq, bne_iff_ne] at htest
  let o : AnalysisOptions := { p.options with debug := true, reportsDir := "" }
  obtain ⟨hfault, hnodes, -, -⟩ :=
    evaluate_confines p (.fields _ _ _ _ hload) p.options o ⟨rfl, rfl, rfl, rfl⟩
  rw [show evaluate { p with options := p.options } = .ok () q from hq] at hfault hnodes
  refine ⟨p, q, o, .fields _ _ _ _ hload, hq, by simp [o, htest.1], htest.2.symm, ?_⟩
  cases hq' : evaluate { p with options := o } with
  | error f q' =>
      rw [hq'] at hfault
      cases hfault
  | ok a q' =>
      rw [hq'] at hnodes
      exact ⟨q', rfl, hnodes⟩

end Configuring

end AnalysisPlan
