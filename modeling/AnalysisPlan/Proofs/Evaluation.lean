import AnalysisPlan.Project.Evaluation
import AnalysisPlan.Proofs.Survivors

/-!
# Evaluating a project follows a course

Each plugin of a project makes a course of its own: the variant plugin that of the
survivors, the plain one that of the project as a whole and of its source sets.
None of them reads what the others made of the graph, apart from the task of all
checks, which is there exactly if the plugin is that brings it; so evaluating a
project makes the courses of its plugins one after the other
(`Configuring.evaluate_follows`).
-/

namespace AnalysisPlan

namespace Project

def resolverFor (p : Project) (source : VariantSource) : Resolver where
  registrar := p.registrar
  rules := p.options.ignoreRules
  sources := [source]

/-- What planning the variants does to the graph. -/
def variantCourse (p : Project) : List Move :=
  if !p.hasPlugin Plugin.kotlinAndroid then []
  else
    match p.variantSource with
    | .error f => [.refuse f]
    | .ok none => [.refuse (.noVariantSource p.name)]
    | .ok (some source) => (p.resolverFor source).course

/-- The connection from the task of all checks. -/
def checkCourse (p : Project) : List Move :=
  if p.hasPlugin Plugin.lifecycleBase then [.connect checkTask.name Task.analysisName]
  else []

def sourceSetCourse (p : Project) : List Move :=
  if p.hasPlugin Plugin.kotlinJvm then SourceSet.course p.registrar p.sourceSets else []

def projectCourse (p : Project) : List Move :=
  [.add ⟨p.analysisTask, ∅⟩, .add ⟨p.baselineTask, ∅⟩, .add ⟨generateConfigTask, ∅⟩] ++
    (p.checkCourse ++ p.sourceSetCourse)

def addonCourse (p : Project) (plugin : Plugin) : List Move :=
  ((p.addonOf plugin).refusal.map .pluginRefusal).toList.map .refuse

/-- What finalizing a plugin does to the graph. -/
def course (p : Project) : Plugin → List Move
  | .analysis => p.projectCourse
  | .variantAnalysis _ => p.variantCourse
  | .addon id key => p.addonCourse (.addon id key)

/-- The variants of a project that survive its ignore lists, enlisted. -/
def enlistments (p : Project) : List Enlistment :=
  if !p.hasPlugin Plugin.kotlinAndroid then []
  else
    match p.variantSource with
    | .ok (some source) => source.survivors p.options.ignoreRules
    | _ => []

/-- The task of all checks is there exactly if the plugin is that brings it. -/
def HasCheck (p : Project) : Prop :=
  checkTask.name ∈ p.graph.names ↔ p.hasPlugin Plugin.lifecycleBase = true

/-- All that finalizing plugins changes of a project. -/
def Settles (p q : Project) : Prop :=
  q = { p with
    registry := q.registry
    history := q.history
    variantTasks := q.variantTasks }

variable {p q s : Project}

theorem Settles.refl (p : Project) : p.Settles p := rfl

theorem Settles.trans (hpq : p.Settles q) (hqs : q.Settles s) : p.Settles s := by
  unfold Settles at hpq hqs ⊢
  rw [hqs, hpq]

theorem Settles.course_eq (h : p.Settles q) : q.course = p.course := by
  rw [h]
  rfl

/-! ## What the courses add -/

theorem survivors_resolverFor (p : Project) (source : VariantSource) :
    (p.resolverFor source).survivors = source.survivors p.options.ignoreRules := by
  simp [Resolver.survivors, resolverFor]

theorem names_variantCourse (p : Project) :
    Move.names p.variantCourse = Enlistment.roll [] p.enlistments := by
  unfold variantCourse enlistments
  split
  · rfl
  · cases p.variantSource with
    | error f => rfl
    | ok source? =>
        cases source? with
        | none => rfl
        | some source =>
            simp only
            rw [← p.survivors_resolverFor source, ← Resolver.ofEntries_entries]
            exact Enlistment.names_course _ [] _

theorem names_sourceSetCourse (p : Project) :
    Move.names p.sourceSetCourse =
      if p.hasPlugin Plugin.kotlinJvm then p.sourceSets.map (Task.nameFor ·.name) else [] := by
  unfold sourceSetCourse
  split
  · exact SourceSet.names_course p.registrar p.sourceSets
  · rfl

theorem names_projectCourse (p : Project) :
    Move.names p.projectCourse =
      [p.analysisTask.name, p.baselineTask.name, generateConfigTask.name] ++
        Move.names p.sourceSetCourse := by
  have hcheck : Move.names p.checkCourse = [] := by
    unfold checkCourse
    split <;> rfl
  rw [projectCourse, Move.names_append, Move.names_append, hcheck, List.nil_append]
  rfl

theorem closed_projectCourse (p : Project) : Move.Closed p.projectCourse := by
  have hcheck : Move.Closed p.checkCourse := by
    unfold checkCourse
    split <;> trivial
  have hsets : Move.Closed p.sourceSetCourse := by
    unfold sourceSetCourse
    split
    · exact SourceSet.closed_course p.registrar p.sourceSets
    · trivial
  exact hcheck.append hsets

/-- The names of all tasks that are planned begin alike. -/
theorem analysisName_prefix_of_mem_course {plugin : Plugin} {name : String}
    (h : name ∈ Move.names (p.course plugin)) : ∃ rest, name = Task.analysisName ++ rest := by
  cases plugin with
  | analysis =>
      rw [course, names_projectCourse, names_sourceSetCourse, List.mem_append] at h
      rcases h with h | h
      · simp only [List.mem_cons, List.not_mem_nil, or_false] at h
        rcases h with rfl | rfl | rfl
        · exact ⟨"", rfl⟩
        · exact ⟨"Baseline", rfl⟩
        · exact ⟨"GenerateConfig", rfl⟩
      · split at h
        · obtain ⟨s, -, rfl⟩ := List.mem_map.1 h
          exact ⟨Text.capitalize s.name, rfl⟩
        · cases h
  | variantAnalysis serial =>
      rw [course, names_variantCourse, Enlistment.mem_roll] at h
      rcases h with ⟨e, -, rfl⟩ | ⟨e, -, rfl⟩
      · exact ⟨Text.capitalize e.variant.name, rfl⟩
      · cases e.umbrella with
        | main => exact ⟨"Main", rfl⟩
        | test => exact ⟨"Test", rfl⟩
  | addon id key =>
      have hnone : Move.names (p.addonCourse (.addon id key)) = [] := by
        unfold addonCourse
        cases (p.addonOf (.addon id key)).refusal <;> rfl
      rw [course, hnone] at h
      cases h

theorem check_not_mem_course (p : Project) (plugin : Plugin) :
    checkTask.name ∉ Move.names (p.course plugin) := by
  intro h
  obtain ⟨rest, hrest⟩ := analysisName_prefix_of_mem_course h
  have hchars := congrArg String.toList hrest
  simp [checkTask, Task.lifecycle, Task.analysisName] at hchars

theorem HasCheck.of_course {plugin : Plugin} (h : p.HasCheck) (hpq : p.Settles q)
    (hcourse : p.graph.follow (p.course plugin) = (q.graph, none)) : q.HasCheck := by
  have hmem : checkTask.name ∈ q.graph.names ↔ checkTask.name ∈ p.graph.names := by
    rw [TaskGraph.names_of_completed hcourse, List.mem_append]
    exact or_iff_left (p.check_not_mem_course plugin)
  have hplugin : q.hasPlugin = p.hasPlugin := by
    rw [hpq]
    rfl
  unfold HasCheck
  rw [hmem, hplugin]
  exact h

end Project

namespace Configuring

variable {α : Type} {p : Project}

theorem registering_follows {x : Registration α} {moves : List Move}
    {done : α → Registry → Prop}
    (h : Follows Registry.graph p.graph moves done (x p.registry)) :
    Follows Project.graph p.graph moves
      (fun a q => done a q.registry ∧ q = { p with registry := q.registry })
      (registering x p) := by
  unfold registering
  cases hx : x p.registry with
  | ok a r =>
      rw [hx] at h
      exact ⟨h.1, h.2, rfl⟩
  | error f r =>
      rw [hx] at h
      exact h

/-- A registration settles a project further. -/
theorem settling_follows {x : Registration α} {q : Project} {moves : List Move}
    {done : α → Registry → Prop} (hpq : p.Settles q)
    (h : Follows Registry.graph q.graph moves done (x q.registry)) :
    Follows Project.graph q.graph moves (fun _ s => p.Settles s) (registering x q) := by
  refine (registering_follows h).mono fun _ s hs => hpq.trans ?_
  unfold Project.Settles
  rw [hs.2]

theorem planSourceSets_follows {q : Project} (h : p.Settles q) :
    Follows Project.graph q.graph p.sourceSetCourse (fun _ s => p.Settles s)
      ((if p.hasPlugin Plugin.kotlinJvm then
          (do let _ ← registering (SourceSet.registerAll p.registrar p.sourceSets))
        else pure () : Configuring Unit) q) := by
  unfold Project.sourceSetCourse
  split
  · refine (settling_follows h (SourceSet.registerAll_follows p.registrar p.sourceSets
      q.registry)).bind_quiet fun _ s _ hs => ?_
    exact (Follows.pure () s).mono fun _ t ht => ht.2 ▸ hs
  · exact (Follows.pure () q).mono fun _ t ht => ht.2 ▸ h

theorem planProject_follows (hcheck : p.HasCheck) :
    Follows Project.graph p.graph p.projectCourse (fun _ q => p.Settles q)
      (planProject p) := by
  unfold planProject Project.projectCourse
  refine Follows.get_bind ?_
  have hadd := fun (task : Task) (q : Project) (hpq : p.Settles q) =>
    settling_follows hpq (Registration.add_follows task q.registry)
  refine (settling_follows (.refl p) (Registration.ask_follows _ p.registry)).quiet_bind
    fun _ q₀ hg₀ hq₀ => ?_
  have hfirst := hadd p.analysisTask q₀ hq₀
  rw [hg₀] at hfirst
  refine (hfirst.bind fun _ q₁ hf₁ hq₁ => ?_ : Follows Project.graph _ ([_] ++ _) _ _)
  refine ((hadd _ q₁ hq₁).bind fun _ q₂ hf₂ hq₂ => ?_ :
    Follows Project.graph _ ([_] ++ _) _ _)
  refine ((hadd _ q₂ hq₂).bind fun _ q₃ hf₃ hq₃ => ?_ :
    Follows Project.graph _ ([_] ++ _) _ _)
  have hnames : q₃.graph.names = p.graph.names ++
      [p.analysisTask.name, p.baselineTask.name, Project.generateConfigTask.name] := by
    rw [TaskGraph.names_of_completed hf₃, TaskGraph.names_of_completed hf₂,
      TaskGraph.names_of_completed hf₁]
    simp
  unfold Project.checkCourse
  by_cases hbase : p.hasPlugin Plugin.lifecycleBase = true
  · have hmem : Project.checkTask.name ∈ p.graph.names := hcheck.2 hbase
    rw [if_pos hbase, if_pos (TaskGraph.has_iff.2 hmem)]
    refine (settling_follows hq₃ (Registration.connect_follows ?_ ?_)).bind fun _ q₄ _ hq₄ =>
      planSourceSets_follows hq₄
    · rw [show q₃.registry.graph.names = _ from hnames]
      exact List.mem_append_left _ hmem
    · rw [show q₃.registry.graph.names = _ from hnames]
      exact List.mem_append_right _ List.mem_cons_self
  · have hnot : ¬ p.graph.has Project.checkTask.name = true := by
      rw [TaskGraph.has_iff]
      exact fun hmem => hbase (hcheck.1 hmem)
    rw [if_neg hbase, if_neg hnot, List.nil_append]
    exact planSourceSets_follows hq₃

theorem resolveVariants_follows (source : VariantSource) :
    Follows Project.graph p.graph (p.resolverFor source).course (fun _ q => p.Settles q)
      (resolveVariants source p) := by
  unfold resolveVariants
  refine Follows.get_bind ?_
  have hresolve := settling_follows (x := fun r => ((p.resolverFor source).resolve r).2)
    (.refl p) ((p.resolverFor source).resolve_follows rfl p.registry)
  refine hresolve.bind_quiet fun _ q _ hq => ?_
  refine (Follows.modify rfl).mono fun _ s hs => hq.trans ?_
  unfold Project.Settles
  rw [hs]

theorem planVariants_follows (p : Project) :
    Follows Project.graph p.graph p.variantCourse (fun _ q => p.Settles q)
      (planVariants p) := by
  unfold planVariants Project.variantCourse
  refine Follows.get_bind ?_
  split
  · exact settling_follows (.refl p) (Registration.report_follows _ p.registry)
  · cases p.variantSource with
    | error f => exact Follows.throw f p
    | ok source? =>
        cases source? with
        | none => exact Follows.throw _ p
        | some source => exact resolveVariants_follows source

theorem finalizeOne_follows (plugin : Plugin) (hcheck : p.HasCheck) :
    Follows Project.graph p.graph (p.course plugin) (fun _ q => p.Settles q)
      (finalizeOne plugin p) := by
  unfold finalizeOne
  refine (settling_follows (.refl p) (Registration.report_follows _ p.registry)).quiet_bind
    fun _ q₁ hg₁ hq₁ => ?_
  rw [← hg₁]
  refine (Follows.modify rfl).quiet_bind fun _ q₂ hg₂ hq₂ => ?_
  rw [← hg₂]
  have hsettles : p.Settles q₂ := by
    refine hq₁.trans ?_
    unfold Project.Settles
    rw [hq₂]
  have hcheck₂ : q₂.HasCheck := by
    unfold Project.HasCheck
    rw [hg₂, hg₁, show q₂.hasPlugin = p.hasPlugin from by rw [hsettles]; rfl]
    exact hcheck
  rw [← hsettles.course_eq]
  cases plugin with
  | analysis => exact (planProject_follows hcheck₂).mono fun _ s hs => hsettles.trans hs
  | variantAnalysis serial =>
      exact (planVariants_follows q₂).mono fun _ s hs => hsettles.trans hs
  | addon id key =>
      refine Follows.get_bind ?_
      change Follows _ _ (q₂.addonCourse (.addon id key)) _ _
      unfold Project.addonCourse
      cases (q₂.addonOf (.addon id key)).refusal with
      | none => exact (Follows.pure () q₂).mono fun _ s hs => hs.2 ▸ hsettles
      | some reason => exact Follows.throw _ q₂

/-- Finalizing plugins makes their courses, in the order of the plugins. -/
theorem finalizeEach_follows (plugins : List Plugin) (hcheck : p.HasCheck) :
    Follows Project.graph p.graph (plugins.flatMap p.course) (fun _ q => p.Settles q)
      (finalizeEach plugins p) := by
  induction plugins generalizing p with
  | nil => exact (Follows.pure () p).mono fun _ q hq => hq.2 ▸ .refl p
  | cons plugin plugins ih =>
      rw [finalizeEach, List.flatMap_cons]
      refine (finalizeOne_follows plugin hcheck).bind fun _ q hf hq => ?_
      rw [← hq.course_eq]
      exact (ih (hcheck.of_course hq hf)).mono fun _ s hs => hq.trans hs

/-- Evaluating a project that was not evaluated yet makes the courses of its
plugins. -/
theorem evaluate_follows (hfresh : p.evaluated = false) (hcheck : p.HasCheck) :
    Follows Project.graph p.graph (p.applied.flatMap p.course)
      (fun _ q => Project.Settles { p with evaluated := true } q) (evaluate p) := by
  unfold evaluate
  refine Follows.get_bind ?_
  rw [hfresh]
  change Follows _ _ _ _ ((do
    finalizeEach p.applied
    let q ← get
    report (.projectEvaluated p.name q.graph.size) : Configuring Unit)
      { p with evaluated := true })
  have hfinalize := finalizeEach_follows (p := { p with evaluated := true }) p.applied hcheck
  refine hfinalize.bind_quiet fun _ q _ hq => Follows.get_bind ?_
  exact settling_follows hq (Registration.report_follows _ q.registry)

end Configuring

end AnalysisPlan
