import AnalysisPlan.CommandLine.Report
import AnalysisPlan.Proofs.IgnoredNames
import AnalysisPlan.Proofs.PlannedTasks
import AnalysisPlan.Proofs.Resolving
import Mathlib.Data.List.Flatten
import Mathlib.Data.List.Perm.Subperm

/-!
# Ignoring more leaves less of the same

Rules that ignore more keep fewer of the variants, in the same order. The pass over
them takes other steps then: another variant may be the first under an umbrella, and
an umbrella may not be needed at all. What is left is a part of the larger graph
nevertheless (`TaskGraph.Thins`): the same tasks with what is left of their
dependencies. It fits wherever the larger one did, since its names are fewer.
-/

namespace AnalysisPlan

/-- What the first rules name is named by the second ones, too. -/
structure IgnoreRules.Within (a b : IgnoreRules) : Prop where
  variants : ∀ name ∈ a.variants, name ∈ b.variants
  buildTypes : ∀ name ∈ a.buildTypes, name ∈ b.buildTypes
  flavors : ∀ name ∈ a.flavors, name ∈ b.flavors

/-- A part of a graph: its tasks are tasks of the graph as they are there and
depend on what is left of their dependencies, and the analyses keep their order. -/
structure TaskGraph.Thins (after before : TaskGraph) : Prop where
  kept : ∀ t ∈ after.tasks, after.get? t.name = some t ∧ before.get? t.name = some t
  dependencies : ∀ t ∈ after.tasks,
    after.dependencies? t.name = (before.dependencies? t.name).map (·.filter after.has)
  order : (after.tasks.filter (·.kind == .analysis)).Sublist
    (before.tasks.filter (·.kind == .analysis))

/-! ## What survives more rules -/

section

variable {a b : IgnoreRules} (h : a.Within b)

include h

theorem IgnoreRules.Within.ignores {v : Variant} (hv : a.ignores v = true) :
    b.ignores v = true := by
  rw [IgnoreRules.ignores_iff] at hv ⊢
  exact hv.imp (h.variants _) (Or.imp (h.buildTypes _) (h.flavors _))

theorem IgnoreRules.Within.keeps {v : Variant} (hv : (!b.ignores v) = true) :
    (!a.ignores v) = true := by
  rw [Bool.not_eq_true'] at hv ⊢
  by_contra hne
  rw [h.ignores (by simpa using hne)] at hv
  cases hv

theorem VariantSource.survivors_sublist (s : VariantSource) :
    (s.survivors b).Sublist (s.survivors a) := by
  have hone : ∀ v : PrimaryVariant,
      (enlistments b s.boot v).Sublist (enlistments a s.boot v) := by
    intro v
    exact ((List.monotone_filter_right _ fun _ => h.keeps).map _).cons_cons _
  have hkept : (b.kept s.listed).Sublist (a.kept s.listed) :=
    List.monotone_filter_right _ fun _ => h.keeps
  exact (hkept.flatMap _).trans (List.Sublist.flatMap_right _ fun v _ => hone v)

end

namespace Enlistment

variable {es es' : List Enlistment}

theorem roll_subperm (h : es'.Sublist es) : (roll [] es').Subperm (roll [] es) := by
  -- no sublist: an umbrella stands behind its first task, which may be another one
  have hfounded : ((founded [] es').map Umbrella.name).Subperm
      ((founded [] es).map Umbrella.name) := by
    apply List.subperm_of_subset
    · exact (nodup_founded [] es').map fun _ _ => Umbrella.name_injective
    · apply List.map_subset
      intro u hu
      rw [mem_founded] at hu ⊢
      exact ⟨(h.map _).subset hu.1, hu.2⟩
  have hsplit := (h.map taskName).subperm.append hfounded
  exact (roll_perm [] es').subperm.trans (hsplit.trans (roll_perm [] es).symm.subperm)

theorem filter_analysis_tasks (r : Registrar) (before es : List Enlistment) :
    (tasks r before es).filter (·.kind == .analysis) = es.map (task r) := by
  have humbrella : ∀ us : List Umbrella,
      (us.map Umbrella.task).filter (·.kind == .analysis) = [] := by
    intro us
    simp
  induction es generalizing before with
  | nil => rfl
  | cons e es ih =>
      rw [tasks, List.filter_cons_of_pos (by simp), List.filter_append, humbrella, ih]
      rfl

end Enlistment

namespace Project

def commonTasks (p : Project) : List Task :=
  (if p.hasPlugin Plugin.lifecycleBase then [checkTask] else []) ++ p.ownTasks

variable {p q : Project}

theorem filter_analysis_plannedNodes (p : Project) :
    (p.plannedNodes.map (·.task)).filter (·.kind == .analysis) =
      p.enlistments.map (Enlistment.task p.registrar) ++
        p.ownTasks.filter (·.kind == .analysis) := by
  have hcheck : (p.checkNodes.map (·.task)).filter (·.kind == .analysis) = [] := by
    unfold checkNodes
    split <;> rfl
  have hvariants : (p.variantNodes.map (·.task)) =
      Enlistment.tasks p.registrar [] p.enlistments := by
    simp [variantNodes, Function.comp_def]
  have hown : (p.ownTasks.map fun t => (⟨t, ∅⟩ : TaskNode)).map (·.task) = p.ownTasks := by
    simp [Function.comp_def]
  rw [plannedNodes, List.map_append, List.map_append, List.filter_append, List.filter_append,
    hcheck, hvariants, hown, Enlistment.filter_analysis_tasks, List.nil_append]

/-- What does not depend on the names to ignore is the same for projects that
differ only in these. -/
theorem eq_of_spare_eq {β : Type} (f : Project → β) (hf : ∀ p, f p.spare = f p)
    (hsame : q.spare = p.spare) : f q = f p := by
  rw [← hf q, hsame, hf p]

variable (hsame : q.spare = p.spare)
  (hwithin : p.options.ignoreRules.Within q.options.ignoreRules)

include hsame

theorem hasPlugin_eq_of_spare : q.hasPlugin = p.hasPlugin :=
  eq_of_spare_eq Project.hasPlugin (fun _ => rfl) hsame

theorem ownTasks_eq_of_spare : q.ownTasks = p.ownTasks :=
  eq_of_spare_eq Project.ownTasks (fun _ => rfl) hsame

theorem checkNodes_eq_of_spare : q.checkNodes = p.checkNodes :=
  eq_of_spare_eq Project.checkNodes (fun _ => rfl) hsame

theorem task_eq_of_spare : Enlistment.task q.registrar = Enlistment.task p.registrar :=
  eq_of_spare_eq (fun p => Enlistment.task p.registrar) (fun _ => rfl) hsame

include hwithin

theorem enlistments_sublist : q.enlistments.Sublist p.enlistments := by
  have hsource : q.variantSource = p.variantSource :=
    eq_of_spare_eq Project.variantSource (fun _ => rfl) hsame
  unfold enlistments
  rw [hasPlugin_eq_of_spare hsame, hsource]
  split
  · exact .refl _
  · split
    · exact VariantSource.survivors_sublist hwithin _
    · exact .refl _

theorem plannedNames_subperm : q.plannedNames.Subperm p.plannedNames := by
  have hsets : q.sourceSets = p.sourceSets :=
    eq_of_spare_eq Project.sourceSets (fun _ => rfl) hsame
  have hroll := Enlistment.roll_subperm (enlistments_sublist hsame hwithin)
  unfold plannedNames
  rw [hasPlugin_eq_of_spare hsame, hsets]
  exact (((List.Subperm.refl _).append hroll).append (.refl _)).append (.refl _)

theorem VariantsFit.of_within (h : p.VariantsFit) : q.VariantsFit := by
  have hsub := enlistments_sublist hsame hwithin
  have handroid : q.android = p.android :=
    eq_of_spare_eq Project.android (fun _ => rfl) hsame
  refine ⟨?_, fun e he => h.named e (hsub.subset he), h.distinct.sublist (hsub.map _)⟩
  rw [handroid]
  exact h.combined

variable (hnodup : p.plannedNames.Nodup)

include hnodup

/-- What is gathered of fewer variants is what is left of the names. -/
theorem mem_gathered_iff_of_within {k name : String} :
    k ∈ Enlistment.gathered q.enlistments name ↔
      k ∈ Enlistment.gathered p.enlistments name ∧ k ∈ q.plannedNames := by
  have hsub := enlistments_sublist hsame hwithin
  rw [Enlistment.mem_gathered, Enlistment.mem_gathered, ← names_plannedNodes]
  constructor
  · rintro ⟨e, he, hu, rfl⟩
    have hnode := mem_variantNodes.2 (.inl ⟨e, he, rfl⟩)
    exact ⟨⟨e, hsub.subset he, hu, rfl⟩,
      List.mem_map_of_mem (mem_plannedNodes.2 (.inr (.inl hnode)))⟩
  · rintro ⟨⟨e, he, hu, rfl⟩, hk⟩
    have hnode := mem_variantNodes.2 (.inl ⟨e, he, rfl⟩)
    have hroll : (Enlistment.roll [] p.enlistments).Nodup := by
      unfold plannedNames at hnodup
      exact hnodup.of_append_left.of_append_left.of_append_right
    obtain ⟨htasks, -, hdiff⟩ :=
      List.nodup_append.1 ((Enlistment.roll_perm [] p.enlistments).nodup_iff.1 hroll)
    obtain ⟨n, hn, hname⟩ := List.mem_map.1 hk
    -- of the tasks that are left, only that of the variant itself has its name
    rcases mem_plannedNodes.1 hn with hn | hn | ⟨t, ht, rfl⟩
    · rw [(mem_checkNodes.1 hn).2] at hname
      exact absurd hname.symm (ne_check_of_mem_variantNodes hnode)
    · rcases mem_variantNodes.1 hn with ⟨e', he', rfl⟩ | ⟨u, ⟨e', he', rfl⟩, rfl⟩
      · obtain rfl := List.inj_on_of_nodup_map htasks he (hsub.subset he') hname.symm
        exact ⟨e, he', hu, rfl⟩
      · refine absurd hname.symm (hdiff _ (List.mem_map_of_mem he) _ ?_)
        apply List.mem_map_of_mem
        rw [Enlistment.mem_founded]
        exact ⟨List.mem_map_of_mem (hsub.subset he'), by simp⟩
    · rw [ownTasks_eq_of_spare hsame] at ht
      exact absurd hname.symm (ne_of_mem_variantNodes hnodup hnode ht)

/-- A node of the smaller plan is in the larger one, perhaps with more
dependencies. -/
theorem exists_counterpart {n : TaskNode} (hn : n ∈ q.plannedNodes) :
    ∃ m ∈ p.plannedNodes, m.task = n.task ∧
      ∀ k, k ∈ n.needs ↔ k ∈ m.needs ∧ k ∈ q.plannedNames := by
  have hsub := enlistments_sublist hsame hwithin
  have hgathered : ∀ k name, k ∈ Enlistment.gathered q.enlistments name ↔
      k ∈ Enlistment.gathered p.enlistments name ∧ k ∈ q.plannedNames := fun _ _ =>
    mem_gathered_iff_of_within hsame hwithin hnodup
  rcases mem_plannedNodes.1 hn with hn | hn | ⟨t, ht, rfl⟩
  · refine ⟨n, mem_plannedNodes.2 (.inl (checkNodes_eq_of_spare hsame ▸ hn)), rfl, fun k => ?_⟩
    rw [(mem_checkNodes.1 hn).2, iff_self_and]
    intro hk
    obtain rfl : k = Task.analysisName := by simpa using hk
    unfold plannedNames
    simp [Task.analysisName]
  · have hmem : ∀ m, m ∈ p.variantNodes → m ∈ p.plannedNodes := fun m hm =>
      mem_plannedNodes.2 (.inr (.inl hm))
    rcases mem_variantNodes.1 hn with ⟨e, he, rfl⟩ | ⟨u, ⟨e, he, hu⟩, rfl⟩
    · refine ⟨_, hmem _ (mem_variantNodes.2 (.inl ⟨e, hsub.subset he, rfl⟩)), ?_, fun k =>
        hgathered k _⟩
      rw [task_eq_of_spare hsame]
    · exact ⟨_, hmem _ (mem_variantNodes.2 (.inr ⟨u, ⟨e, hsub.subset he, hu⟩, rfl⟩)), rfl,
        fun k => hgathered k _⟩
  · rw [ownTasks_eq_of_spare hsame] at ht
    refine ⟨⟨t, ∅⟩, mem_plannedNodes.2 (.inr (.inr ⟨t, ht, rfl⟩)), rfl, fun k => ?_⟩
    simp

/-- The graph of the smaller plan is a part of that of the larger one. -/
theorem thins_of_nodes {after before : TaskGraph} (hafter : after.nodes = q.plannedNodes)
    (hbefore : before.nodes = p.plannedNodes) : after.Thins before := by
  have hnames : ∀ {g : TaskGraph} {p : Project}, g.nodes = p.plannedNodes →
      g.names = p.plannedNames := by
    intro g p hg
    rw [TaskGraph.names_eq_nodes, hg, names_plannedNodes]
  have hbefore_nodup : before.names.Nodup := hnames hbefore ▸ hnodup
  have hafter_nodup : after.names.Nodup := by
    obtain ⟨l, hperm, hl⟩ := plannedNames_subperm hsame hwithin
    rw [hnames hafter, ← hperm.nodup_iff]
    exact hnodup.sublist hl
  have hcounterpart : ∀ t ∈ after.tasks, ∃ n m : TaskNode,
      after.node? t.name = some n ∧ before.node? t.name = some m ∧ n.task = t ∧ m.task = t ∧
        ∀ k, k ∈ n.needs ↔ k ∈ m.needs ∧ k ∈ after.names := by
    intro t ht
    obtain ⟨n, hn, rfl⟩ := List.mem_map.1 ht
    obtain ⟨m, hm, htask, hneeds⟩ :=
      exists_counterpart hsame hwithin hnodup (hafter ▸ hn)
    have hfound := TaskGraph.node?_of_mem hbefore_nodup (hbefore ▸ hm)
    rw [htask] at hfound
    exact ⟨n, m, TaskGraph.node?_of_mem hafter_nodup hn, hfound, rfl, htask,
      hnames hafter ▸ hneeds⟩
  constructor
  · intro t ht
    obtain ⟨n, m, hn, hm, hnt, hmt, -⟩ := hcounterpart t ht
    rw [TaskGraph.get?, TaskGraph.get?, hn, hm, Option.map_some, Option.map_some, hnt, hmt]
    exact ⟨rfl, rfl⟩
  · intro t ht
    obtain ⟨n, m, hn, hm, -, -, hneeds⟩ := hcounterpart t ht
    simp only [TaskGraph.dependencies?, TaskGraph.needs?, hn, hm, Option.map_some,
      Option.some.injEq]
    apply NameSet.eq_of_mem_iff n.needs.increasing (m.needs.increasing.filter _)
    intro k
    rw [List.mem_filter, TaskGraph.has_iff]
    exact hneeds k
  · rw [TaskGraph.tasks, TaskGraph.tasks, hafter, hbefore, filter_analysis_plannedNodes,
      filter_analysis_plannedNodes, ownTasks_eq_of_spare hsame, task_eq_of_spare hsame]
    exact ((enlistments_sublist hsame hwithin).map _).append (.refl _)

end Project

namespace Configuring

variable {p q before after : Project}

theorem get?_of_mem_commonTasks (h : p.Configured [.variantAnalysis 0, .analysis])
    (hp : evaluate p = .ok () after) {t : Task} (ht : t ∈ p.commonTasks) :
    after.graph.get? t.name = some t := by
  obtain ⟨hnodes, hnodup⟩ := nodes_of_evaluate h hp
  have hnode : ∃ n ∈ p.plannedNodes, n.task = t := by
    unfold Project.commonTasks at ht
    rcases List.mem_append.1 ht with ht | ht
    · split at ht
      · next hbase =>
          obtain rfl := List.mem_singleton.1 ht
          exact ⟨_, Project.mem_plannedNodes.2 (.inl (Project.mem_checkNodes.2 ⟨hbase, rfl⟩)), rfl⟩
      · cases ht
    · exact ⟨_, Project.mem_plannedNodes.2 (.inr (.inr ⟨t, ht, rfl⟩)), rfl⟩
  obtain ⟨n, hn, rfl⟩ := hnode
  rw [TaskGraph.get?, TaskGraph.node?_of_mem hnodup (hnodes ▸ hn)]
  rfl

/-- If evaluating a project returns, it also returns when more is ignored, and
leaves a part of the same graph. -/
theorem exists_thinned (hp : p.Configured [.variantAnalysis 0, .analysis])
    (hq : q.Configured [.variantAnalysis 0, .analysis]) (hsame : q.spare = p.spare)
    (hwithin : p.options.ignoreRules.Within q.options.ignoreRules)
    (hbefore : evaluate p = .ok () before) :
    ∃ after, evaluate q = .ok () after ∧ after.graph.Thins before.graph := by
  obtain ⟨hfit, hsets, hnodup⟩ := (exists_evaluate_iff hp).1 ⟨before, hbefore⟩
  have hreturns : ∃ after, evaluate q = .ok () after := by
    rw [exists_evaluate_iff hq, Project.hasPlugin_eq_of_spare hsame,
      Project.eq_of_spare_eq Project.sourceSets (fun _ => rfl) hsame]
    refine ⟨fun hplugin => ?_, hsets, ?_⟩
    · exact Project.VariantsFit.of_within hsame hwithin (hfit hplugin)
    · obtain ⟨l, hperm, hl⟩ := Project.plannedNames_subperm hsame hwithin
      exact hperm.nodup_iff.1 (hnodup.sublist hl)
  obtain ⟨after, hafter⟩ := hreturns
  refine ⟨after, hafter, ?_⟩
  exact Project.thins_of_nodes hsame hwithin hnodup (nodes_of_evaluate hq hafter).1
    (nodes_of_evaluate hp hbefore).1

/-- Of two descriptions that differ only in the names to ignore, both load if the first
one does; they may be the same one. With what the command line adds to these names, let
the second one ignore no less. If evaluation then returns for the first one, it also
returns for the second one, and leaves a part of the same graph; the tasks that do not
come from variants are in both. -/
theorem evaluate_thins (tree : FileTree) (current : Location) (base : Path)
    (fields fields' : Description.Fields) (h : Description.Varies fields fields')
    (loaded : Project)
    (hload : (Description.loadFields tree current base fields).outcome = .ok loaded)
    (given given' : CommandLine.IgnoredNames) :
    ∃ loaded', (Description.loadFields tree current base fields').outcome = .ok loaded' ∧
      let p := CommandLine.ignoring given loaded
      let q := CommandLine.ignoring given' loaded'
      p.options.ignoreRules.Within q.options.ignoreRules →
        ∀ before, evaluate p = .ok () before →
          ∃ after, evaluate q = .ok () after ∧ after.graph.Thins before.graph ∧
            ∀ t ∈ p.commonTasks,
              before.graph.get? t.name = some t ∧ after.graph.get? t.name = some t := by
  obtain ⟨loaded', hload', hspare⟩ := Description.exists_load_of_varies h hload
  refine ⟨loaded', hload', ?_⟩
  intro p q hwithin before hbefore
  have hp : p.Configured [.variantAnalysis 0, .analysis] :=
    (Description.Loaded.fields _ _ _ _ hload).configured_with _
  have hq : q.Configured [.variantAnalysis 0, .analysis] :=
    (Description.Loaded.fields _ _ _ _ hload').configured_with _
  have hsame : q.spare = p.spare := hspare
  obtain ⟨after, hafter, hthins⟩ := exists_thinned hp hq hsame hwithin hbefore
  refine ⟨after, hafter, hthins, fun t ht => ?_⟩
  have hcommon : q.commonTasks = p.commonTasks :=
    Project.eq_of_spare_eq Project.commonTasks (fun _ => rfl) hsame
  exact ⟨get?_of_mem_commonTasks hp hbefore ht,
    get?_of_mem_commonTasks hq hafter (hcommon ▸ ht)⟩

theorem evaluate_thins_without_release :
    let plugins : String × Json.Value := ("plugins", .list [.str "com.android.library",
      .str "kotlin-android", .str "lifecycle-base"])
    let ignored : String × Json.Value :=
      ("detekt", .object [("ignoredBuildTypes", .list [.str "release"])])
    ∃ p q before after,
      (Description.loadFields {} [] (.ofLocation []) [plugins]).outcome = .ok p ∧
      (Description.loadFields {} [] (.ofLocation []) [plugins, ignored]).outcome = .ok q ∧
      evaluate p = .ok () before ∧
      evaluate (CommandLine.ignoring { flavors := ["free"] } q) = .ok () after ∧
      after.graph.Thins before.graph ∧ after.graph.get? "check" = some Project.checkTask := by
  intro plugins ignored
  have hvaries : Description.Varies [plugins] [plugins, ignored] := by
    refine ⟨fun key hkey => ?_, [], _, rfl, rfl, rfl, ?_⟩
    · have hne : (key == "detekt") = false := by simpa using hkey
      simp [plugins, ignored, List.lookup_cons, hne]
    · intro field hfield _
      obtain rfl := List.mem_singleton.1 hfield
      exact ⟨["release"], rfl⟩
  have hrun : (Description.loadFields {} [] (.ofLocation []) [plugins]).evaluates
      (fun p _ => p.options.ignoreRules == {} && p.hasPlugin Plugin.lifecycleBase) = true := by
    decide +kernel
  obtain ⟨p, before, hload, hbefore, htest⟩ := Description.Loading.exists_of_evaluates hrun
  simp only [Bool.and_eq_true, beq_iff_eq] at htest
  obtain ⟨hrules, hbase⟩ := htest
  obtain ⟨q, hq, hthins⟩ := evaluate_thins _ _ _ _ _ hvaries p hload {} { flavors := ["free"] }
  rw [CommandLine.ignoring_nothing] at hthins
  obtain ⟨after, hafter, hpart, hcommon⟩ :=
    hthins (hrules ▸ ⟨by simp, by simp, by simp⟩) before hbefore
  refine ⟨p, q, before, after, hload, hq, hbefore, hafter, hpart,
    (hcommon Project.checkTask ?_).2⟩
  unfold Project.commonTasks
  simp [hbase]

end Configuring

end AnalysisPlan
