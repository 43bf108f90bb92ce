import AnalysisPlan.Proofs.PlannedTasks

/-!
# Where reports go

Reports are named after the analysed unit, in the directory of reports, while only
the names of tasks are kept apart. The three destinations of a task are the joined
text of directory and unit with three extensions, so two tasks share one exactly if
these texts are the same (`ReportPaths.shares_forUnit_iff`). Units whose names are no
absolute paths keep apart, as their tasks do. The plain analysis reports as a unit
named `detekt`, which a source set or a variant may be named, too.
-/

namespace AnalysisPlan

/-- A name that is put behind a directory when both are joined. -/
def IsRelative (name : String) : Prop := name.toList.head? ≠ some '/'

theorem joinPath_append {ext : String} (hext : IsRelative ext) (dir name : String) :
    joinPath dir (name ++ ext) = joinPath dir name ++ ext := by
  have hhead : (name ++ ext).toList.head? = some '/' ↔ name.toList.head? = some '/' := by
    unfold IsRelative at hext
    rw [String.toList_append, List.head?_append]
    cases name.toList.head? with
    | none => simpa using hext
    | some c => simp
  unfold joinPath
  simp only [hhead]
  split
  · rfl
  · split
    · exact String.append_assoc.symm
    · exact String.append_assoc.symm

theorem joinPath_right_injective {a b : String} (dir : String) (ha : IsRelative a)
    (hb : IsRelative b) (h : joinPath dir a = joinPath dir b) : a = b := by
  unfold joinPath at h
  rw [if_neg ha, if_neg hb] at h
  split at h
  · exact (String.append_right_inj dir).1 h
  · exact (String.append_right_inj _).1 h

namespace ReportPaths

def all (r : ReportPaths) : List String := [r.xml, r.html, r.txt]

def Shares (r r' : ReportPaths) : Prop := ∃ path ∈ r.all, path ∈ r'.all

def extensions : List String := [".xml", ".html", ".txt"]

theorem isRelative_of_mem_extensions {ext : String} (h : ext ∈ extensions) : IsRelative ext := by
  simp only [extensions, List.mem_cons, List.not_mem_nil, or_false] at h
  rcases h with rfl | rfl | rfl <;> simp [IsRelative]

theorem mem_all_forUnit {dir unit path : String} :
    path ∈ (forUnit dir unit).all ↔ ∃ ext ∈ extensions, path = joinPath dir unit ++ ext := by
  have hall : (forUnit dir unit).all = extensions.map (joinPath dir unit ++ ·) := by
    have hjoin : ∀ ext ∈ extensions, joinPath dir (unit ++ ext) = joinPath dir unit ++ ext :=
      fun ext hext => joinPath_append (isRelative_of_mem_extensions hext) dir unit
    exact List.map_congr_left hjoin
  rw [hall, List.mem_map]
  simp only [eq_comm]

/-- A text ends in one of the extensions only. -/
theorem append_extension_inj {a b ext ext' : String} (hext : ext ∈ extensions)
    (hext' : ext' ∈ extensions) (h : a ++ ext = b ++ ext') : a = b := by
  suffices hsame : ext = ext' by
    subst hsame
    exact (String.append_left_inj ext).1 h
  have hlist : (ext.toList.reverse ++ a.toList.reverse).take 3 =
      (ext'.toList.reverse ++ b.toList.reverse).take 3 := by
    rw [← List.reverse_append, ← List.reverse_append, ← String.toList_append,
      ← String.toList_append, h]
  simp only [extensions, List.mem_cons, List.not_mem_nil, or_false] at hext hext'
  rcases hext with rfl | rfl | rfl <;> rcases hext' with rfl | rfl | rfl <;> simp at hlist ⊢

theorem shares_forUnit_iff {dir dir' unit unit' : String} :
    (forUnit dir unit).Shares (forUnit dir' unit') ↔ joinPath dir unit = joinPath dir' unit' := by
  unfold Shares
  simp only [mem_all_forUnit]
  constructor
  · rintro ⟨path, ⟨ext, hext, rfl⟩, ext', hext', h⟩
    exact append_extension_inj hext hext' h
  · intro h
    exact ⟨_, ⟨".xml", List.mem_cons_self, rfl⟩, ".xml", List.mem_cons_self, by rw [h]⟩

end ReportPaths

def Task.SharesReports (t t' : Task) : Prop :=
  ∃ r r', t.reports = some r ∧ t'.reports = some r' ∧ r.Shares r'

theorem Task.sharesReports_iff {t t' : Task} {dir dir' unit unit' : String}
    (ht : t.reports = some (.forUnit dir unit)) (ht' : t'.reports = some (.forUnit dir' unit')) :
    t.SharesReports t' ↔ joinPath dir unit = joinPath dir' unit' := by
  unfold SharesReports
  rw [ht, ht']
  simp [ReportPaths.shares_forUnit_iff]

theorem TaskGraph.eq_of_mem_tasks {g : TaskGraph} (h : g.names.Nodup) {t t' : Task}
    (ht : t ∈ g.tasks) (ht' : t' ∈ g.tasks) (hname : t.name = t'.name) : t = t' := by
  obtain ⟨n, hn, rfl⟩ := List.mem_map.1 ht
  obtain ⟨m, hm, rfl⟩ := List.mem_map.1 ht'
  rw [eq_of_name_eq h hn hm hname]

namespace Project

variable {p : Project} {g : TaskGraph}

def units (p : Project) : List AnalysisUnit :=
  p.enlistments.map (fun e => Pass.unitOf e.variant e.boot) ++
    if p.hasPlugin Plugin.kotlinJvm then p.sourceSets.map (·.unit) else []

def plainReportsDir (p : Project) : String :=
  match p.options.customReportsDir with
  | none => p.options.reportsDir
  | some dir => if dir = "" then p.options.reportsDir else dir

theorem mem_units {u : AnalysisUnit} :
    u ∈ p.units ↔ (∃ e ∈ p.enlistments, u = Pass.unitOf e.variant e.boot) ∨
      p.hasPlugin Plugin.kotlinJvm = true ∧ ∃ s ∈ p.sourceSets, u = s.unit := by
  unfold units
  split
  · next h => simp [h, eq_comm]
  · next h => simp [h, eq_comm]

theorem analysisTask_ne_taskFor (p : Project) (u : AnalysisUnit) :
    p.analysisTask ≠ p.registrar.taskFor u := by
  intro h
  have hdescription : "Analyze your source code with detekt." =
      "EXPERIMENTAL & SLOW: Run detekt analysis for " ++ u.name ++
        " classes with type resolution" := congrArg Task.description h
  have hhead := congrArg (fun s => s.toList.head?) hdescription
  simp only [String.toList_append, List.head?_append] at hhead
  cases hhead

theorem mem_ownTasks {t : Task} :
    t ∈ p.ownTasks ↔ t = p.analysisTask ∨ t = p.baselineTask ∨ t = generateConfigTask ∨
      p.hasPlugin Plugin.kotlinJvm = true ∧
        ∃ s ∈ p.sourceSets, t = p.registrar.taskFor s.unit := by
  unfold ownTasks sourceSetTasks
  split
  · next h => simp [h, eq_comm]
  · next h => simp [h]

/-- The tasks that report are the plain analysis and those of the units. -/
theorem reports_iff (hnodes : g.nodes = p.plannedNodes) {t : Task} :
    t ∈ g.tasks ∧ t.reports ≠ none ↔
      t = p.analysisTask ∨ ∃ u ∈ p.units, t = p.registrar.taskFor u := by
  have hmem : t ∈ g.tasks ↔ ∃ n ∈ p.plannedNodes, n.task = t := by
    rw [TaskGraph.tasks, hnodes, List.mem_map]
  have hown : t ∈ p.ownTasks → ∃ n ∈ p.plannedNodes, n.task = t := fun ht =>
    ⟨⟨t, ∅⟩, mem_plannedNodes.2 (.inr (.inr ⟨t, ht, rfl⟩)), rfl⟩
  rw [hmem]
  constructor
  · rintro ⟨⟨n, hn, rfl⟩, hreports⟩
    rcases mem_plannedNodes.1 hn with hn | hn | ⟨t, ht, rfl⟩
    · rw [(mem_checkNodes.1 hn).2] at hreports
      exact absurd rfl hreports
    · rcases mem_variantNodes.1 hn with ⟨e, he, rfl⟩ | ⟨u, -, rfl⟩
      · exact .inr ⟨_, mem_units.2 (.inl ⟨e, he, rfl⟩), rfl⟩
      · exact absurd rfl hreports
    · rcases mem_ownTasks.1 ht with rfl | rfl | rfl | ⟨hjvm, s, hs, rfl⟩
      · exact .inl rfl
      · exact absurd rfl hreports
      · exact absurd rfl hreports
      · exact .inr ⟨_, mem_units.2 (.inr ⟨hjvm, s, hs, rfl⟩), rfl⟩
  · rintro (rfl | ⟨u, hu, rfl⟩)
    · exact ⟨hown (mem_ownTasks.2 (.inl rfl)), by simp [analysisTask]⟩
    · refine ⟨?_, by simp [Registrar.taskFor]⟩
      rcases mem_units.1 hu with ⟨e, he, rfl⟩ | ⟨hjvm, s, hs, rfl⟩
      · have hnode := mem_variantNodes.2 (.inl ⟨e, he, rfl⟩)
        exact ⟨_, mem_plannedNodes.2 (.inr (.inl hnode)), rfl⟩
      · exact hown (mem_ownTasks.2 (.inr (.inr (.inr ⟨hjvm, s, hs, rfl⟩))))

end Project

namespace Configuring

/-- The tasks that report after an evaluation that returned are the plain analysis
and those of the units. Two units share a destination exactly if their names, joined
to the directory of reports, are the same text, so never if neither name is an
absolute path. The plain analysis shares one with a unit exactly if this holds of
`detekt`, joined to the directory that it reports to; if that is the same directory
and the unit's name no absolute path, exactly if the unit is named `detekt`. -/
theorem evaluate_reports (loaded : Project) (h : Description.Loaded loaded)
    (options : AnalysisOptions) :
    let p : Project := { loaded with options }
    ∀ q, evaluate p = .ok () q →
      (∀ t, t ∈ q.graph.tasks ∧ t.reports ≠ none ↔
        t = p.analysisTask ∨ ∃ u ∈ p.units, t = p.registrar.taskFor u) ∧
      (∀ u ∈ p.units, ∀ v ∈ p.units, p.registrar.taskFor u ≠ p.registrar.taskFor v →
        ((p.registrar.taskFor u).SharesReports (p.registrar.taskFor v) ↔
          joinPath options.reportsDir u.name = joinPath options.reportsDir v.name) ∧
        (IsRelative u.name → IsRelative v.name →
          ¬ (p.registrar.taskFor u).SharesReports (p.registrar.taskFor v))) ∧
      ∀ u ∈ p.units, p.analysisTask ≠ p.registrar.taskFor u ∧
        (p.analysisTask.SharesReports (p.registrar.taskFor u) ↔
          joinPath p.plainReportsDir Task.analysisName =
            joinPath options.reportsDir u.name) ∧
        (p.plainReportsDir = options.reportsDir → IsRelative u.name →
          (p.analysisTask.SharesReports (p.registrar.taskFor u) ↔
            u.name = Task.analysisName)) := by
  intro p q hq
  have hconfigured := h.configured_with options
  obtain ⟨hnodes, hnodup⟩ := nodes_of_evaluate hconfigured hq
  refine ⟨fun t => Project.reports_iff hnodes, fun u hu v hv hne => ?_, fun u _ => ?_⟩
  · have hshares : (p.registrar.taskFor u).SharesReports (p.registrar.taskFor v) ↔
        joinPath options.reportsDir u.name = joinPath options.reportsDir v.name :=
      Task.sharesReports_iff rfl rfl
    refine ⟨hshares, fun hrelu hrelv hshare => ?_⟩
    have hname := joinPath_right_injective _ hrelu hrelv (hshares.1 hshare)
    apply hne
    have hmem : ∀ w ∈ p.units, p.registrar.taskFor w ∈ q.graph.tasks := fun w hw =>
      ((Project.reports_iff hnodes).2 (.inr ⟨w, hw, rfl⟩)).1
    apply TaskGraph.eq_of_mem_tasks hnodup (hmem u hu) (hmem v hv)
    rw [Registrar.taskFor_name, Registrar.taskFor_name, hname]
  · have hshares : p.analysisTask.SharesReports (p.registrar.taskFor u) ↔
        joinPath p.plainReportsDir Task.analysisName = joinPath options.reportsDir u.name :=
      Task.sharesReports_iff rfl rfl
    refine ⟨p.analysisTask_ne_taskFor u, hshares, fun hdir hrel => ?_⟩
    rw [hshares, hdir]
    constructor
    · intro hjoin
      exact (joinPath_right_injective _ (by simp [IsRelative, Task.analysisName]) hrel hjoin).symm
    · intro hname
      rw [hname]

theorem evaluate_reports_main_test :
    let set (name : String) : Json.Value := .object [("name", .str name), ("kotlin", .list [])]
    ∃ p q, (Description.loadFields {} [] (.ofLocation [])
        [("plugins", .list [.str Plugin.kotlinJvm]),
         ("sourceSets", .list [set "main", set "test"])]).outcome = .ok p ∧
      evaluate p = .ok () q ∧
      ∃ u ∈ p.units, ∃ v ∈ p.units, u.name = "main" ∧ v.name = "test" ∧
        ¬ (p.registrar.taskFor u).SharesReports (p.registrar.taskFor v) := by
  intro set
  have hrun : (Description.loadFields {} [] (.ofLocation [])
      [("plugins", .list [.str Plugin.kotlinJvm]),
       ("sourceSets", .list [set "main", set "test"])]).evaluates
        (fun p _ => p.units.map (·.name) == ["main", "test"]) = true := by decide +kernel
  obtain ⟨p, q, hload, hq, hunits⟩ := Description.Loading.exists_of_evaluates hrun
  rw [beq_iff_eq] at hunits
  obtain ⟨-, hapart, -⟩ := evaluate_reports p (.fields _ _ _ _ hload) p.options q hq
  have hunit : ∀ name ∈ ["main", "test"], ∃ u ∈ p.units, u.name = name := by
    intro name hname
    rw [← hunits] at hname
    exact List.mem_map.1 hname
  obtain ⟨u, hu, hmain⟩ := hunit "main" (by simp)
  obtain ⟨v, hv, htest⟩ := hunit "test" (by simp)
  have hne : p.registrar.taskFor u ≠ p.registrar.taskFor v := by
    intro heq
    have hname : Task.nameFor u.name = Task.nameFor v.name := congrArg Task.name heq
    rw [hmain, htest] at hname
    revert hname
    decide
  refine ⟨p, q, hload, hq, u, hu, v, hv, hmain, htest, (hapart u hu v hv hne).2 ?_ ?_⟩
  · rw [hmain]
    simp [IsRelative]
  · rw [htest]
    simp [IsRelative]

/-- A source set named `detekt` reports to where the plain analysis does. -/
theorem not_forall_reports_apart :
    ¬ ∀ p, Description.Loaded p → ∀ q, evaluate p = .ok () q →
      ∀ t ∈ q.graph.tasks, ∀ t' ∈ q.graph.tasks, t ≠ t' → ¬ t.SharesReports t' := by
  intro hall
  let loading : Description.Loading := Description.loadFields {} [] (.ofLocation [])
    [("plugins", .list [.str Plugin.kotlinJvm]),
     ("sourceSets", .list [.object [("name", .str "detekt"), ("kotlin", .list [])]])]
  let reports : ReportPaths := .forUnit "/build/reports/detekt" "detekt"
  have hrun : loading.evaluates (fun _ q => ["detekt", "detektDetekt"].all fun name =>
      q.graph.tasks.any fun t => t.name == name && t.reports == some reports) = true := by
    decide +kernel
  obtain ⟨p, q, hload, hq, htest⟩ := Description.Loading.exists_of_evaluates hrun
  simp only [List.all_cons, List.all_nil, Bool.and_true, Bool.and_eq_true, List.any_eq_true,
    beq_iff_eq] at htest
  obtain ⟨⟨t, ht, hname, hreports⟩, t', ht', hname', hreports'⟩ := htest
  have hne : t ≠ t' := by
    rintro rfl
    rw [hname] at hname'
    revert hname'
    decide
  exact hall p (.fields _ _ _ _ hload) q hq t ht t' ht' hne
    ((Task.sharesReports_iff hreports hreports').2 rfl)

end Configuring

end AnalysisPlan
