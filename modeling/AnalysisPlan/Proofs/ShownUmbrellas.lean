import AnalysisPlan.CommandLine.Run
import AnalysisPlan.Proofs.Destinations
import AnalysisPlan.Proofs.Layers

/-!
# The umbrellas that a plan shows

A plan looks for its umbrellas by name, and a unit named `main` or `test` leads to a
task of that name. So what a plan shows as an umbrella is a lifecycle task with what
it gathers, or the analysis of such a unit with nothing under it
(`CommandLine.run_plan_umbrellas`). If no unit has such a name, the umbrellas that are
shown are the lifecycle tasks of their names.
-/

namespace AnalysisPlan

open Console (Message Backend)

namespace CommandLine

/-- A plan shows an umbrella with names under it: as a field of the document, or by a
message. -/
def Shows (asDocument : Bool) (messages : List Message) (q : Project) (name : String)
    (names : List String) : Prop :=
  if asDocument then
    messages = [.raw (Json.write q.document)] ∧
      ∃ fields umbrellas, q.document = .object fields ∧
        fields.lookup "umbrellas" = some (.object umbrellas) ∧
        (name, textsDocument names) ∈ umbrellas
  else .umbrella name names ∈ messages

/-- The warning about an umbrella that is not there. -/
def notCreated (u : Umbrella) : Message :=
  .warning s!"{u.name}: not created (no surviving variants)"

/-- A message about a step of a command. -/
inductive IsStep : Message → Prop
  | step (current total : Int) (description : String) : IsStep (.step current total description)
  | detail (text : String) : IsStep (.stepDetail text)

/-! ## What a command prepares -/

/-- Messages of entries are about steps, and there are none if steps are not shown. -/
def Quiet (showSteps : Bool) (entries : List Entry) : Prop :=
  ∀ m ∈ entries.filterMap Entry.message?, showSteps = true ∧ IsStep m

theorem Quiet.append {showSteps : Bool} {xs ys : List Entry} (hx : Quiet showSteps xs)
    (hy : Quiet showSteps ys) : Quiet showSteps (xs ++ ys) := by
  intro m hm
  rw [List.filterMap_append, List.mem_append] at hm
  exact hm.elim (hx m) (hy m)

theorem quiet_notes (showSteps : Bool) (log : List LogEvent) :
    Quiet showSteps (log.map .note) := by
  intro m hm
  simp [Entry.message?] at hm

theorem quiet_announced (showSteps : Bool) {messages : List Message}
    (h : ∀ m ∈ messages, IsStep m) : Quiet showSteps (announced showSteps messages) := by
  intro m hm
  unfold announced at hm
  cases showSteps with
  | false => cases hm
  | true => exact ⟨rfl, h m (by simpa [Entry.message?] using hm)⟩

/-- What a preparation comes to: a project of the given kind, with nothing said but
steps, or an end other than by status 0. -/
structure Preparation.Yields (prepared : Preparation) (showSteps : Bool)
    (done : Project → Prop) : Prop where
  returned : ∀ q, prepared.outcome = .ok q → done q ∧ Quiet showSteps prepared.entries
  failed : ∀ ending, prepared.outcome = .error ending → ending ≠ .exit 0

theorem endingOf_ne_exit (failure : LoadFailure) : endingOf failure ≠ .exit 0 := by
  cases failure <;> simp [endingOf]

theorem Preparation.Yields.of_error {prepared : Preparation} {showSteps : Bool}
    {done : Project → Prop} {ending : Ending} (h : prepared.outcome = .error ending)
    (hending : ending ≠ .exit 0) : prepared.Yields showSteps done where
  returned := by
    intro q hq
    rw [h] at hq
    cases hq
  failed := by
    intro ending' hending'
    rw [h] at hending'
    cases hending'
    exact hending

theorem evaluated_yields (showSteps nameMissing : Bool) (p : Project) :
    (evaluated showSteps nameMissing p).Yields showSteps
      fun q => Configuring.evaluate p = .ok () q := by
  have hsteps : Quiet showSteps (announced showSteps
      [.stepDetail ("plugins: " ++ String.intercalate ", " p.pluginIds),
       .step 2 2 "Evaluating project"]) := by
    apply quiet_announced
    simp only [List.mem_cons, List.not_mem_nil, or_false]
    rintro m (rfl | rfl)
    · exact .detail _
    · exact .step _ _ _
  unfold evaluated
  split
  · exact .of_error rfl nofun
  · split
    · exact .of_error rfl nofun
    · exact .of_error rfl (endingOf_ne_exit _)
    · next q hattempt =>
        refine ⟨fun q' hq' => ?_, nofun⟩
        cases hq'
        refine ⟨(Configuring.attempt_eq_ok_iff.1 hattempt).1,
          (hsteps.append (quiet_notes _ _)).append ?_⟩
        apply quiet_announced
        simp only [List.mem_singleton]
        rintro m rfl
        exact .detail _

theorem prepare_yields (tree : FileTree) (current : Location) (target : Target)
    (showSteps : Bool) :
    (prepare tree current target showSteps).Yields showSteps fun q =>
      ∃ loaded, (Description.load tree current (Path.ofText target.file)).outcome = .ok loaded ∧
        Configuring.evaluate (ignoring target.ignored loaded) = .ok () q := by
  have hannounced : Quiet showSteps
      (announced showSteps [.step 1 2 s!"Configuring project from {target.file}"] ++
        (Description.load tree current (Path.ofText target.file)).log.map .note) := by
    refine Quiet.append (quiet_announced showSteps ?_) (quiet_notes _ _)
    simp only [List.mem_singleton]
    rintro m rfl
    exact .step _ _ _
  unfold prepare
  generalize Description.load tree current (Path.ofText target.file) = loading at hannounced ⊢
  cases hload : loading.outcome with
  | error failure =>
      simp only [hload]
      exact .of_error rfl (endingOf_ne_exit failure)
  | ok loaded =>
      simp only [hload]
      have hevaluated := evaluated_yields showSteps target.ignored.nameMissing
        (ignoring target.ignored loaded)
      refine ⟨fun q hq => ?_, hevaluated.failed⟩
      obtain ⟨hq, hquiet⟩ := hevaluated.returned q hq
      exact ⟨⟨loaded, rfl, hq⟩, hannounced.append hquiet⟩

/-! ## What a plan reports -/

theorem conclude_of_exit {prepared : Preparation} {say : Project → List Message × Ending}
    {showSteps : Bool} {done : Project → Prop} (h : prepared.Yields showSteps done)
    (hexit : (conclude prepared say).ending = .exit 0) :
    ∃ q steps, done q ∧ (∀ m ∈ steps, showSteps = true ∧ IsStep m) ∧
      (conclude prepared say).messages = steps ++ (say q).1 := by
  unfold conclude at hexit ⊢
  cases hq : prepared.outcome with
  | error ending =>
      rw [hq] at hexit
      exact absurd hexit (h.failed ending hq)
  | ok q =>
      obtain ⟨hdone, hquiet⟩ := h.returned q hq
      refine ⟨q, _, hdone, hquiet, ?_⟩
      simp [Report.messages, List.filterMap_map, Function.comp_def, Entry.message?]

theorem withLog_status (current : Location) (i : Invocation) (log : List LogEvent)
    (o : Output) : (withLog current i log o).status = o.status := by
  unfold withLog
  split
  · rfl
  · split <;> rfl

theorem withLog_out (current : Location) (i : Invocation) (log : List LogEvent)
    (o : Output) : (withLog current i log o).out = o.out := by
  unfold withLog
  split
  · rfl
  · split <;> rfl

/-- A run of a command that ends by status 0 has written all messages of a report
that ends so. -/
theorem run_of_exit {s : Surroundings} {args : List String} {i : Invocation}
    {command : Command} {out : Output} (hargs : invocation args = .ok i)
    (hcommand : i.command = some command) (hrun : run s args = .ok out)
    (hstatus : out.status = 0) :
    let report := command.report s.tree s.current
    report.ending = .exit 0 ∧ ∃ backend, Backend.ofName s.console = .ok backend ∧
      writeAll backend s.columns report.messages = .ok out.out := by
  unfold run at hrun
  rw [hargs] at hrun
  simp only at hrun
  cases hbackend : Backend.ofName s.console with
  | error u =>
      rw [hbackend] at hrun
      cases hrun
  | ok backend =>
      rw [hbackend] at hrun
      simp only [Invocation.run, hcommand] at hrun
      split at hrun
      · cases hrun
      · cases hrun
      · cases hrun
      · next text status hwritten hending =>
          cases hrun
          rw [withLog_status] at hstatus
          rw [withLog_out]
          exact ⟨hstatus ▸ hending, backend, rfl, hwritten⟩

theorem textsDocument_injective {xs ys : List String} (h : textsDocument xs = textsDocument ys) :
    xs = ys := by
  injection h with h
  exact List.map_injective_iff.2 (fun _ _ => Json.Value.str.inj) h

theorem umbrella_mem_planMessages_iff {q : Project} {name : String} {names : List String} :
    .umbrella name names ∈ planMessages q ↔
      ∃ u : Umbrella, u.name = name ∧ q.graph.dependencies? name = some names := by
  have hone : ∀ u : Umbrella, .umbrella name names = umbrellaMessage q.graph u ↔
      u.name = name ∧ q.graph.dependencies? name = some names := by
    intro u
    unfold umbrellaMessage
    cases hdeps : q.graph.dependencies? u.name with
    | none =>
        refine iff_of_false nofun ?_
        rintro ⟨rfl, h⟩
        rw [hdeps] at h
        cases h
    | some deps =>
        constructor
        · intro h
          cases h
          exact ⟨rfl, hdeps⟩
        · rintro ⟨rfl, h⟩
          rw [hdeps] at h
          cases h
          rfl
  unfold planMessages
  simp only [List.mem_cons, reduceCtorEq, List.not_mem_nil, or_false, false_or, hone]
  constructor
  · rintro (h | h)
    · exact ⟨.main, h⟩
    · exact ⟨.test, h⟩
  · rintro ⟨u, h⟩
    cases u with
    | main => exact .inl h
    | test => exact .inr h

theorem mem_umbrellas_iff {q : Project} {name : String} {names : List String} :
    (name, textsDocument names) ∈ q.graph.umbrellas.map (fun u => (u.1, textsDocument u.2)) ↔
      ∃ u : Umbrella, u.name = name ∧ q.graph.dependencies? name = some names := by
  have hall : ∀ u : Umbrella, u ∈ [Umbrella.main, .test] := by
    intro u
    cases u <;> decide
  constructor
  · intro h
    obtain ⟨⟨name', names'⟩, hmem, heq⟩ := List.mem_map.1 h
    obtain ⟨u, -, hu⟩ := List.mem_filterMap.1 hmem
    obtain ⟨deps, hdeps, hpair⟩ := Option.map_eq_some_iff.1 hu
    cases hpair
    injection heq with hname hnames
    cases textsDocument_injective hnames
    exact ⟨u, hname, hname ▸ hdeps⟩
  · rintro ⟨u, rfl, hdeps⟩
    refine List.mem_map.2 ⟨(u.name, names), List.mem_filterMap.2 ⟨u, hall u, ?_⟩, rfl⟩
    rw [hdeps]
    rfl

theorem shows_document_iff {q : Project} {name : String} {names : List String} :
    Shows true [.raw (Json.write q.document)] q name names ↔
      ∃ u : Umbrella, u.name = name ∧ q.graph.dependencies? name = some names := by
  rw [← mem_umbrellas_iff]
  constructor
  · rintro ⟨-, fields, umbrellas, hfields, hlookup, hmem⟩
    injection hfields with hfields
    rw [← hfields] at hlookup
    cases hlookup
    exact hmem
  · intro hmem
    exact ⟨rfl, _, _, rfl, rfl, hmem⟩

theorem notCreated_mem_planMessages_iff {q : Project} {u : Umbrella} :
    notCreated u ∈ planMessages q ↔ q.graph.dependencies? u.name = none := by
  have hone : ∀ v : Umbrella, notCreated u = umbrellaMessage q.graph v ↔
      u = v ∧ q.graph.dependencies? u.name = none := by
    intro v
    unfold umbrellaMessage notCreated
    cases hdeps : q.graph.dependencies? v.name with
    | some deps =>
        refine iff_of_false nofun ?_
        rintro ⟨rfl, h⟩
        rw [hdeps] at h
        cases h
    | none =>
        constructor
        · intro h
          injection h with h
          have hname : u.name = v.name := (String.append_left_inj _).1 h
          exact ⟨Umbrella.name_injective hname, hname ▸ hdeps⟩
        · rintro ⟨rfl, -⟩
          rfl
  unfold planMessages
  simp only [List.mem_cons, List.not_mem_nil, or_false, hone]
  constructor
  · rintro (h | ⟨-, h⟩ | ⟨-, h⟩ | h)
    · cases h
    · exact h
    · exact h
    · cases h
  · intro h
    cases u with
    | main => exact .inr (.inl ⟨rfl, h⟩)
    | test => exact .inr (.inr (.inl ⟨rfl, h⟩))

/-- Either way, a plan shows the umbrellas whose names are taken, with what the tasks
of these names depend on. -/
theorem exists_of_plan {tree : FileTree} {current : Location} {target : Target}
    {asDocument : Bool}
    (hexit : ((Command.plan target asDocument).report tree current).ending = .exit 0) :
    let messages := ((Command.plan target asDocument).report tree current).messages
    ∃ loaded q, (Description.load tree current (Path.ofText target.file)).outcome = .ok loaded ∧
      Configuring.evaluate (ignoring target.ignored loaded) = .ok () q ∧
      (∀ name names, Shows asDocument messages q name names ↔
        ∃ u : Umbrella, u.name = name ∧ q.graph.dependencies? name = some names) ∧
      (asDocument = false → ∀ u,
        notCreated u ∈ messages ↔ q.graph.dependencies? u.name = none) := by
  intro messages
  cases asDocument with
  | true =>
      obtain ⟨q, steps, ⟨loaded, hload, hq⟩, hsteps, hmessages⟩ :=
        conclude_of_exit (prepare_yields tree current target false) hexit
      have hnone : steps = [] := List.eq_nil_iff_forall_not_mem.2 fun m hm => by
        cases (hsteps m hm).1
      have hmessages : messages = [.raw (Json.write q.document)] := by
        rw [hnone] at hmessages
        exact hmessages
      refine ⟨loaded, q, hload, hq, fun name names => ?_, nofun⟩
      rw [hmessages]
      exact shows_document_iff
  | false =>
      obtain ⟨q, steps, ⟨loaded, hload, hq⟩, hsteps, hmessages⟩ :=
        conclude_of_exit (prepare_yields tree current target true) hexit
      have hmem : ∀ m, ¬ IsStep m → (m ∈ messages ↔ m ∈ planMessages q) := by
        intro m hm
        rw [show messages = steps ++ planMessages q from hmessages, List.mem_append]
        exact or_iff_right fun hstep => hm (hsteps m hstep).2
      refine ⟨loaded, q, hload, hq, fun name names => ?_, fun _ u => ?_⟩
      · exact (hmem (.umbrella name names) nofun).trans umbrella_mem_planMessages_iff
      · have hwarning : ¬ IsStep (notCreated u) := by
          intro h
          cases h
        exact (hmem _ hwarning).trans notCreated_mem_planMessages_iff

end CommandLine

theorem TaskGraph.dependencies?_eq_none_iff {g : TaskGraph} {name : String} :
    g.dependencies? name = none ↔ name ∉ g.names := by
  rw [dependencies?, needs?, Option.map_eq_none_iff, Option.map_eq_none_iff, node?,
    List.find?_eq_none, names_eq_nodes]
  simp

/-- A task that has the name of an umbrella is that umbrella, with something under it,
or that of a unit. -/
theorem Project.lifecycle_or_unit {p : Project} {n : TaskNode} {u : Umbrella}
    (hn : n ∈ p.plannedNodes) (hname : n.task.name = u.name) :
    n.task.kind = .lifecycle ∧ n.needs.names ≠ [] ∨
      ∃ unit ∈ p.units, n.task = p.registrar.taskFor unit := by
  have hne : ∀ name ∈ ["detekt", "detektBaseline", "detektGenerateConfig"], name ≠ u.name := by
    cases u <;> decide
  rcases mem_plannedNodes.1 hn with hcheck | hn' | ⟨t, ht, rfl⟩
  · rw [(mem_checkNodes.1 hcheck).2] at hname
    exact absurd hname.symm u.name_ne_check
  · rcases mem_variantNodes.1 hn' with ⟨e, he, rfl⟩ | ⟨v, -, rfl⟩
    · exact .inr ⟨_, mem_units.2 (.inl ⟨e, he, rfl⟩), rfl⟩
    · exact .inl ⟨rfl, needs_ne_nil_of_planned hn rfl⟩
  · rcases mem_ownTasks.1 ht with rfl | rfl | rfl | ⟨hjvm, s, hs, rfl⟩
    · exact absurd hname (hne "detekt" (by simp))
    · exact absurd hname (hne "detektBaseline" (by simp))
    · exact absurd hname (hne "detektGenerateConfig" (by simp))
    · exact .inr ⟨_, mem_units.2 (.inr ⟨hjvm, s, hs, rfl⟩), rfl⟩

namespace CommandLine

/-- A plan that ends by status 0 has written what it says about an evaluated project.
It shows those umbrellas whose names are taken, with what the tasks of these names
depend on, and says in words that the others were not created. A lifecycle task of
such a name is shown with something under it. What else is shown is the task of a unit
that has the name, with nothing under it. -/
theorem run_plan_umbrellas (s : Surroundings) (args : List String) (i : Invocation)
    (target : Target) (asDocument : Bool) (out : Output) (hargs : invocation args = .ok i)
    (hcommand : i.command = some (.plan target asDocument)) (hrun : run s args = .ok out)
    (hstatus : out.status = 0) :
    let messages := ((Command.plan target asDocument).report s.tree s.current).messages
    ∃ loaded q backend,
      (Description.load s.tree s.current (Path.ofText target.file)).outcome = .ok loaded ∧
      Configuring.evaluate (ignoring target.ignored loaded) = .ok () q ∧
      Backend.ofName s.console = .ok backend ∧
      writeAll backend s.columns messages = .ok out.out ∧
      (∀ name names, Shows asDocument messages q name names ↔
        ∃ u : Umbrella, u.name = name ∧ q.graph.dependencies? name = some names) ∧
      ∀ u : Umbrella,
        (asDocument = false → (notCreated u ∈ messages ↔ u.name ∉ q.graph.names)) ∧
        (∀ t, q.graph.get? u.name = some t → t.kind = .lifecycle →
          ∃ names, names ≠ [] ∧ Shows asDocument messages q u.name names) ∧
        ((∀ unit ∈ (ignoring target.ignored loaded).units,
            Task.nameFor unit.name ≠ u.name) →
          ∀ names, Shows asDocument messages q u.name names →
            names ≠ [] ∧ ∃ t, q.graph.get? u.name = some t ∧ t.kind = .lifecycle) ∧
        ∀ unit ∈ (ignoring target.ignored loaded).units, Task.nameFor unit.name = u.name →
          q.graph.get? u.name = some ((ignoring target.ignored loaded).registrar.taskFor unit) ∧
            Shows asDocument messages q u.name [] := by
  intro messages
  obtain ⟨hexit, backend, hbackend, hwritten⟩ := run_of_exit hargs hcommand hrun hstatus
  obtain ⟨loaded, q, hload, hq, hshows, hwarned⟩ := exists_of_plan hexit
  refine ⟨loaded, q, backend, hload, hq, hbackend, hwritten, hshows, fun u => ?_⟩
  have hconfigured : (ignoring target.ignored loaded).Configured
      [.variantAnalysis 0, .analysis] := (Description.Loaded.file _ _ _ hload).configured_with _
  obtain ⟨hnodes, hnodup⟩ := Configuring.nodes_of_evaluate hconfigured hq
  have hshown : ∀ names, Shows asDocument messages q u.name names ↔
      q.graph.dependencies? u.name = some names := by
    intro names
    rw [hshows]
    exact ⟨fun ⟨_, _, h⟩ => h, fun h => ⟨u, rfl, h⟩⟩
  refine ⟨fun hwords => ?_, fun t ht hkind => ?_, fun hfree names hnames => ?_,
    fun unit hu hname => ?_⟩
  · rw [← TaskGraph.dependencies?_eq_none_iff]
    exact hwarned hwords u
  · obtain ⟨n, hn, rfl⟩ := Option.map_eq_some_iff.1 ht
    obtain ⟨hmem, hname⟩ := TaskGraph.mem_of_node? hn
    refine ⟨n.needs.names, Project.needs_ne_nil_of_planned (hnodes ▸ hmem) hkind, ?_⟩
    rw [hshown, TaskGraph.dependencies?, TaskGraph.needs?, hn]
    rfl
  · rw [hshown] at hnames
    obtain ⟨needs, hneeds, rfl⟩ := Option.map_eq_some_iff.1 hnames
    obtain ⟨n, hn, rfl⟩ := Option.map_eq_some_iff.1 hneeds
    obtain ⟨hmem, hname⟩ := TaskGraph.mem_of_node? hn
    rcases Project.lifecycle_or_unit (hnodes ▸ hmem) hname with ⟨hkind, hne⟩ | ⟨unit, hu, htask⟩
    · refine ⟨hne, n.task, ?_, hkind⟩
      rw [TaskGraph.get?, hn]
      rfl
    · rw [htask] at hname
      exact absurd hname (hfree unit hu)
  · obtain ⟨ht, -⟩ := (Project.reports_iff hnodes).2 (.inr ⟨unit, hu, rfl⟩)
    obtain ⟨n, hn, htask⟩ := List.mem_map.1 ht
    have hfound := TaskGraph.node?_of_mem hnodup hn
    rw [htask, Registrar.taskFor_name, hname] at hfound
    have hkind : n.task.kind ≠ .lifecycle := by simp [htask]
    have hneeds := (Configuring.layered_of_evaluate hconfigured (.inl hq)).needs_of_kind hn hkind
    rw [hshown, TaskGraph.get?, TaskGraph.dependencies?, TaskGraph.needs?, hfound, Option.map_some,
      Option.map_some, Option.map_some, htask, hneeds]
    exact ⟨rfl, rfl⟩

/-- Surroundings in which there is nothing but a description. -/
def describedBy (text : String) : Surroundings where
  tree := { files := [(["p.json"], text.toList.map fun c => c.toNat.toUInt8)] }
  current := []
  console := "plain"
  columns := 80

/-- Whether a plan ends by status 0 for a project whose evaluation passes a test. -/
def endsWith (s : Surroundings) (test : Project → Bool) : Bool :=
  (run s ["plan", "p.json"]).toOption.any (·.status == 0) &&
    (Description.load s.tree s.current (Path.ofText "p.json")).evaluates fun _ q => test q

theorem exists_of_endsWith {s : Surroundings} {test : Project → Bool}
    (h : endsWith s test = true) :
    ∃ out loaded q, run s ["plan", "p.json"] = .ok out ∧ out.status = 0 ∧
      (Description.load s.tree s.current (Path.ofText "p.json")).outcome = .ok loaded ∧
      Configuring.evaluate (ignoring {} loaded) = .ok () q ∧ test q = true := by
  unfold endsWith at h
  rw [Bool.and_eq_true] at h
  obtain ⟨loaded, q, hload, hq, htest⟩ := Description.Loading.exists_of_evaluates h.2
  rw [← ignoring_nothing loaded] at hq
  cases hrun : run s ["plan", "p.json"] with
  | error b =>
      rw [hrun] at h
      cases h.1
  | ok out =>
      rw [hrun] at h
      exact ⟨out, loaded, q, rfl, by simpa [Except.toOption] using h.1, hload, hq, htest⟩

theorem invocation_plan : invocation ["plan", "p.json"] =
    .ok { command := some (.plan { file := "p.json" } false) } := by decide +kernel

theorem run_plan_umbrellas_debug :
    ∃ s out q, run s ["plan", "p.json"] = .ok out ∧ out.status = 0 ∧
      Shows false ((Command.plan { file := "p.json" } false).report s.tree s.current).messages q
        "detektMain" ["detektDebug"] := by
  have hshows : ∀ s, endsWith s
      (fun q => q.graph.dependencies? "detektMain" == some ["detektDebug"]) = true →
      ∃ out q, run s ["plan", "p.json"] = .ok out ∧ out.status = 0 ∧
        Shows false ((Command.plan { file := "p.json" } false).report s.tree s.current).messages q
          "detektMain" ["detektDebug"] := by
    intro s hends
    obtain ⟨out, loaded, q, hrun, hstatus, hload, hq, htest⟩ := exists_of_endsWith hends
    obtain ⟨loaded', q', -, hload', hq', -, -, hshows, -⟩ :=
      run_plan_umbrellas s _ _ { file := "p.json" } false out invocation_plan rfl hrun hstatus
    cases hload.symm.trans hload'
    cases hq.symm.trans hq'
    exact ⟨out, q, hrun, hstatus, (hshows _ _).2 ⟨.main, rfl, by simpa using htest⟩⟩
  exact ⟨_, hshows (describedBy
    "\x7b\"plugins\": [\"com.android.test\", \"kotlin-android\"]\x7d") (by decide +kernel)⟩

/-- A source set named `main` is shown as an umbrella. -/
theorem not_forall_shown_lifecycle :
    ¬ ∀ (s : Surroundings) (args : List String) (i : Invocation) (target : Target)
        (asDocument : Bool) (out : Output) (loaded q : Project),
      invocation args = .ok i → i.command = some (.plan target asDocument) →
      run s args = .ok out → out.status = 0 →
      (Description.load s.tree s.current (Path.ofText target.file)).outcome = .ok loaded →
      Configuring.evaluate (ignoring target.ignored loaded) = .ok () q →
      ∀ name names,
        Shows asDocument ((Command.plan target asDocument).report s.tree s.current).messages q
          name names → ∃ t, q.graph.get? name = some t ∧ t.kind = .lifecycle := by
  intro hall
  have hno : ∀ s, endsWith s
      (fun q => (q.graph.get? "detektMain").map (·.kind) == some .analysis) = true →
      ¬ .umbrella "detektMain" [] ∈
        ((Command.plan { file := "p.json" } false).report s.tree s.current).messages := by
    intro s hends hshown
    obtain ⟨out, loaded, q, hrun, hstatus, hload, hq, htest⟩ := exists_of_endsWith hends
    obtain ⟨t, ht, hkind⟩ := hall s _ _ { file := "p.json" } false out loaded q invocation_plan rfl
      hrun hstatus hload hq "detektMain" [] hshown
    rw [ht, Option.map_some, hkind] at htest
    cases htest
  exact hno (describedBy ("\x7b\"plugins\": [\"org.jetbrains.kotlin.jvm\"], " ++
    "\"sourceSets\": [\x7b\"name\": \"main\", \"kotlin\": []\x7d]\x7d"))
    (by decide +kernel) (by decide +kernel)

end CommandLine

end AnalysisPlan
