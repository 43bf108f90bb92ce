import AnalysisPlan.Proofs.Following
import Mathlib.Data.List.Nodup

/-!
# The history of a task graph

A task graph is built by calls, each of which is answered or fails. A call that fails
leaves everything as it was, so the graph is a function of the calls that were answered
(`GraphCall.graph`): their tasks in order, each with the names that it was connected to.
Whether a call is answered depends on the names registered before it and on nothing else.
So calls that connect tasks may come in another order or more often, as long as the same
connections are made (`GraphCall.after_tells`).
-/

namespace AnalysisPlan

namespace Registration

variable {f : TaskGraph → Except Fault TaskGraph} {r : Registry}

theorem change_of_ok {g : TaskGraph} (h : f r.graph = .ok g) :
    change f r = .ok () { r with graph := g } := by
  rw [change, h]

theorem change_of_error {e : Fault} (h : f r.graph = .error e) : change f r = .error e r := by
  rw [change, h]

end Registration

theorem TaskGraph.exists_addDependency_eq_error {g : TaskGraph} {name dependency : String}
    (h : ¬(name ∈ g.names ∧ dependency ∈ g.names)) :
    ∃ f, g.addDependency name dependency = .error f := by
  unfold addDependency
  cases hname : g.has name with
  | false => exact ⟨_, rfl⟩
  | true =>
      have hnot : g.has dependency = false := by
        rw [← Bool.not_eq_true, has_iff]
        exact fun hd => h ⟨has_iff.1 hname, hd⟩
      rw [hnot]
      exact ⟨_, rfl⟩

/-- A call that builds a task graph. -/
inductive GraphCall where
  | register (task : Task)
  | registerLifecycle (name description group : String)
  | addDependency (name dependency : String)
deriving Repr, DecidableEq

namespace GraphCall

def make : GraphCall → Registration Unit
  | register task => Registration.add task
  | registerLifecycle name description group =>
      Registration.add (.lifecycle name description group)
  | addDependency name dependency => Registration.connect name dependency

/-- The registry after calls. A call that fails is followed by the next one, too. -/
def after (r : Registry) : List GraphCall → Registry
  | [] => r
  | call :: calls => after (ended (call.make r)).2 calls

/-- Those of the calls that are answered, in their order. -/
def answered (r : Registry) : List GraphCall → List GraphCall
  | [] => []
  | call :: calls =>
    match call.make r with
    | .ok _ s => call :: answered s calls
    | .error _ s => answered s calls

def task? : GraphCall → Option Task
  | register task => some task
  | registerLifecycle name description group => some (.lifecycle name description group)
  | addDependency .. => none

def tasks (calls : List GraphCall) : List Task := calls.filterMap task?

def names (calls : List GraphCall) : List String := (tasks calls).map (·.name)

def target? (name : String) : GraphCall → Option String
  | addDependency source dependency => if source = name then some dependency else none
  | _ => none

def targets (calls : List GraphCall) (name : String) : List String :=
  calls.filterMap (target? name)

/-- The graph that answered calls lead to. -/
def graph (made : List GraphCall) : TaskGraph :=
  ⟨(tasks made).map fun task => ⟨task, .ofList (targets made task.name)⟩⟩

/-- Whether a call can be answered where the names of `made` are registered. -/
def Allowed (made : List GraphCall) : GraphCall → Prop
  | register task => task.name ∉ names made
  | registerLifecycle name _ _ => name ∉ names made
  | addDependency name dependency => name ∈ names made ∧ dependency ∈ names made

/-- Two histories in which the same is to be registered in the same order, and the same
connections are made, in whatever order and however often. -/
structure Reconnects (calls calls' : List GraphCall) : Prop where
  tasks : tasks calls' = tasks calls
  connections : ∀ name dependency,
    .addDependency name dependency ∈ answered {} calls' ↔
      .addDependency name dependency ∈ answered {} calls

variable {made calls : List GraphCall} {call : GraphCall} {name dependency : String}
  {task : Task}

theorem tasks_append (calls calls' : List GraphCall) :
    tasks (calls ++ calls') = tasks calls ++ tasks calls' := List.filterMap_append

theorem tasks_cons (call : GraphCall) (calls : List GraphCall) :
    tasks (call :: calls) = call.task?.toList ++ tasks calls := by
  unfold tasks
  cases h : call.task? with
  | none => rw [List.filterMap_cons_none h, Option.toList_none, List.nil_append]
  | some task => rw [List.filterMap_cons_some h, Option.toList_some, List.singleton_append]

theorem tasks_singleton (call : GraphCall) : tasks [call] = call.task?.toList :=
  (tasks_cons call []).trans (List.append_nil _)

theorem names_append (calls calls' : List GraphCall) :
    names (calls ++ calls') = names calls ++ names calls' := by
  simp [names, tasks_append]

theorem names_concat (made : List GraphCall) (call : GraphCall) :
    names (made ++ [call]) = names made ++ call.task?.toList.map (·.name) := by
  rw [names_append]
  exact congrArg (names made ++ List.map _ ·) (tasks_singleton call)

theorem targets_append (calls calls' : List GraphCall) (name : String) :
    targets (calls ++ calls') name = targets calls name ++ targets calls' name :=
  List.filterMap_append

theorem mem_targets : dependency ∈ targets calls name ↔
    .addDependency name dependency ∈ calls := by
  simp only [targets, List.mem_filterMap]
  constructor
  · rintro ⟨call, hcall, htarget⟩
    cases call with
    | addDependency source target =>
        simp only [target?, Option.ite_none_right_eq_some, Option.some.injEq] at htarget
        obtain ⟨rfl, rfl⟩ := htarget
        exact hcall
    | _ => cases htarget
  · exact fun h => ⟨_, h, if_pos rfl⟩

@[simp] theorem tasks_graph (made : List GraphCall) : (graph made).tasks = tasks made := by
  simp [TaskGraph.tasks, graph, Function.comp_def]

@[simp] theorem names_graph (made : List GraphCall) : (graph made).names = names made := by
  simp [TaskGraph.names, names]

/-- A new task stands behind the others, and nothing is connected to it. -/
theorem graph_register (hcall : call.task? = some task) (hnew : targets made task.name = []) :
    graph (made ++ [call]) = ⟨(graph made).nodes ++ [⟨task, ∅⟩]⟩ := by
  have htasks : tasks [call] = [task] := by simp [tasks, hcall]
  have htargets : ∀ name, targets (made ++ [call]) name = targets made name := by
    intro name
    rw [targets_append]
    cases call with
    | addDependency => cases hcall
    | _ => exact List.append_nil _
  simp only [graph, tasks_append, htasks, htargets, List.map_append, List.map_cons, List.map_nil,
    hnew]
  rfl

/-- A connection adds one name to what a task depends on. -/
theorem graph_addDependency (made : List GraphCall) (name dependency : String) :
    graph (made ++ [.addDependency name dependency]) = (graph made).tie name dependency := by
  have htasks : tasks (made ++ [.addDependency name dependency]) = tasks made := by
    rw [tasks_append]
    exact List.append_nil _
  have hnode : ∀ task : Task,
      (⟨task, .ofList (targets (made ++ [.addDependency name dependency]) task.name)⟩ : TaskNode) =
        TaskGraph.needing name dependency ⟨task, .ofList (targets made task.name)⟩ := by
    intro task
    rw [targets_append]
    by_cases h : task.name = name
    · have htarget : targets [.addDependency name dependency] task.name = [dependency] := by
        simp [targets, target?, h]
      rw [htarget, TaskGraph.needing, if_pos h, NameSet.ofList, List.foldl_append]
      rfl
    · have htarget : targets [.addDependency name dependency] task.name = [] := by
        simp [targets, target?, Ne.symm h]
      rw [htarget, TaskGraph.needing, if_neg h, List.append_nil]
  simp only [graph, TaskGraph.tie, htasks, hnode, List.map_map, Function.comp_def]

/-! ## The calls that are answered -/

theorem make_of_task? (h : call.task? = some task) : call.make = Registration.add task := by
  cases call <;> cases h <;> rfl

theorem allowed_iff_of_task? (h : call.task? = some task) :
    call.Allowed made ↔ task.name ∉ names made := by
  cases call <;> cases h <;> rfl

theorem exists_of_task?_eq_none (h : call.task? = none) :
    ∃ name dependency, call = .addDependency name dependency := by
  cases call <;> cases h
  exact ⟨_, _, rfl⟩

/-- Calls that register no name twice and connect names that are registered. -/
structure Proper (made : List GraphCall) : Prop where
  nodup : (names made).Nodup
  ends : ∀ name dependency, .addDependency name dependency ∈ made →
    name ∈ names made ∧ dependency ∈ names made

theorem proper_nil : Proper [] := ⟨List.nodup_nil, by simp⟩

theorem Proper.targets_eq_nil (h : Proper made) (hname : name ∉ names made) :
    targets made name = [] := by
  rw [List.eq_nil_iff_forall_not_mem]
  exact fun dependency hd => hname (h.ends name dependency (mem_targets.1 hd)).1

theorem Proper.add (h : Proper made) (hcall : call.Allowed made) : Proper (made ++ [call]) := by
  refine ⟨?_, fun name dependency hmem => ?_⟩
  · rw [names_concat]
    cases htask : call.task? with
    | none => exact (List.append_nil (names made)).symm ▸ h.nodup
    | some task =>
        rw [List.nodup_append_comm]
        exact List.nodup_cons.2 ⟨(allowed_iff_of_task? htask).1 hcall, h.nodup⟩
  · have hends : name ∈ names made ∧ dependency ∈ names made := by
      rcases List.mem_append.1 hmem with hold | hnew
      · exact h.ends name dependency hold
      · cases List.mem_singleton.1 hnew
        exact hcall
    rw [names_append]
    exact hends.imp (List.mem_append_left _) (List.mem_append_left _)

/-- How a call ends where the graph is that of the calls answered before. -/
theorem make_cases {r : Registry} (h : Proper made) (hr : r.graph = graph made)
    (call : GraphCall) :
    (call.Allowed made ∧ call.make r = .ok () { r with graph := graph (made ++ [call]) }) ∨
      (¬call.Allowed made ∧ ∃ f, call.make r = .error f r) := by
  cases htask : call.task? with
  | some task =>
      rw [allowed_iff_of_task? htask, make_of_task? htask]
      by_cases hold : task.name ∈ names made
      · have hfail : r.graph.register task = .error (.taskExists task.name) :=
          TaskGraph.register_eq_error_iff.2 ⟨by rwa [hr, names_graph], rfl⟩
        exact .inr ⟨not_not_intro hold, _, Registration.change_of_error hfail⟩
      · have hok : r.graph.register task = .ok (graph (made ++ [call])) := by
          rw [graph_register htask (h.targets_eq_nil hold), ← hr]
          exact TaskGraph.register_eq_ok_iff.2 ⟨by rwa [hr, names_graph], rfl⟩
        exact .inl ⟨hold, Registration.change_of_ok hok⟩
  | none =>
      obtain ⟨name, dependency, rfl⟩ := exists_of_task?_eq_none htask
      by_cases hends : name ∈ names made ∧ dependency ∈ names made
      · have hok : r.graph.addDependency name dependency =
            .ok (graph (made ++ [.addDependency name dependency])) := by
          rw [graph_addDependency, ← hr]
          rw [← names_graph, ← hr] at hends
          exact TaskGraph.addDependency_of_mem hends.1 hends.2
        exact .inl ⟨hends, Registration.change_of_ok (f := (·.addDependency name dependency)) hok⟩
      · obtain ⟨f, hf⟩ := TaskGraph.exists_addDependency_eq_error (g := r.graph)
          (by rwa [hr, names_graph])
        exact .inr ⟨hends, f,
          Registration.change_of_error (f := (·.addDependency name dependency)) hf⟩

/-! ## Any number of calls -/

/-- What calls leave is told by those before and those of them that are answered. -/
theorem after_eq {r : Registry} (h : Proper made) (hr : r.graph = graph made)
    (calls : List GraphCall) :
    Proper (made ++ answered r calls) ∧
      after r calls = { r with graph := graph (made ++ answered r calls) } := by
  induction calls generalizing r made with
  | nil =>
      rw [answered, List.append_nil, ← hr]
      exact ⟨h, rfl⟩
  | cons call calls ih =>
      rcases make_cases h hr call with ⟨hallowed, hmake⟩ | ⟨-, f, hmake⟩
      · have hnext := ih (r := { r with graph := graph (made ++ [call]) }) (h.add hallowed) rfl
        rw [List.append_assoc] at hnext
        rw [after, answered, hmake]
        exact hnext
      · rw [after, answered, hmake]
        exact ih h hr

/-- Calls on a fresh registry leave what those of them lead to that are answered. -/
theorem after_fresh (calls : List GraphCall) :
    Proper (answered {} calls) ∧ (after {} calls).graph = graph (answered {} calls) := by
  have h := after_eq (r := {}) proper_nil rfl calls
  exact ⟨h.1, congrArg Registry.graph h.2⟩

/-- Of tasks, those whose name is none of the given ones and comes for the first time. -/
def firsts (taken : List String) : List Task → List Task
  | [] => []
  | task :: rest =>
    if task.name ∈ taken then firsts taken rest
    else task :: firsts (taken ++ [task.name]) rest

/-- Which tasks are registered does not depend on the calls that connect tasks. -/
theorem tasks_answered {r : Registry} (h : Proper made) (hr : r.graph = graph made)
    (calls : List GraphCall) :
    tasks (answered r calls) = firsts (names made) (tasks calls) := by
  induction calls generalizing r made with
  | nil => rfl
  | cons call calls ih =>
      rcases make_cases h hr call with ⟨hallowed, hmake⟩ | ⟨hrefused, f, hmake⟩
      · have hrest := ih (r := { r with graph := graph (made ++ [call]) }) (h.add hallowed) rfl
        rw [answered, hmake]
        change tasks (call :: answered _ calls) = _
        rw [tasks_cons, tasks_cons, hrest, names_concat]
        cases htask : call.task? with
        | none => rw [Option.toList_none, List.map_nil, List.append_nil]; rfl
        | some task =>
            have hnew := (allowed_iff_of_task? htask).1 hallowed
            rw [Option.toList_some, List.singleton_append, List.singleton_append, firsts,
              if_neg hnew]
            rfl
      · rw [answered, hmake]
        change tasks (answered r calls) = _
        rw [ih h hr, tasks_cons]
        cases htask : call.task? with
        | none => rfl
        | some task =>
            have hold := not_not.1 ((allowed_iff_of_task? htask).not.1 hrefused)
            rw [Option.toList_some, List.singleton_append, firsts, if_pos hold]

/-- The same tasks with the same connections are the same graph. -/
theorem graph_eq_graph {made' : List GraphCall} (htasks : tasks made' = tasks made)
    (hconnections : ∀ name dependency, .addDependency name dependency ∈ made' ↔
      .addDependency name dependency ∈ made) :
    graph made' = graph made := by
  have hneeds : ∀ name, NameSet.ofList (targets made' name) = .ofList (targets made name) := by
    refine fun name => NameSet.ext_mem fun dependency => ?_
    rw [NameSet.mem_ofList, NameSet.mem_ofList, mem_targets, mem_targets, hconnections]
  simp only [graph, htasks, hneeds]

/-- What a task of the graph depends on. -/
theorem dependencies?_graph (h : Proper made) (hname : name ∈ names made) :
    (graph made).dependencies? name =
      some (NameSet.ofList (targets made name)).names := by
  obtain ⟨task, htask, rfl⟩ := List.mem_map.1 hname
  have hnode : (⟨task, .ofList (targets made task.name)⟩ : TaskNode) ∈ (graph made).nodes :=
    List.mem_map_of_mem htask
  have hfound := TaskGraph.node?_of_mem (by rw [names_graph]; exact h.nodup) hnode
  rw [TaskGraph.dependencies?, TaskGraph.needs?, hfound]
  rfl

/-- After any calls on a fresh graph, its tasks are those of the calls that were answered, and
each depends on what it was connected to; no name is there twice. A further call fails exactly
if it is not allowed after these, and then leaves everything as it was. Connections made in
another order, or more often, lead to the same graph. -/
theorem after_tells (calls : List GraphCall) :
    let made := answered {} calls
    let g := (after {} calls).graph
    (g.tasks = tasks made ∧ g.names = names made ∧ g.names.Nodup) ∧
    (∀ call : GraphCall,
      ((∃ f s, call.make (after {} calls) = .error f s) ↔ ¬call.Allowed made) ∧
      ∀ f s, call.make (after {} calls) = .error f s → s = after {} calls) ∧
    (∀ name ∈ g.names, ∃ needs, g.dependencies? name = some needs ∧ needs.Pairwise (· < ·) ∧
      (∀ dependency, dependency ∈ needs ↔ .addDependency name dependency ∈ made) ∧
      ∀ dependency ∈ needs, dependency ∈ g.names) ∧
    ∀ calls', Reconnects calls calls' → (after {} calls').graph = g := by
  obtain ⟨hproper, hgraph⟩ := after_fresh calls
  refine ⟨?_, fun call => ?_, fun name hname => ?_, fun calls' h => ?_⟩
  · rw [hgraph, tasks_graph, names_graph]
    exact ⟨rfl, rfl, hproper.nodup⟩
  · rcases make_cases hproper hgraph call with ⟨hallowed, hmake⟩ | ⟨hrefused, f, hmake⟩
    · refine ⟨⟨?_, fun hnot => absurd hallowed hnot⟩, ?_⟩
      · rintro ⟨f, s, hfail⟩
        cases hmake.symm.trans hfail
      · intro f s hfail
        cases hmake.symm.trans hfail
    · refine ⟨⟨fun _ => hrefused, fun _ => ⟨f, _, hmake⟩⟩, fun f s hfail => ?_⟩
      cases hmake.symm.trans hfail
      rfl
  · rw [hgraph, names_graph] at hname ⊢
    refine ⟨_, dependencies?_graph hproper hname, NameSet.increasing _, ?_⟩
    have hmem : ∀ dependency, dependency ∈ (NameSet.ofList
        (targets (answered {} calls) name)).names ↔
          .addDependency name dependency ∈ answered {} calls := by
      intro dependency
      rw [NameSet.mem_names, NameSet.mem_ofList, mem_targets]
    exact ⟨hmem, fun dependency hd => (hproper.ends name dependency ((hmem dependency).1 hd)).2⟩
  · rw [hgraph, (after_fresh calls').2]
    have hfirsts : ∀ calls, tasks (answered {} calls) = firsts [] (tasks calls) :=
      tasks_answered proper_nil rfl
    refine graph_eq_graph ?_ h.connections
    rw [hfirsts, hfirsts, h.tasks]

/-- Calls of which the second and the last one fail. -/
def debugFirst : List GraphCall :=
  [.registerLifecycle "detektMain" "" "", .addDependency "detektMain" "detektDebug",
    .register { name := "detektRelease", kind := .analysis },
    .register { name := "detektDebug", kind := .analysis },
    .addDependency "detektMain" "detektDebug", .addDependency "detektMain" "detektRelease",
    .register { name := "detektMain", kind := .analysis }]

/-- The same tasks, connected in another order and one of them twice. -/
def releaseFirst : List GraphCall :=
  [.registerLifecycle "detektMain" "" "",
    .register { name := "detektRelease", kind := .analysis },
    .addDependency "detektMain" "detektRelease",
    .register { name := "detektDebug", kind := .analysis },
    .addDependency "detektMain" "detektRelease", .addDependency "detektMain" "detektDebug",
    .register { name := "detektMain", kind := .analysis }]

theorem after_tells_debugFirst :
    Reconnects debugFirst releaseFirst ∧
      (after {} releaseFirst).graph = (after {} debugFirst).graph ∧
      (∃ needs, (after {} debugFirst).graph.dependencies? "detektMain" = some needs ∧
        needs.Pairwise (· < ·) ∧ "detektDebug" ∈ needs) ∧
      ∃ f, (register { name := "detektMain", kind := .analysis }).make (after {} debugFirst) =
        .error f (after {} debugFirst) := by
  have hanswered : answered {} debugFirst = (debugFirst.eraseIdx 6).eraseIdx 1 := by
    decide +kernel
  have hanswered' : answered {} releaseFirst = releaseFirst.eraseIdx 6 := by decide +kernel
  have hsame : Reconnects debugFirst releaseFirst := by
    refine ⟨by decide +kernel, fun name dependency => ?_⟩
    rw [hanswered, hanswered']
    simp [debugFirst, releaseFirst]
    tauto
  obtain ⟨-, hcall, hneeds, hreconnects⟩ := after_tells debugFirst
  obtain ⟨needs, hdependencies, hincreasing, hmem, -⟩ :=
    hneeds "detektMain" (by decide +kernel)
  obtain ⟨hfails, hkept⟩ := hcall (.register { name := "detektMain", kind := .analysis })
  obtain ⟨f, s, hfail⟩ := hfails.2 (by
    rw [allowed_iff_of_task? rfl]
    decide +kernel)
  refine ⟨hsame, hreconnects _ hsame, ⟨needs, hdependencies, hincreasing, ?_⟩, f, ?_⟩
  · exact (hmem "detektDebug").2 (by decide +kernel)
  · exact hkept f s hfail ▸ hfail

end GraphCall

end AnalysisPlan
