import AnalysisPlan.Proofs.NestedCalls
import AnalysisPlan.Proofs.Evaluation

/-!
# From the first call to the last finalizer

Finalizing a plugin enters it into the history and then plans; whatever planning does and
however it ends, it changes only the registry and what resolving the variants gave
(`Configuring.Planning`). So the history tells which plugins were finalized, also where
one of them failed: those that were applied, in the order of application, up to the first
that failed (`Project.FinalizesInOrder`). Together with what is known of the calls before,
this is the life of a project from nothing to its evaluation and after it
(`Configuring.applyEach_settles`).
-/

namespace AnalysisPlan

namespace Project

/-- All that planning changes of a project. -/
def Plans (p q : Project) : Prop :=
  q = { p with registry := q.registry, variantTasks := q.variantTasks }

/-- All that finalizing plugins changes of a project, with the history of it. -/
def Finalizes (p : Project) (plugins : List Plugin) (q : Project) : Prop :=
  q = { p with
    registry := q.registry
    variantTasks := q.variantTasks
    history := p.history ++ plugins.map PluginEvent.finalized }

variable {p q s : Project} {before after : List Plugin}

theorem Plans.trans (hpq : p.Plans q) (hqs : q.Plans s) : p.Plans s := by
  unfold Plans at hpq hqs ⊢
  rw [hqs, hpq]

theorem Finalizes.trans (hpq : p.Finalizes before q) (hqs : q.Finalizes after s) :
    p.Finalizes (before ++ after) s := by
  unfold Finalizes at hpq hqs ⊢
  rw [hqs, hpq, List.map_append, List.append_assoc]

end Project

namespace Configuring

section Planning

variable {α β : Type} {x : Configuring α} {k : α → Configuring β}

/-- A computation that does nothing but plan, whether it returns or fails. -/
def Planning (x : Configuring α) : Prop := ∀ p : Project, p.Plans (ended (x p)).2

theorem Planning.bind (hx : Planning x) (hk : ∀ a, Planning (k a)) : Planning (x >>= k) := by
  intro p
  have hp := hx p
  cases h : x p with
  | ok a q =>
      rw [h] at hp
      rw [bind_of_ok h]
      exact hp.trans (hk a q)
  | error f q =>
      rw [h] at hp
      rw [bind_of_error h]
      exact hp

theorem Planning.ite {c : Prop} [Decidable c] {y : Configuring α} (hx : Planning x)
    (hy : Planning y) : Planning (if c then x else y) := by
  split
  · exact hx
  · exact hy

theorem planning_get : Planning (get : Configuring Project) := fun _ => rfl

theorem planning_pure (a : α) : Planning (pure a : Configuring α) := fun _ => rfl

theorem planning_throw (f : Fault) : Planning (throw f : Configuring α) := fun _ => rfl

theorem planning_registering (x : Registration α) : Planning (registering x) := by
  intro p
  unfold registering
  cases x p.registry <;> rfl

end Planning

theorem planning_planProject : Planning planProject := by
  unfold planProject
  refine planning_get.bind fun p => ?_
  iterate 4 refine (planning_registering _).bind fun _ => ?_
  have hsets : Planning (if p.hasPlugin Plugin.kotlinJvm then
      (do let _ ← registering (SourceSet.registerAll p.registrar p.sourceSets))
    else pure () : Configuring Unit) :=
    .ite ((planning_registering _).bind fun _ => planning_pure ()) (planning_pure ())
  exact .ite ((planning_registering _).bind fun _ => hsets) hsets

theorem planning_planVariants : Planning planVariants := by
  unfold planVariants
  refine planning_get.bind fun p => ?_
  split
  · exact planning_registering _
  · cases p.variantSource with
    | error f => exact planning_throw f
    | ok source? =>
        cases source? with
        | none => exact planning_throw _
        | some source =>
            refine planning_get.bind fun _ => ?_
            exact (planning_registering _).bind fun _ _ => rfl

variable {p q : Project} {f : Fault}

theorem finalizeOne_finalizes (plugin : Plugin) (p : Project) :
    p.Finalizes [plugin] (ended (finalizeOne plugin p)).2 := by
  have hplan : ∀ x : Configuring Unit, Planning x →
      p.Finalizes [plugin] (ended ((do
        report (.pluginFinalizing plugin.id)
        modify fun p => { p with history := p.history ++ [PluginEvent.finalized plugin] }
        x : Configuring Unit) p)).2 := fun x h => h _
  unfold finalizeOne
  refine hplan _ ?_
  cases plugin with
  | analysis => exact planning_planProject
  | variantAnalysis serial => exact planning_planVariants
  | addon id key =>
      refine planning_get.bind fun reached => ?_
      cases (reached.addonOf (.addon id key)).refusal with
      | none => exact planning_pure ()
      | some reason => exact planning_throw _

theorem finalizes_of_finalizeEach {plugins : List Plugin}
    (h : finalizeEach plugins p = .ok () q) : p.Finalizes plugins q := by
  induction plugins generalizing p with
  | nil =>
      cases h
      unfold Project.Finalizes
      rw [List.map_nil, List.append_nil]
  | cons plugin plugins ih =>
      have hone := finalizeOne_finalizes plugin p
      rw [finalizeEach] at h
      cases hrun : finalizeOne plugin p with
      | ok _ made =>
          rw [bind_of_ok hrun] at h
          rw [hrun] at hone
          exact hone.trans (ih h)
      | error f made =>
          rw [bind_of_error hrun] at h
          cases h

/-- Finalizing stops with the first plugin that fails. -/
theorem exists_of_finalizeEach_error {plugins : List Plugin}
    (h : finalizeEach plugins p = .error f q) :
    ∃ before last after reached, plugins = before ++ last :: after ∧
      finalizeEach before p = .ok () reached ∧ finalizeOne last reached = .error f q ∧
      p.Finalizes (before ++ [last]) q := by
  induction plugins generalizing p with
  | nil => cases h
  | cons plugin plugins ih =>
      have hone := finalizeOne_finalizes plugin p
      rw [finalizeEach] at h
      cases hrun : finalizeOne plugin p with
      | ok _ made =>
          rw [bind_of_ok hrun] at h
          rw [hrun] at hone
          obtain ⟨before, last, after, reached, rfl, hbefore, hlast, hq⟩ := ih h
          refine ⟨plugin :: before, last, after, reached, rfl, ?_, hlast, hone.trans hq⟩
          rw [finalizeEach, bind_of_ok hrun, hbefore]
      | error g made =>
          rw [bind_of_error hrun] at h
          cases h
          rw [hrun] at hone
          exact ⟨[], plugin, plugins, p, rfl, rfl, hrun, hone⟩

/-! ## Evaluation -/

theorem evaluate_of_open (h : p.evaluated = false) :
    evaluate p =
      (do
        finalizeEach p.applied
        let q ← get
        report (.projectEvaluated p.name q.graph.size) : Configuring Unit)
        { p with evaluated := true } := by
  unfold evaluate
  change (if p.evaluated then _ else _ : Configuring Unit) p = _
  rw [h]
  rfl

theorem evaluate_of_evaluated (h : p.evaluated = true) :
    evaluate p = .error (.evaluatedTwice p.name) p := by
  unfold evaluate
  change (if p.evaluated then _ else _ : Configuring Unit) p = _
  rw [h]
  rfl

theorem answerQueue_singleton (n : Nat) (r : Request) :
    answerQueue (n + 1) [r] = answer r >>= answerQueue n := by
  rw [answerQueue_succ_cons]
  simp only [List.append_nil]

/-- Applying answers a request and then what it brings along. -/
theorem exists_apply_eq (r : Request) (p : Project) :
    ∃ n, apply r p = (answer r >>= answerQueue (n + 1)) p := by
  obtain ⟨n, hn⟩ := exists_queueBound_eq p
  refine ⟨n, ?_⟩
  change answerQueue (queueBound p) [r] p = _
  rw [hn, answerQueue_singleton]

theorem apply_of_error {r : Request} (h : answer r p = .error f q) : apply r p = .error f q := by
  obtain ⟨n, hn⟩ := exists_apply_eq r p
  exact hn.trans (bind_of_error h _)

theorem apply_of_nothing {r : Request} (h : answer r p = .ok [] q) : apply r p = .ok () q := by
  obtain ⟨n, hn⟩ := exists_apply_eq r p
  exact hn.trans (bind_of_ok h _)

theorem apply_of_evaluated (h : p.evaluated = true) (r : Request) :
    apply r p = .error (.pluginAfterEvaluation p.name) p :=
  apply_of_error (answer_of_evaluated h r)

end Configuring

namespace Project

/-- Evaluating finalizes the plugins in the order of their application: all of them where
it returns, and otherwise those up to the first that fails, with whose fault it ends. -/
structure FinalizesInOrder (p : Project) : Prop where
  returned : ∀ q, Configuring.evaluate p = .ok () q →
    q.history = p.history ++ p.applied.map .finalized
  failed : ∀ f q, Configuring.evaluate p = .error f q →
    ∃ before last after reached, p.applied = before ++ last :: after ∧
      Configuring.finalizeEach before { p with evaluated := true } = .ok () reached ∧
      Configuring.finalizeOne last reached = .error f q ∧
      q.history = p.history ++ (before ++ [last]).map .finalized

end Project

namespace Configuring

variable {p q : Project} {f : Fault}

theorem finalizesInOrder (h : p.evaluated = false) : p.FinalizesInOrder := by
  refine ⟨fun q hq => ?_, fun f q hq => ?_⟩
  · rw [evaluate_of_open h] at hq
    cases hrun : finalizeEach p.applied { p with evaluated := true } with
    | ok _ made =>
        rw [bind_of_ok hrun] at hq
        cases hq
        exact congrArg Project.history (finalizes_of_finalizeEach hrun)
    | error f made =>
        rw [bind_of_error hrun] at hq
        cases hq
  · rw [evaluate_of_open h] at hq
    cases hrun : finalizeEach p.applied { p with evaluated := true } with
    | ok _ made =>
        rw [bind_of_ok hrun] at hq
        cases hq
    | error f made =>
        rw [bind_of_error hrun] at hq
        cases hq
        obtain ⟨before, last, after, reached, happlied, hbefore, hlast, hq⟩ :=
          exists_of_finalizeEach_error hrun
        exact ⟨before, last, after, reached, happlied, hbefore, hlast,
          congrArg Project.history hq⟩

/-- A project is evaluated once it was asked to be, however that ended. -/
theorem evaluated_of_evaluate (p : Project) : (ended (evaluate p)).2.evaluated = true := by
  cases h : p.evaluated with
  | true =>
      rw [evaluate_of_evaluated h]
      exact h
  | false =>
      rw [evaluate_of_open h]
      cases hrun : finalizeEach p.applied { p with evaluated := true } with
      | ok _ made =>
          rw [bind_of_ok hrun]
          exact congrArg Project.evaluated (finalizes_of_finalizeEach hrun)
      | error f made =>
          rw [bind_of_error hrun]
          obtain ⟨_, _, _, _, -, -, -, hq⟩ := exists_of_finalizeEach_error hrun
          exact congrArg Project.evaluated hq

end Configuring

namespace Project

/-- What calls have made of a project that had no plugins: nothing is twice among the
identifiers or the plugins, and these are all that was asked for and brought along. -/
structure AppliesOnce (p : Project) (calls : List Request) (q : Project) : Prop where
  nodup_ids : q.pluginIds.Nodup
  nodup_applied : (q.applied.map (·.id)).Nodup
  history : q.history = q.applied.map .applied
  mem_ids : ∀ id, id ∈ q.pluginIds ↔
    ∃ r ∈ calls ++ q.applied.flatMap p.brings, r.id = id
  hasApplied : ∀ id, q.hasApplied id = true ↔
    ∃ a, .apply a ∈ calls ++ q.applied.flatMap p.brings ∧ a.id = id
  nested : ∀ a ∈ q.applied, p.Nested a q

theorem Gains.appliesOnce {p q : Project} {calls : List Request} {recorded : List Plugin}
    (h : p.Gains (calls ++ recorded.flatMap p.brings) recorded q) (hids : p.pluginIds = [])
    (happlied : p.applied = []) (hhistory : p.history = [])
    (hnested : ∀ a ∈ recorded, p.Nested a q) : p.AppliesOnce calls q := by
  have hq : q.applied = recorded := by rw [h.applied, happlied, List.nil_append]
  have hnone : ∀ id, p.hasApplied id = false := by simp [Project.hasApplied, happlied]
  rw [← hq] at h hnested
  refine ⟨h.nodup_ids ?_, h.nodup_applied ?_, ?_, fun id => ?_, fun id => ?_, hnested⟩
  · rw [hids]
    exact .nil
  · rw [happlied]
    exact .nil
  · rw [h.history, hhistory, List.nil_append]
  · rw [h.mem_ids, hids]
    exact or_iff_right List.not_mem_nil
  · rw [h.hasApplied, hnone]
    exact or_iff_right Bool.false_ne_true

end Project

/-- Whatever is asked of a fresh project, in whatever order and with whatever plugins that
bring each other along, the calls end; each identifier is marked once and each plugin
recorded once, in front of those that it brings. Evaluating finalizes the recorded plugins
in their order, and however that ends, every later request and evaluation fails and
changes nothing. -/
theorem Configuring.applyEach_settles (name directory : String)
    (buildDirectory : Option String) (present : String → Bool) (options : AnalysisOptions)
    (android : Option AndroidOptions) (sourceSets : List SourceSet)
    (shelf : List (Plugin × Addon)) (calls : List Request) :
    let p : Project := { Project.fresh name directory buildDirectory present with
      options, android, sourceSets, shelf }
    ∃ q, applyEach calls p = .ok () q ∧ Project.Calls calls p q ∧ p.AppliesOnce calls q ∧
      q.FinalizesInOrder ∧
      let left := (ended (evaluate q)).2
      (∀ r, apply r left = .error (.pluginAfterEvaluation left.name) left) ∧
        evaluate left = .error (.evaluatedTwice left.name) left := by
  intro p
  have hready : p.Ready := ⟨rfl, fun h => absurd h List.not_mem_nil, fun _ => rfl⟩
  obtain ⟨q, hcalls, hq⟩ := hready.exists_calls calls
  obtain ⟨recorded, hgains, hnested⟩ := hcalls.gains
  have hleft := evaluated_of_evaluate q
  exact ⟨q, hcalls.applyEach_eq, hcalls, hgains.appliesOnce rfl rfl rfl hnested,
    finalizesInOrder hq.unsettled, fun r => apply_of_evaluated hleft r,
    evaluate_of_evaluated hleft⟩

end AnalysisPlan
