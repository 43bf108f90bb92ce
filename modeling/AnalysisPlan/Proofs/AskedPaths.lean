import AnalysisPlan.Proofs.Applying
import AnalysisPlan.Proofs.Evaluation

/-!
# The paths that a project asks for

Some steps ask which paths are there, and what they ask is known before they are taken: all
of a list if they return, and what comes first in it if they fail (`Asks`). Steps that
follow each other ask one list after the other (`Asks.bind`). Evaluation asks for the class
paths of the surviving variants, the inputs and the directories of the source sets
(`Configuring.evaluate_asks`).

Loading asks for nothing but the conventional configuration file, and for that also where
it fails later (`Description.asked_configure`), so it is denied an answer exactly if that
file is (`Description.attempt_configure`).
-/

namespace AnalysisPlan

/-- What a computation asks that started when the paths of `before` had been asked for. -/
def Asks {σ α : Type} (asked : σ → List String) (before paths : List String) :
    EStateM.Result Fault σ α → Prop
  | .ok _ s => asked s = before ++ paths
  | .error _ s => ∃ first, first <+: paths ∧ asked s = before ++ first

namespace Asks

variable {σ α β : Type} {asked : σ → List String} {before xs ys : List String} {s : σ}

theorem pure (a : α) : Asks asked (asked s) [] ((Pure.pure a : EStateM Fault σ α) s) :=
  (List.append_nil _).symm

theorem throw (f : Fault) (paths : List String) :
    Asks asked (asked s) paths ((throwThe Fault f : EStateM Fault σ α) s) :=
  ⟨[], List.nil_prefix, (List.append_nil _).symm⟩

theorem modify {f : σ → σ} (h : asked (f s) = asked s) :
    Asks asked (asked s) [] ((modifyThe σ f : EStateM Fault σ Unit) s) :=
  h.trans (List.append_nil _).symm

theorem set {t : σ} (h : asked t = asked s) :
    Asks asked (asked s) [] ((MonadStateOf.set t : EStateM Fault σ PUnit) s) :=
  h.trans (List.append_nil _).symm

theorem get_bind {k : σ → EStateM Fault σ β} (h : Asks asked before xs (k s s)) :
    Asks asked before xs ((getThe σ >>= k : EStateM Fault σ β) s) := h

/-- What was asked on the way counts as asked by the whole. -/
theorem append {x : EStateM.Result Fault σ α} (h : Asks asked (before ++ xs) ys x) :
    Asks asked before (xs ++ ys) x := by
  cases x with
  | ok a t => exact h.trans (List.append_assoc ..)
  | error f t =>
      obtain ⟨first, hfirst, ht⟩ := h
      exact ⟨xs ++ first, (List.prefix_append_right_inj _).2 hfirst,
        ht.trans (List.append_assoc ..)⟩

theorem bind {x : EStateM Fault σ α} {k : α → EStateM Fault σ β}
    (hx : Asks asked before xs (x s))
    (hk : ∀ a t, x s = .ok a t → Asks asked (asked t) ys (k a t)) :
    Asks asked before (xs ++ ys) ((x >>= k) s) := by
  change Asks asked before (xs ++ ys) (EStateM.bind x k s)
  unfold EStateM.bind
  cases hxs : x s with
  | ok a t =>
      rw [hxs] at hx
      have hrest := hk a t hxs
      rw [show asked t = before ++ xs from hx] at hrest
      exact hrest.append
  | error f t =>
      rw [hxs] at hx
      obtain ⟨first, hfirst, ht⟩ := hx
      exact ⟨first, hfirst.trans (List.prefix_append ..), ht⟩

/-- A computation that comes after one that asks nothing. -/
theorem quiet_bind {x : EStateM Fault σ α} {k : α → EStateM Fault σ β}
    (hx : Asks asked (asked s) [] (x s))
    (hk : ∀ a t, x s = .ok a t → Asks asked (asked t) ys (k a t)) :
    Asks asked (asked s) ys ((x >>= k) s) := hx.bind hk

/-- A computation that comes before one that asks nothing. -/
theorem bind_quiet {x : EStateM Fault σ α} {k : α → EStateM Fault σ β}
    (hx : Asks asked before xs (x s))
    (hk : ∀ a t, x s = .ok a t → Asks asked (asked t) [] (k a t)) :
    Asks asked before xs ((x >>= k) s) := by
  have h := hx.bind hk
  rwa [List.append_nil] at h

theorem asked_of_ok {x : EStateM.Result Fault σ α} {a : α} (h : Asks asked before xs x)
    (hx : x = .ok a s) : asked s = before ++ xs := by
  rw [hx] at h
  exact h

/-- What is asked where nothing is to be asked. -/
theorem asked_ended {x : EStateM.Result Fault σ α} (h : Asks asked before [] x) :
    asked (ended x).2 = before := by
  cases x with
  | ok a t => exact h.trans (List.append_nil _)
  | error f t =>
      obtain ⟨first, hfirst, ht⟩ := h
      rw [List.prefix_nil.1 hfirst, List.append_nil] at ht
      exact ht

end Asks

/-! ## Registering -/

namespace Registration

theorem require_asks {α : Type} (e : Except Fault α) (r : Registry) :
    Asks Registry.asked r.asked [] (require e r) := by
  cases e with
  | ok a => exact Asks.pure a
  | error f => exact Asks.throw f []

theorem report_asks (events : List LogEvent) (r : Registry) :
    Asks Registry.asked r.asked [] (report events r) :=
  (List.append_nil _).symm

theorem change_asks (f : TaskGraph → Except Fault TaskGraph) (r : Registry) :
    Asks Registry.asked r.asked [] (change f r) := by
  unfold change
  cases f r.graph with
  | ok g => exact (List.append_nil _).symm
  | error e => exact ⟨[], List.nil_prefix, (List.append_nil _).symm⟩

theorem ask_asks (paths : List String) (r : Registry) :
    Asks Registry.asked r.asked paths (ask paths r) := rfl

theorem inspect_asks (present : String → Bool) (paths : List String) (r : Registry) :
    Asks Registry.asked r.asked (Classpath.asked present paths) (inspect present paths r) := rfl

end Registration

theorem Registrar.register_asks (r : Registrar) (u : AnalysisUnit) (registry : Registry) :
    Asks Registry.asked registry.asked (Classpath.asked r.present u.classpath)
      (r.register u registry) := by
  unfold register
  refine (Registration.require_asks _ registry).quiet_bind fun _ r₁ _ => ?_
  refine (Registration.inspect_asks _ _ r₁).bind_quiet fun _ r₂ _ => ?_
  refine (Registration.change_asks _ r₂).quiet_bind fun _ r₃ _ => ?_
  exact (Registration.report_asks _ r₃).quiet_bind fun _ r₄ _ => .pure _

namespace SourceSet

def questions (present : String → Bool) (sets : List SourceSet) : List String :=
  sets.flatMap fun s => Classpath.asked present s.classesDirs

theorem register_asks (r : Registrar) (s : SourceSet) (registry : Registry) :
    Asks Registry.asked registry.asked (Classpath.asked r.present s.classesDirs)
      (s.register r registry) := by
  unfold register
  refine (Registration.require_asks _ registry).quiet_bind fun u r₁ hu => ?_
  have hclasspath : u.classpath = s.classesDirs := by
    unfold unit? at hu
    split at hu <;> cases hu
    rfl
  rw [← hclasspath]
  exact r.register_asks u r₁

theorem registerEach_asks (r : Registrar) (sets : List SourceSet) (registry : Registry) :
    Asks Registry.asked registry.asked (questions r.present sets)
      (registerEach r sets registry) := by
  induction sets generalizing registry with
  | nil => exact .pure []
  | cons s sets ih =>
      rw [registerEach_cons, questions, List.flatMap_cons]
      refine (register_asks r s registry).bind fun _ r₁ _ => ?_
      exact (ih r₁).bind_quiet fun _ _ _ => .pure _

theorem registerAll_asks (r : Registrar) (sets : List SourceSet) (registry : Registry) :
    Asks Registry.asked registry.asked (questions r.present sets)
      (registerAll r sets registry) := by
  unfold registerAll
  refine (registerEach_asks r sets registry).bind_quiet fun _ r₁ _ => ?_
  exact (Registration.report_asks _ r₁).quiet_bind fun _ _ _ => .pure _

end SourceSet

/-! ## A pass -/

/-- The paths that registering the tasks of enlistments asks for. -/
def Enlistment.questions (present : String → Bool) (es : List Enlistment) : List String :=
  es.flatMap fun e => Classpath.asked present e.variant.classpath

namespace Pass

variable {α : Type} {p : Pass} {r : Registrar}

def asked (p : Pass) : List String := p.registry.asked

theorem registering_asks {x : Registration α} {paths : List String}
    (h : Asks Registry.asked p.registry.asked paths (x p.registry)) :
    Asks asked p.asked paths (registering x p) := by
  unfold registering
  cases hx : x p.registry with
  | ok a s =>
      rw [hx] at h
      exact h
  | error f s =>
      rw [hx] at h
      exact h

theorem claim_asks (variant : String) (p : Pass) : Asks asked p.asked [] (claim variant p) := by
  unfold claim
  refine (registering_asks (Registration.require_asks _ p.registry)).quiet_bind
    fun name q _ => Asks.get_bind ?_
  cases q.claimed.lookup (Text.foldCase name) with
  | none => exact .modify rfl
  | some earlier =>
      by_cases hsame : earlier = variant
      · simp only [if_pos hsame]
        exact .pure ()
      · simp only [if_neg hsame]
        exact .throw _ []

theorem gather_asks (u : Umbrella) (task : String) (p : Pass) :
    Asks asked p.asked [] (gather u task p) := by
  have hconnect := fun q : Pass =>
    registering_asks (Registration.change_asks (·.addDependency u.name task) q.registry)
  unfold gather
  refine Asks.get_bind ?_
  split
  · refine (registering_asks (Registration.change_asks _ p.registry)).quiet_bind
      fun _ q₁ _ => ?_
    refine Asks.quiet_bind (.modify rfl) fun _ q₂ _ => ?_
    refine (registering_asks (Registration.report_asks _ q₂.registry)).quiet_bind
      fun _ q₃ _ => ?_
    exact hconnect q₃
  · exact hconnect p

theorem enlist_asks (u : Umbrella) (v : Variant) (boot : List String) (p : Pass) :
    Asks asked p.asked (Classpath.asked r.present v.classpath) (enlist r u v boot p) := by
  unfold enlist
  refine (claim_asks v.name p).quiet_bind fun _ q₁ _ => ?_
  refine (registering_asks (r.register_asks (unitOf v boot) q₁.registry)).bind_quiet
    fun task q₂ _ => ?_
  exact (gather_asks u task.name q₂).quiet_bind fun _ _ _ => .modify rfl

/-- A pass asks for the class paths of what it enlists. -/
theorem run_asks (steps : List PassStep) (p : Pass) :
    Asks asked p.asked (Enlistment.questions r.present
      (Enlistment.ofEntries (steps.filterMap PassStep.asEntry))) (run r steps p) := by
  induction steps generalizing p with
  | nil => exact .pure ()
  | cons s steps ih =>
      rw [run_cons]
      cases s with
      | openSource => exact Asks.quiet_bind (.modify rfl) fun _ q _ => ih q
      | note event =>
          exact (registering_asks (Registration.report_asks [event] p.registry)).quiet_bind
            fun _ q _ => ih q
      | enlist u v boot => exact (enlist_asks u v boot p).bind fun _ q _ => ih q
      | stop f =>
          have hstop : Asks asked p.asked [] (step r (.stop f) p) := .throw f []
          exact hstop.quiet_bind fun _ q _ => ih q

end Pass

theorem Resolver.resolve_asks (r : Resolver) (h : r.resolved = false) (registry : Registry) :
    Asks Registry.asked registry.asked (Enlistment.questions r.registrar.present r.survivors)
      (r.resolve registry).2 := by
  have hrun := Pass.run_asks (r := r.registrar) r.steps { registry }
  rw [entries_steps, ofEntries_entries] at hrun
  unfold resolve
  rw [if_neg (by simp [h])]
  cases hres : Pass.run r.registrar r.steps { registry } with
  | error f p =>
      rw [hres] at hrun
      exact hrun
  | ok a p =>
      rw [hres] at hrun
      exact hrun

namespace Project

variable {p q : Project}

def asked (p : Project) : List String := p.registry.asked

def sourceSetQuestions (p : Project) : List String :=
  if p.hasPlugin Plugin.kotlinJvm then SourceSet.questions p.present p.sourceSets else []

/-- The paths that finalizing a plugin asks for. -/
def questionsOf (p : Project) : Plugin → List String
  | .analysis => p.options.input ++ p.sourceSetQuestions
  | .variantAnalysis _ => Enlistment.questions p.present p.enlistments
  | .addon .. => []

theorem Settles.questionsOf_eq (h : p.Settles q) : q.questionsOf = p.questionsOf := by
  rw [h]
  rfl

end Project

namespace Configuring

variable {α : Type} {p : Project}

/-! ## Evaluation -/

theorem registering_asks {x : Registration α} {paths : List String}
    (h : Asks Registry.asked p.registry.asked paths (x p.registry)) :
    Asks Project.asked p.asked paths (registering x p) := by
  unfold registering
  cases hx : x p.registry with
  | ok a r =>
      rw [hx] at h
      exact h
  | error f r =>
      rw [hx] at h
      exact h

theorem report_asks (event : LogEvent) (p : Project) :
    Asks Project.asked p.asked [] (report event p) :=
  registering_asks (Registration.report_asks [event] p.registry)

theorem planProject_asks (p : Project) :
    Asks Project.asked p.asked (p.questionsOf .analysis) (planProject p) := by
  have hchange := fun (f : TaskGraph → Except Fault TaskGraph) (q : Project) =>
    registering_asks (Registration.change_asks f q.registry)
  have hsets : ∀ q : Project, Asks Project.asked q.asked p.sourceSetQuestions
      ((if p.hasPlugin Plugin.kotlinJvm then
        (do let _ ← registering (SourceSet.registerAll p.registrar p.sourceSets))
        else pure () : Configuring Unit) q) := by
    intro q
    unfold Project.sourceSetQuestions
    split
    · exact (registering_asks
        (SourceSet.registerAll_asks p.registrar p.sourceSets q.registry)).bind_quiet
        fun _ _ _ => .pure ()
    · exact .pure ()
  unfold planProject
  refine Asks.get_bind ?_
  refine (registering_asks (Registration.ask_asks p.options.input p.registry)).bind
    fun _ q₀ _ => ?_
  refine (hchange _ q₀).quiet_bind fun _ q₁ _ => ?_
  refine (hchange _ q₁).quiet_bind fun _ q₂ _ => ?_
  refine (hchange _ q₂).quiet_bind fun _ q₃ _ => ?_
  split
  · exact (hchange _ q₃).quiet_bind fun _ q₄ _ => hsets q₄
  · exact hsets q₃

theorem planVariants_asks (serial : Nat) (p : Project) :
    Asks Project.asked p.asked (p.questionsOf (.variantAnalysis serial)) (planVariants p) := by
  change Asks _ _ (Enlistment.questions p.present p.enlistments) _
  unfold planVariants Project.enlistments
  refine Asks.get_bind ?_
  split
  · exact report_asks _ p
  · cases p.variantSource with
    | error f => exact .throw f _
    | ok source? =>
        cases source? with
        | none => exact .throw _ _
        | some source =>
            simp only
            rw [← p.survivors_resolverFor source]
            unfold resolveVariants
            refine Asks.get_bind ?_
            exact (registering_asks (x := fun r => ((p.resolverFor source).resolve r).2)
              ((p.resolverFor source).resolve_asks rfl p.registry)).bind_quiet
              fun _ _ _ => .modify rfl

theorem finalizeOne_asks (plugin : Plugin) (p : Project) :
    Asks Project.asked p.asked (p.questionsOf plugin) (finalizeOne plugin p) := by
  unfold finalizeOne
  refine (report_asks _ p).quiet_bind fun _ q₁ hq₁ => ?_
  refine Asks.quiet_bind (.modify rfl) fun _ q₂ hq₂ => ?_
  have hsettles : p.Settles q₂ := by
    cases hq₁
    cases hq₂
    rfl
  rw [← hsettles.questionsOf_eq]
  cases plugin with
  | analysis => exact planProject_asks q₂
  | variantAnalysis serial => exact planVariants_asks serial q₂
  | addon id key =>
      refine Asks.get_bind ?_
      cases (q₂.addonOf (.addon id key)).refusal with
      | none => exact .pure ()
      | some reason => exact .throw _ []

/-- Finalizing plugins asks for the paths of each, in the order of the plugins. -/
theorem finalizeEach_asks (plugins : List Plugin) (hcheck : p.HasCheck) :
    Asks Project.asked p.asked (plugins.flatMap p.questionsOf) (finalizeEach plugins p) := by
  induction plugins generalizing p with
  | nil => exact .pure ()
  | cons plugin plugins ih =>
      rw [finalizeEach, List.flatMap_cons]
      refine (finalizeOne_asks plugin p).bind fun _ q hq => ?_
      have hfollows := finalizeOne_follows plugin hcheck
      rw [hq] at hfollows
      obtain ⟨hcourse, hsettles⟩ := hfollows
      rw [← hsettles.questionsOf_eq]
      exact ih (hcheck.of_course hsettles hcourse)

theorem evaluate_asks (hfresh : p.evaluated = false) (hcheck : p.HasCheck) :
    Asks Project.asked p.asked (p.applied.flatMap p.questionsOf) (evaluate p) := by
  unfold evaluate
  refine Asks.get_bind ?_
  rw [hfresh]
  change Asks _ _ _ ((do
    finalizeEach p.applied
    let q ← get
    report (.projectEvaluated p.name q.graph.size) : Configuring Unit)
      { p with evaluated := true })
  have hfinalize := finalizeEach_asks (p := { p with evaluated := true }) p.applied hcheck
  exact hfinalize.bind_quiet fun _ q _ => Asks.get_bind (report_asks _ q)

/-! ## Being denied an answer -/

section Attempt

variable {x : Configuring α} {paths : List String}

theorem askedSince_eq {q : Project} (h : q.asked = p.asked ++ paths) :
    askedSince p q = paths := by
  rw [askedSince, show q.registry.asked = _ from h]
  exact List.drop_left

/-- A step of which the questions are known to the end is cut off by the first of them
that is denied an answer. -/
theorem attempt_of_asked (h : (ended (x p)).2.asked = p.asked ++ paths) :
    attempt x p =
      match paths.findSome? p.denial with
      | some d => .error d
      | none => .ok (x p) := by
  have hstate : stateOf (x p) = (ended (x p)).2 := by cases x p <;> rfl
  obtain rfl : askedSince p (stateOf (x p)) = paths := askedSince_eq (hstate ▸ h)
  rfl

variable (h : Asks Project.asked p.asked paths (x p))

include h

theorem exists_asked_prefix :
    ∃ first, first <+: paths ∧ (ended (x p)).2.asked = p.asked ++ first := by
  cases hx : x p with
  | ok a q =>
      rw [hx] at h
      exact ⟨paths, List.prefix_rfl, h⟩
  | error f q =>
      rw [hx] at h
      exact h

theorem attempt_of_answered (hanswered : ∀ path ∈ paths, p.denial path = none) :
    attempt x p = .ok (x p) := by
  obtain ⟨first, hfirst, hasked⟩ := exists_asked_prefix h
  rw [attempt_of_asked hasked,
    List.findSome?_eq_none_iff.2 fun path hpath => hanswered path (hfirst.subset hpath)]

/-- A step is cut off by the first of its questions that is denied an answer, if it comes
to that. -/
theorem denied_of_attempt {d : Denial} (hd : attempt x p = .error d) :
    paths.findSome? p.denial = some d := by
  obtain ⟨first, ⟨rest, rfl⟩, hasked⟩ := exists_asked_prefix h
  rw [attempt_of_asked hasked] at hd
  rw [List.findSome?_append]
  cases hfirst : first.findSome? p.denial with
  | none =>
      rw [hfirst] at hd
      cases hd
  | some d' =>
      rw [hfirst] at hd
      cases hd
      rfl

theorem attempt_returns_iff {a : α} :
    (∃ q, attempt x p = .ok (.ok a q)) ↔
      (∃ q, x p = .ok a q) ∧ ∀ path ∈ paths, p.denial path = none := by
  constructor
  · rintro ⟨q, hattempt⟩
    obtain ⟨hx, hanswered⟩ := attempt_eq_ok_iff.1 hattempt
    refine ⟨⟨q, hx⟩, ?_⟩
    rw [hx] at h hanswered
    rw [stateOf, askedSince_eq h] at hanswered
    exact hanswered
  · rintro ⟨⟨q, hx⟩, hanswered⟩
    exact ⟨q, (attempt_of_answered h hanswered).trans (congrArg _ hx)⟩

end Attempt

/-! ## Applying plugins -/

theorem change_asks {f : Project → Except Fault Project}
    (hf : ∀ q, f p = .ok q → q.registry = p.registry) :
    Asks Project.asked p.asked [] (change f p) := by
  unfold change
  cases hq : f p with
  | ok q => exact (congrArg Registry.asked (hf q hq)).trans (List.append_nil _).symm
  | error e => exact ⟨[], List.nil_prefix, (List.append_nil _).symm⟩

theorem applyId_asks (id : String) (hopen : p.evaluated = false) :
    Asks Project.asked p.asked [] (applyId id p) := by
  rw [applyId_of_open hopen]
  unfold mark
  refine Asks.get_bind ?_
  split
  · refine Asks.quiet_bind (.set rfl) fun _ q _ => ?_
    refine (report_asks _ q).quiet_bind fun _ q' _ => ?_
    split
    · exact registering_asks (Registration.change_asks _ q'.registry)
    · exact .pure ()
  · exact .pure ()

/-- Marking an identifier on an open project changes the identifiers and the registry, and
asks nothing. -/
theorem applyId_returns (id : String) (hopen : p.evaluated = false)
    (hcheck : id = Plugin.lifecycleBase →
      id ∈ p.pluginIds ∨ Project.checkTask.name ∉ p.graph.names) :
    ∃ ids registry, applyId id p = .ok () { p with pluginIds := ids, registry } ∧
      registry.asked = p.asked := by
  obtain ⟨q, hq, hmarks⟩ := applyId_marks hopen hcheck
  have hasked : q.asked = p.asked :=
    ((applyId_asks id hopen).asked_of_ok hq).trans (List.append_nil _)
  obtain ⟨ids, registry, rfl⟩ : ∃ ids registry, q = { p with pluginIds := ids, registry } :=
    ⟨_, _, hmarks.kept⟩
  exact ⟨ids, registry, hq, hasked⟩

theorem createConfiguration_asks (c : Configuration) (p : Project) :
    Asks Project.asked p.asked [] (change (·.createConfiguration c) p) := by
  refine change_asks fun q hq => ?_
  unfold Project.createConfiguration at hq
  split at hq <;> cases hq
  rfl

theorem declareDependencies_asks (name : String) (coordinates : List String) (p : Project) :
    Asks Project.asked p.asked [] (change (·.declareDependencies name coordinates) p) := by
  refine change_asks fun q hq => ?_
  obtain ⟨_, -, hq⟩ := exists_of_bind_eq_ok hq
  cases hq
  rfl

theorem prepareAnalysis_asks (p : Project) :
    Asks Project.asked p.asked p.configQuestions (prepareAnalysis p) := by
  obtain ⟨registry, -, hasked, hprepare⟩ := prepareAnalysis_eq p
  let completed : Project := { p with options := p.completedOptions, registry }
  have hrest : Asks Project.asked completed.asked []
      ((do
        change (·.createConfiguration Project.additions)
        change (·.createConfiguration Project.analyser) : Configuring Unit) completed) :=
    (createConfiguration_asks _ completed).quiet_bind fun _ q _ =>
      createConfiguration_asks _ q
  rw [show completed.asked = p.asked ++ p.configQuestions from hasked] at hrest
  rw [hprepare, ← List.append_nil p.configQuestions]
  exact hrest.append

/-- Applying the variant plugin to a project without plugins and configurations returns,
and asks only about the conventional configuration file. -/
theorem applyPlugin_returns (hopen : p.evaluated = false)
    (happlied : p.applied = []) (hnone : p.configurations = []) :
    ∃ q, applyPlugin (.variantAnalysis 0) p = .ok () q ∧
      q.asked = p.asked ++ p.configQuestions := by
  let variant : Plugin := .variantAnalysis 0
  obtain ⟨ids, registry, hm, hasked⟩ :=
    applyId_returns variant.id hopen fun h => absurd h (by decide)
  let recorded : Project := Project.recording { p with pluginIds := ids, registry } variant
  have hfirst : applyOne variant p = .ok [.apply .analysis] recorded :=
    applyOne_of_new hm (by rw [Project.hasApplied, happlied]; rfl)
  have hrecorded : recorded.applied = [variant] := congrArg (· ++ [variant]) happlied
  obtain ⟨ids', registry', hm', hasked'⟩ :=
    applyId_returns (p := recorded) Plugin.analysis.id hopen
      fun h => absurd h (by decide)
  let prepared : Project :=
    Project.recording { recorded with pluginIds := ids', registry := registry' } .analysis
  have hfree : ¬prepared.analysisTaken := by
    rw [Project.analysisTaken, Project.configurationNames,
      show prepared.configurations = [] from hnone]
    exact not_or.2 ⟨List.not_mem_nil, List.not_mem_nil⟩
  obtain ⟨registry'', -, hprepare⟩ := prepareAnalysis_of_not_taken hfree
  have hsecond := applyOne_of_new hm' (by
    rw [Project.hasApplied, show ({ recorded with
      pluginIds := ids', registry := registry' } : Project).applied = [variant] from hrecorded]
    decide)
  rw [if_pos rfl, bind_of_ok hprepare] at hsecond
  have hprepared : prepared.asked = p.asked := hasked'.trans hasked
  obtain ⟨n, hn⟩ := exists_queueBound_eq p
  refine ⟨_, ?_, ((prepareAnalysis_asks prepared).asked_of_ok hprepare).trans ?_⟩
  · change answerQueue (queueBound p) [.apply variant] p = _
    rw [hn]
    refine (bind_of_ok hfirst _).trans ((bind_of_ok hsecond _).trans ?_)
    change answerQueue n [] _ = _
    rw [answerQueue_nil]
    rfl
  · rw [hprepared]
    rfl

end Configuring

namespace Description

variable {plugins : List Plugin} {p : Project} {ids : List String}

/-! ## Loading -/

/-- Marking identifiers on a project without tasks but that of all checks returns and asks
nothing. What it leaves is known from which identifiers were marked. -/
theorem applyIds_marks (ids : List String) (h : p.Configured plugins) :
    ∃ q, applyIds ids p = .ok () q ∧ q.Configured plugins ∧
      q = { p with pluginIds := q.pluginIds, registry := q.registry } ∧
      q.asked = p.asked ∧ ∀ id, id ∈ q.pluginIds ↔ id ∈ p.pluginIds ∨ id ∈ ids := by
  induction ids generalizing p with
  | nil => exact ⟨p, rfl, h, rfl, rfl, by simp⟩
  | cons id ids ih =>
      have hcheck : id = Plugin.lifecycleBase →
          id ∈ p.pluginIds ∨ Project.checkTask.name ∉ p.graph.names := by
        rintro rfl
        by_cases hid : Plugin.lifecycleBase ∈ p.pluginIds
        · exact .inl hid
        · have hnodes := h.graph
          rw [Project.hasPlugin_eq_false_iff.2 hid] at hnodes
          right
          rw [TaskGraph.names, TaskGraph.tasks, hnodes]
          exact List.not_mem_nil
      obtain ⟨p₁, hp₁, hmarks⟩ := Configuring.applyId_marks h.evaluated hcheck
      have hasked := (Configuring.applyId_asks id h.evaluated).asked_of_ok hp₁
      have h₁ := Configuring.applyId_leaves id h
      rw [hp₁] at h₁
      obtain ⟨q, hq, hconfigured, hkept, hquiet, hmem⟩ := ih h₁
      refine ⟨q, ?_, hconfigured, ?_, ?_, fun other => ?_⟩
      · rw [applyIds, bind_of_ok hp₁, hq]
      · rw [hkept, hmarks.kept]
      · rw [hquiet, hasked, List.append_nil]
      · rw [hmem, hmarks.mem_iff, List.mem_cons, or_assoc]

theorem declareField_asks (configuration : String) (v : Json.Value) (p : Project) :
    Asks Project.asked p.asked [] (declareField configuration v p) := by
  cases v with
  | list items =>
      simp only [declareField]
      cases texts ("dependencies." ++ configuration) items with
      | ok coordinates => exact Configuring.declareDependencies_asks _ coordinates p
      | error f => exact .throw f []
  | _ => exact .throw (.coordinatesNotAList configuration) []

theorem declareEach_asks (fields : Fields) (p : Project) :
    Asks Project.asked p.asked [] (declareEach fields p) := by
  induction fields generalizing p with
  | nil => exact .pure ()
  | cons field fields ih => exact (declareField_asks field.1 field.2 p).quiet_bind fun _ q _ => ih q

/-- However configuring ends, the conventional configuration file is all that was asked
for. -/
theorem asked_configure (ids : List String) (fields : Fields) (h : p.Configured [])
    (hnone : p.configurations = []) :
    (ended (configure ids fields p)).2.asked = p.asked ++ p.configQuestions := by
  obtain ⟨q, hq, hconfigured, hkept, hquiet, -⟩ := applyIds_marks ids h
  have hsame : q.configurations = [] ∧ q.configQuestions = p.configQuestions := by
    rw [hkept]
    exact ⟨hnone, rfl⟩
  obtain ⟨s, hs, hasked⟩ := Configuring.applyPlugin_returns hconfigured.evaluated
    hconfigured.applied hsame.1
  rw [hsame.2, hquiet] at hasked
  unfold configure
  rw [bind_of_ok hq, bind_of_ok hs, ← hasked]
  refine Asks.asked_ended ?_
  cases withDefault Shape.object fields "dependencies" [] with
  | error f => exact .throw f []
  | ok dependencies =>
      exact (declareEach_asks dependencies s).quiet_bind fun _ t _ =>
        Asks.get_bind (Configuring.report_asks _ t)

theorem attempt_configure (ids : List String) (fields : Fields) (h : p.Configured [])
    (hnone : p.configurations = []) :
    Configuring.attempt (configure ids fields) p =
      match p.configQuestions.findSome? p.denial with
      | some d => .error d
      | none => .ok (configure ids fields p) :=
  Configuring.attempt_of_asked (asked_configure ids fields h hnone)

end Description

end AnalysisPlan
