import AnalysisPlan.Proofs.LateOptions

/-!
# What the configurations of a project hold

A project is told what its configurations hold by calls, each of which is answered or
fails, and a call that fails tells it nothing (`ProjectCall.enters_make`). So after any calls
the configurations are those that the answered ones created, in that order, with what they
declared (`ProjectCall.enters_after`). Requests do not touch them once the plain analysis was
applied (`Configuring.answerQueue_holds`), which begins by creating two: that of the analyser
falls back to it until something is declared for it, under the options as they are by then
(`ProjectCall.coordinates_after`).
-/

namespace AnalysisPlan

namespace Configuration

theorem declare_nil (c : Configuration) : c.declare [] = c := by
  simp [declare]

theorem declare_declare (c : Configuration) (xs ys : List String) :
    (c.declare xs).declare ys = c.declare (xs ++ ys) := by
  simp [declare]

def declaring (name : String) (coordinates : List String) (c : Configuration) :
    Configuration :=
  if c.name = name then c.declare coordinates else c

@[simp] theorem declaring_name (name : String) (coordinates : List String)
    (c : Configuration) : (c.declaring name coordinates).name = c.name := by
  unfold declaring
  split <;> rfl

end Configuration

theorem eq_ok_of_ended {σ : Type} {r : EStateM.Result Fault σ Unit} (h : (ended r).1 = none) :
    r = .ok () (ended r).2 := by
  cases r with
  | ok _ s => rfl
  | error f s => cases h

/-- A call that may be made on a project: one on its configurations, new options, its
evaluation, or a request. -/
inductive ProjectCall where
  | declare (name : String) (coordinates : List String)
  | create (configuration : Configuration)
  | setOptions (options : AnalysisOptions)
  | evaluate
  | request (request : Request)
deriving Repr, DecidableEq

namespace ProjectCall

def make : ProjectCall → Configuring Unit
  | declare name coordinates => Configuring.change (·.declareDependencies name coordinates)
  | create c => Configuring.change (·.createConfiguration c)
  | setOptions options => modify fun p => { p with options }
  | evaluate => Configuring.evaluate
  | request r => Configuring.apply r

/-- The project after calls. A call that fails is followed by the next one, too. -/
def after (p : Project) : List ProjectCall → Project
  | [] => p
  | call :: calls => after (ended (call.make p)).2 calls

/-- Those of the calls that are answered, in their order. -/
def answered (p : Project) : List ProjectCall → List ProjectCall
  | [] => []
  | call :: calls =>
    match call.make p with
    | .ok _ q => call :: answered q calls
    | .error _ q => answered q calls

def declares (name : String) : ProjectCall → List String
  | declare target coordinates => if target = name then coordinates else []
  | _ => []

def creates? : ProjectCall → Option String
  | create c => some c.name
  | _ => none

/-- What calls declare for the configuration of a name, in their order. -/
def declared (name : String) (calls : List ProjectCall) : List String :=
  calls.flatMap (declares name)

/-- The names of the configurations that calls create, in their order. -/
def created (calls : List ProjectCall) : List String := calls.filterMap creates?

/-- What a call makes of the configurations where it is answered. -/
def enter (configurations : List Configuration) : ProjectCall → List Configuration
  | declare name coordinates => configurations.map (·.declaring name coordinates)
  | create c => configurations ++ [c]
  | _ => configurations

variable {p q : Project} {call : ProjectCall} {calls made : List ProjectCall} {name : String}
  {configurations : List Configuration} {c : Configuration}

theorem declared_append (name : String) (calls calls' : List ProjectCall) :
    declared name (calls ++ calls') = declared name calls ++ declared name calls' :=
  List.flatMap_append

theorem created_append (calls calls' : List ProjectCall) :
    created (calls ++ calls') = created calls ++ created calls' := List.filterMap_append

theorem names_enter (call : ProjectCall) (configurations : List Configuration) :
    (enter configurations call).map (·.name) =
      configurations.map (·.name) ++ created [call] := by
  cases call <;> simp [enter, created, creates?, Function.comp_def]

/-- The first configuration of a name stays the first, with what a call declares for it. -/
theorem find?_enter (h : configurations.find? (·.name == name) = some c)
    (call : ProjectCall) :
    (enter configurations call).find? (·.name == name) =
      some (c.declare (call.declares name)) := by
  cases call with
  | declare target coordinates =>
      have hc : c.name = name := by simpa using List.find?_some h
      have hdeclaring : c.declaring target coordinates =
          c.declare (declares name (.declare target coordinates)) := by
        rw [Configuration.declaring, declares, hc]
        by_cases htarget : name = target
        · rw [if_pos htarget, if_pos htarget.symm]
        · rw [if_neg htarget, if_neg (Ne.symm htarget), c.declare_nil]
      rw [← hdeclaring, enter, List.find?_map]
      simp only [Function.comp_def, Configuration.declaring_name, h, Option.map_some]
  | create c' => simp [enter, declares, c.declare_nil, List.find?_append, h]
  | _ => simp [enter, declares, c.declare_nil, h]

theorem names_foldl_enter (made : List ProjectCall) (configurations : List Configuration) :
    (made.foldl enter configurations).map (·.name) =
      configurations.map (·.name) ++ created made := by
  induction made generalizing configurations with
  | nil => simp [created]
  | cons call made ih =>
      rw [List.foldl_cons, ih, names_enter, List.append_assoc, ← created_append]
      rfl

theorem find?_foldl_enter (h : configurations.find? (·.name == name) = some c)
    (made : List ProjectCall) :
    (made.foldl enter configurations).find? (·.name == name) =
      some (c.declare (declared name made)) := by
  induction made generalizing configurations c with
  | nil => rw [List.foldl_nil, h, declared, List.flatMap_nil, c.declare_nil]
  | cons call made ih =>
      rw [List.foldl_cons, ih (find?_enter h call), Configuration.declare_declare]
      rfl

end ProjectCall

namespace Project

/-- `q` has the configurations of `p`, and its plugins at least. -/
structure Holds (p q : Project) : Prop where
  configurations : q.configurations = p.configurations
  applied : p.applied <+: q.applied

variable {p q s : Project} {name : String}

theorem Holds.of_kept (h : q.configurations = p.configurations ∧ q.applied = p.applied) :
    p.Holds q :=
  ⟨h.1, h.2 ▸ List.prefix_rfl⟩

theorem Holds.refl (p : Project) : p.Holds p := .of_kept ⟨rfl, rfl⟩

theorem Holds.trans (hpq : p.Holds q) (hqs : q.Holds s) : p.Holds s :=
  ⟨hqs.configurations.trans hpq.configurations, hpq.applied.trans hqs.applied⟩

theorem Finalizes.kept {plugins : List Plugin} (h : p.Finalizes plugins q) :
    q.configurations = p.configurations ∧ q.applied = p.applied := by
  unfold Finalizes at h
  rw [h]
  exact ⟨rfl, rfl⟩

theorem hasApplied_of_prefix (h : p.applied <+: q.applied) {id : String}
    (hid : p.hasApplied id = true) : q.hasApplied id = true := by
  obtain ⟨a, ha, hid⟩ := hasApplied_iff.1 hid
  exact hasApplied_iff.2 ⟨a, h.subset ha, hid⟩

theorem find?_eq_none_of_not_mem (h : name ∉ p.configurationNames) :
    p.configurations.find? (·.name == name) = none := by
  rw [List.find?_eq_none]
  intro c hc heq
  exact h (List.mem_map.2 ⟨c, hc, by simpa using heq⟩)

theorem configuration_of_not_mem (h : name ∉ p.configurationNames) :
    p.configuration name = .error (.configurationNotFound name) := by
  rw [configuration, find?_eq_none_of_not_mem h]

theorem exists_configuration_of_mem (h : name ∈ p.configurationNames) :
    ∃ c, p.configuration name = .ok c := by
  obtain ⟨c, hc, hname⟩ := List.mem_map.1 h
  unfold configuration
  cases hfind : p.configurations.find? (·.name == name) with
  | some c => exact ⟨c, rfl⟩
  | none => exact absurd (by simpa using hname) (List.find?_eq_none.1 hfind c hc)

theorem coordinates_eq {c : Configuration}
    (h : p.configurations.find? (·.name == name) = some c) :
    p.coordinates name = .ok (p.resolvedOf c) := by
  rw [coordinates, configuration, h]
  rfl

end Project

namespace Configuring

variable {p q : Project} {r : Request}

/-- A request that fails leaves the configurations as they were if the plain analysis was
applied before, and records no plugin. -/
theorem kept_of_answer_error {f : Fault}
    (happlied : ∀ plugin, r = .apply plugin → p.hasApplied Plugin.analysis.id = true)
    (h : answer r p = .error f q) :
    q.configurations = p.configurations ∧ q.applied = p.applied := by
  cases hopen : p.evaluated with
  | true =>
      rw [answer_of_evaluated hopen] at h
      cases h
      exact ⟨rfl, rfl⟩
  | false =>
      by_cases hcheck : r.id = Plugin.lifecycleBase →
          r.id ∈ p.pluginIds ∨ Project.checkTask.name ∉ p.graph.names
      · obtain ⟨m, hid, hm⟩ := applyId_marks hopen hcheck
        have hfree : r = .apply .analysis → p.hasApplied Plugin.analysis.id = false →
            ¬p.analysisTaken := by
          intro hr hnew
          rw [happlied _ hr] at hnew
          cases hnew
        obtain ⟨brought, q', hrun, -⟩ := answers_of_marks hopen hid hm hfree
        cases hrun.symm.trans h
      · simp only [Classical.not_imp, not_or, not_not] at hcheck
        obtain ⟨hbase, hnew, htaken⟩ := hcheck
        obtain ⟨registry, -, hfail⟩ := applyId_of_check hopen (hbase ▸ hnew) htaken
        rw [answer_of_error (hbase ▸ hfail)] at h
        cases h
        exact ⟨rfl, rfl⟩

/-- Whether it is answered or fails, a request leaves the configurations as they were if
the plain analysis was applied before. -/
theorem answer_holds
    (happlied : ∀ plugin, r = .apply plugin → p.hasApplied Plugin.analysis.id = true) :
    p.Holds (ended (answer r p)).2 := by
  cases h : answer r p with
  | error f q => exact .of_kept (kept_of_answer_error happlied h)
  | ok brought q =>
      rcases (answer_answered h).recorded with
        ⟨-, hrecorded, -, hconfigurations, -⟩ | ⟨plugin, hr, hnew, -, hrecorded, -, hkept⟩
      · exact .of_kept ⟨hconfigurations, hrecorded⟩
      · refine ⟨hkept ?_, hrecorded ▸ List.prefix_append _ _⟩
        rintro rfl
        rw [happlied _ hr] at hnew
        cases hnew

theorem answerQueue_holds (n : Nat) (requests : List Request)
    (happlied : p.hasApplied Plugin.analysis.id = true) :
    p.Holds (ended (answerQueue n requests p)).2 := by
  induction n generalizing requests p with
  | zero => cases requests <;> exact .refl p
  | succ n ih =>
      cases requests with
      | nil => exact .refl p
      | cons r rest =>
          have hone : p.Holds (ended (answer r p)).2 := answer_holds fun _ _ => happlied
          rw [answerQueue_succ_cons]
          cases hrun : answer r p with
          | error f q =>
              rw [bind_of_error hrun]
              rwa [hrun] at hone
          | ok brought q =>
              rw [bind_of_ok hrun]
              rw [hrun] at hone
              exact hone.trans (ih _ (Project.hasApplied_of_prefix hone.applied happlied))

/-- Marking an identifier has nothing to do with the plugins. -/
theorem apply_mark_kept (id : String) (p : Project) :
    (ended (apply (.mark id) p)).2.configurations = p.configurations ∧
      (ended (apply (.mark id) p)).2.applied = p.applied := by
  cases h : answer (.mark id) p with
  | error f q =>
      rw [apply_of_error h]
      exact kept_of_answer_error (by simp) h
  | ok brought q =>
      rcases (answer_answered h).recorded with
        ⟨rfl, hrecorded, -, hconfigurations, -⟩ | ⟨plugin, hr, -⟩
      · rw [apply_of_nothing h]
        exact ⟨hconfigurations, hrecorded⟩
      · cases hr

theorem evaluate_kept (p : Project) :
    (ended (evaluate p)).2.configurations = p.configurations ∧
      (ended (evaluate p)).2.applied = p.applied := by
  cases h : p.evaluated with
  | true =>
      rw [evaluate_of_evaluated h]
      exact ⟨rfl, rfl⟩
  | false =>
      rw [evaluate_of_open h]
      cases hrun : finalizeEach p.applied { p with evaluated := true } with
      | ok _ q =>
          rw [bind_of_ok hrun]
          exact (finalizes_of_finalizeEach hrun).kept
      | error f q =>
          obtain ⟨_, _, _, _, -, -, -, hq⟩ := exists_of_finalizeEach_error hrun
          rw [bind_of_error hrun]
          exact hq.kept

end Configuring

namespace Project

/-- A project once a call was answered that does no more than change configurations. -/
def entering (p : Project) (call : ProjectCall) : Project :=
  { p with configurations := ProjectCall.enter p.configurations call }

/-- `q` has the configurations that answered calls make of those of `p`: their names are
still distinct, nothing was declared for others, and no plugin was lost. -/
structure Enters (made : List ProjectCall) (p q : Project) : Prop where
  configurations : q.configurations = made.foldl ProjectCall.enter p.configurations
  nodup : p.configurationNames.Nodup → q.configurationNames.Nodup
  known : ∀ name ∉ q.configurationNames, ProjectCall.declared name made = []
  applied : p.applied <+: q.applied

variable {p q s : Project} {made made' : List ProjectCall}

theorem entering_names (p : Project) (call : ProjectCall) :
    (p.entering call).configurationNames =
      p.configurationNames ++ ProjectCall.created [call] :=
  call.names_enter p.configurations

theorem Enters.names_eq (h : p.Enters made q) :
    q.configurationNames = p.configurationNames ++ ProjectCall.created made := by
  rw [configurationNames, h.configurations, ProjectCall.names_foldl_enter]
  rfl

theorem Enters.trans (hpq : p.Enters made q) (hqs : q.Enters made' s) :
    p.Enters (made ++ made') s where
  configurations := by rw [hqs.configurations, hpq.configurations, List.foldl_append]
  nodup := hqs.nodup ∘ hpq.nodup
  known name hname := by
    have hnew : name ∉ q.configurationNames := fun hmem =>
      hname (hqs.names_eq ▸ List.mem_append_left _ hmem)
    rw [ProjectCall.declared_append]
    exact List.append_eq_nil_iff.2 ⟨hpq.known name hnew, hqs.known name hname⟩
  applied := hpq.applied.trans hqs.applied

theorem Enters.refl (p : Project) : p.Enters [] p := ⟨rfl, id, fun _ _ => rfl, List.prefix_rfl⟩

/-- Calls that neither declare nor create anything enter nothing. -/
theorem Holds.enters (h : p.Holds q)
    (henter : ∀ configurations, made.foldl ProjectCall.enter configurations = configurations)
    (hdeclared : ∀ name, ProjectCall.declared name made = []) : p.Enters made q where
  configurations := h.configurations.trans (henter _).symm
  nodup hp := by rwa [configurationNames, h.configurations]
  known name _ := hdeclared name
  applied := h.applied

end Project

namespace ProjectCall

variable {p q : Project} {call : ProjectCall} {calls : List ProjectCall}

theorem make_declare_of_not_mem {name : String} (h : name ∉ p.configurationNames)
    (coordinates : List String) :
    (declare name coordinates).make p = .error (.configurationNotFound name) p := by
  simp only [make, Configuring.change, Project.declareDependencies,
    Project.configuration_of_not_mem h]
  rfl

theorem make_declare_of_mem {name : String} (h : name ∈ p.configurationNames)
    (coordinates : List String) :
    (declare name coordinates).make p = .ok () (p.entering (declare name coordinates)) := by
  obtain ⟨c, hc⟩ := Project.exists_configuration_of_mem h
  simp only [make, Configuring.change, Project.declareDependencies, hc]
  rfl

theorem make_create_of_mem {c : Configuration} (h : c.name ∈ p.configurationNames) :
    (create c).make p = .error (.configurationExists c.name) p :=
  Configuring.createConfiguration_of_mem h

theorem make_create_of_not_mem {c : Configuration} (h : c.name ∉ p.configurationNames) :
    (create c).make p = .ok () (p.entering (create c)) :=
  Configuring.createConfiguration_of_not_mem h

theorem answered_of_ok (h : call.make p = .ok () q) : answered p [call] = [call] := by
  rw [answered, h]
  rfl

theorem answered_of_error {f : Fault} (h : call.make p = .error f q) :
    answered p [call] = [] := by
  rw [answered, h]
  rfl

theorem answered_cons (p : Project) (call : ProjectCall) (calls : List ProjectCall) :
    answered p (call :: calls) =
      answered p [call] ++ answered (ended (call.make p)).2 calls := by
  cases h : call.make p with
  | ok _ q =>
      rw [answered_of_ok h, answered, h]
      rfl
  | error f q =>
      rw [answered_of_error h, answered, h]
      rfl

/-- Where a call keeps the configurations and the plugins, it enters nothing, answered or
not, if it neither declares nor creates anything. -/
theorem enters_of_holds (henter : ∀ configurations, enter configurations call = configurations)
    (hdeclares : ∀ name, call.declares name = []) (h : p.Holds (ended (call.make p)).2) :
    p.Enters (answered p [call]) (ended (call.make p)).2 := by
  cases hrun : call.make p with
  | ok _ q =>
      rw [hrun] at h
      rw [answered_of_ok hrun]
      exact h.enters henter fun name => List.append_eq_nil_iff.2 ⟨hdeclares name, rfl⟩
  | error f q =>
      rw [hrun] at h
      rw [answered_of_error hrun]
      exact h.enters (fun _ => rfl) fun _ => rfl

theorem enters_declare (name : String) (coordinates : List String) :
    p.Enters (answered p [declare name coordinates])
      (ended ((declare name coordinates).make p)).2 := by
  by_cases hname : name ∈ p.configurationNames
  · have hrun := make_declare_of_mem hname coordinates
    have hnames := p.entering_names (declare name coordinates)
    rw [show created [declare name coordinates] = [] from rfl, List.append_nil] at hnames
    rw [answered_of_ok hrun, hrun]
    refine ⟨rfl, fun hp => ?_, fun other hother => ?_, List.prefix_rfl⟩
    · exact hnames.symm ▸ hp
    · have hne : name ≠ other := fun heq => hother (hnames.symm ▸ heq ▸ hname)
      rw [declared, List.flatMap_singleton, declares, if_neg hne]
  · have hrun := make_declare_of_not_mem hname coordinates
    rw [answered_of_error hrun, hrun]
    exact .refl p

theorem enters_create (c : Configuration) :
    p.Enters (answered p [create c]) (ended ((create c).make p)).2 := by
  by_cases hname : c.name ∈ p.configurationNames
  · have hrun := make_create_of_mem hname
    rw [answered_of_error hrun, hrun]
    exact .refl p
  · have hrun := make_create_of_not_mem hname
    rw [answered_of_ok hrun, hrun]
    refine ⟨rfl, fun hp => ?_, fun _ _ => rfl, List.prefix_rfl⟩
    change (p.entering (create c)).configurationNames.Nodup
    rw [p.entering_names]
    exact hp.append (List.nodup_singleton _) (List.disjoint_singleton.2 hname)

/-- One call, answered or not, enters what is answered of it. Before the plain analysis was
applied it must not ask for a plugin. -/
theorem enters_make (hcall : p.hasApplied Plugin.analysis.id = true ∨
      ∀ plugin, call ≠ .request (.apply plugin)) :
    p.Enters (answered p [call]) (ended (call.make p)).2 := by
  cases call with
  | declare name coordinates => exact enters_declare name coordinates
  | create c => exact enters_create c
  | setOptions options =>
      exact enters_of_holds (fun _ => rfl) (fun _ => rfl) (.of_kept ⟨rfl, rfl⟩)
  | evaluate =>
      exact enters_of_holds (fun _ => rfl) (fun _ => rfl) (.of_kept (Configuring.evaluate_kept p))
  | request r =>
      refine enters_of_holds (fun _ => rfl) (fun _ => rfl) ?_
      cases r with
      | mark id => exact .of_kept (Configuring.apply_mark_kept id p)
      | apply plugin =>
          exact Configuring.answerQueue_holds _ _ (hcall.resolve_right fun h => h plugin rfl)

/-- Calls enter what is answered of them. Unless the plain analysis was applied before,
none of them may ask for a plugin. -/
theorem enters_after (hcalls : p.hasApplied Plugin.analysis.id = true ∨
      ∀ plugin, ProjectCall.request (.apply plugin) ∉ calls) :
    p.Enters (answered p calls) (after p calls) := by
  induction calls generalizing p with
  | nil => exact .refl p
  | cons call calls ih =>
      have hone : p.Enters (answered p [call]) (ended (call.make p)).2 :=
        enters_make (hcalls.imp_right fun h plugin hcall => h plugin (hcall ▸ List.mem_cons_self))
      rw [answered_cons, after]
      refine hone.trans (ih (hcalls.imp (fun h => ?_) fun h plugin hmem => ?_))
      · exact Project.hasApplied_of_prefix hone.applied h
      · exact h plugin (List.mem_cons_of_mem _ hmem)

theorem applied_make (hcall : ∀ plugin, call ≠ .request (.apply plugin)) (p : Project) :
    (ended (call.make p)).2.applied = p.applied := by
  cases call with
  | declare name coordinates =>
      by_cases hname : name ∈ p.configurationNames
      · rw [make_declare_of_mem hname]
        rfl
      · rw [make_declare_of_not_mem hname]
        rfl
  | create c =>
      by_cases hname : c.name ∈ p.configurationNames
      · rw [make_create_of_mem hname]
        rfl
      · rw [make_create_of_not_mem hname]
        rfl
  | setOptions options => rfl
  | evaluate => exact (Configuring.evaluate_kept p).2
  | request r =>
      cases r with
      | mark id => exact (Configuring.apply_mark_kept id p).2
      | apply plugin => exact absurd rfl (hcall plugin)

/-- Without a request for a plugin, none is recorded. -/
theorem applied_after (hcalls : ∀ plugin, ProjectCall.request (.apply plugin) ∉ calls) :
    (after p calls).applied = p.applied := by
  induction calls generalizing p with
  | nil => rfl
  | cons call calls ih =>
      rw [after, ih fun plugin hmem => hcalls plugin (List.mem_cons_of_mem _ hmem)]
      exact applied_make (fun plugin hcall => hcalls plugin (hcall ▸ List.mem_cons_self)) p

end ProjectCall

namespace Configuring

variable {p q : Project}

/-- The plain analysis returns only where its configurations are new, and then creates
them. -/
theorem analysis_creates {n : Nat} (hopen : p.evaluated = false)
    (hnew : p.hasApplied Plugin.analysis.id = false)
    (h : (applyOne .analysis >>= answerQueue n) p = .ok () q) :
    ¬p.analysisTaken ∧ q.hasApplied Plugin.analysis.id = true ∧
      p.Enters [.create Project.additions, .create Project.analyser] q := by
  obtain ⟨registry, -, hid⟩ :=
    applyId_marking hopen (by decide : Plugin.analysis.id ≠ Plugin.lifecycleBase)
  by_cases htaken : p.analysisTaken
  · obtain ⟨_, -, hfail⟩ := applyOne_of_taken hid hnew htaken
    rw [bind_of_error hfail] at h
    cases h
  · let recorded : Project :=
      { p with pluginIds := p.marking [Plugin.analysis.id], registry }.recording .analysis
    obtain ⟨registry', -, hprepare⟩ := prepareAnalysis_of_not_taken (p := recorded) htaken
    have hone := (applyOne_of_new hid hnew).trans (bind_of_ok hprepare _)
    rw [bind_of_ok hone, Project.brings, answerQueue_nil] at h
    cases h
    refine ⟨htaken, by simp [recorded, Project.hasApplied, Project.recording],
      List.append_cons _ _ _, fun hp => ?_, fun _ _ => rfl, List.prefix_append _ _⟩
    obtain ⟨hadditions, hanalyser⟩ := not_or.1 htaken
    change ((p.configurations ++ [Project.additions, Project.analyser]).map (·.name)).Nodup
    rw [List.map_append]
    refine hp.append (by decide) fun name hname hnew => ?_
    rcases List.mem_pair.1 hnew with rfl | rfl
    · exact hadditions hname
    · exact hanalyser hname

/-- The variant plugin, applied to a project without plugins, returns only where the
configurations of the plain analysis are new, and then creates them. -/
theorem variantAnalysis_creates {serial : Nat} (happlied : p.applied = [])
    (h : applyPlugin (.variantAnalysis serial) p = .ok () q) :
    ¬p.analysisTaken ∧ q.hasApplied Plugin.analysis.id = true ∧
      p.Enters [.create Project.additions, .create Project.analyser] q := by
  let plugin := Plugin.variantAnalysis serial
  have hopen : p.evaluated = false := by
    by_contra hevaluated
    cases h.symm.trans (apply_of_evaluated (by simpa using hevaluated) (.apply plugin))
  have hnone : ∀ id, p.hasApplied id = false := fun id => by simp [Project.hasApplied, happlied]
  obtain ⟨registry, -, hid⟩ := applyId_marking hopen
    (show plugin.id ≠ Plugin.lifecycleBase from
      (by decide : (Plugin.variantAnalysis 0).id ≠ Plugin.lifecycleBase))
  obtain ⟨n, hn⟩ := exists_apply_eq (.apply plugin) p
  let recorded : Project :=
    { p with pluginIds := p.marking [plugin.id], registry }.recording plugin
  have hnew : recorded.hasApplied Plugin.analysis.id = false := by
    rw [Project.hasApplied_recording, Bool.or_eq_false_iff]
    exact ⟨hnone _, (by decide : ((Plugin.variantAnalysis 0).id == Plugin.analysis.id) = false)⟩
  have hrest : answerQueue (n + 1) [.apply .analysis] recorded = .ok () q :=
    (bind_of_ok (applyOne_of_new hid (hnone _)) _).symm.trans (hn.symm.trans h)
  rw [answerQueue_singleton] at hrest
  obtain ⟨hfree, hanalysis, hcreated⟩ := analysis_creates (p := recorded) hopen hnew hrest
  have hrecorded : p.Enters [] recorded :=
    ⟨rfl, id, fun _ _ => rfl, List.prefix_append _ _⟩
  exact ⟨hfree, hanalysis, hrecorded.trans hcreated⟩

end Configuring

namespace ProjectCall

/-- A configuration that was created empty holds what calls declared for it since, or its
fallback. -/
theorem coordinates_of_enters {p q : Project} {c : Configuration} {made : List ProjectCall}
    (h : p.Enters made q) (hc : p.configurations.find? (·.name == c.name) = some c)
    (hempty : c.declared = []) :
    q.coordinates c.name = .ok (if declared c.name made = [] then
      c.fallback.coordinatesFor q.options.toolVersion else declared c.name made) := by
  have hfind := find?_foldl_enter hc made
  rw [← h.configurations] at hfind
  rw [Project.coordinates_eq hfind, Project.resolvedOf, Configuration.resolved,
    Configuration.declare, hempty, List.nil_append]
  simp only [List.isEmpty_iff]

/-- After any calls on a project that the variant plugin was applied to, whether they were
answered or failed, the analyser's configuration holds what was declared for it, and the
analyser in the version chosen by then where nothing was; that of the additions holds what
was declared for it. The configurations are listed in the order of their creation, each once,
and a call that declares for an unknown one or creates a known one fails and changes
nothing. -/
theorem coordinates_after (p p₁ : Project) (before later : List ProjectCall) (serial : Nat)
    (hconfigurations : p.configurations = []) (happlied : p.applied = [])
    (hbefore : ∀ plugin, ProjectCall.request (.apply plugin) ∉ before)
    (hreturned :
      Configuring.applyPlugin (.variantAnalysis serial) (after p before) = .ok () p₁) :
    let q := after p₁ later
    let made := answered p before ++ answered p₁ later
    q.coordinates Task.analyserConfiguration =
        .ok (if declared Task.analyserConfiguration made = [] then
          [analyserCoordinate q.options.toolVersion]
        else declared Task.analyserConfiguration made) ∧
      q.coordinates Task.additionsConfiguration =
        .ok (declared Task.additionsConfiguration made) ∧
      q.configurationNames = created (answered p before) ++
        [Task.additionsConfiguration, Task.analyserConfiguration] ++
        created (answered p₁ later) ∧
      q.configurationNames.Nodup ∧
      (∀ name coordinates, name ∉ q.configurationNames →
        (declare name coordinates).make q = .error (.configurationNotFound name) q) ∧
      ∀ c, c.name ∈ q.configurationNames →
        (create c).make q = .error (.configurationExists c.name) q := by
  intro q made
  have hbegun : p.Enters (answered p before) (after p before) := enters_after (.inr hbefore)
  obtain ⟨hfree, hanalysis, hcreated⟩ :=
    Configuring.variantAnalysis_creates ((applied_after hbefore).trans happlied) hreturned
  have hrest : p₁.Enters (answered p₁ later) q := enters_after (.inl hanalysis)
  have hall : p.Enters _ q := (hbegun.trans hcreated).trans hrest
  -- Neither of the two was there before, so nothing was declared for them by then.
  have hdeclared : ∀ name ∉ (after p before).configurationNames,
      declared name made = declared name (answered p₁ later) := by
    intro name hname
    rw [declared_append, hbegun.known name hname, List.nil_append]
  have hholds : ∀ c ∈ [Project.additions, Project.analyser],
      q.coordinates c.name = .ok (if declared c.name made = [] then
        c.fallback.coordinatesFor q.options.toolVersion else declared c.name made) := by
    intro c hc
    have hnew : c.name ∉ (after p before).configurationNames := by
      rcases List.mem_pair.1 hc with rfl | rfl
      · exact fun hname => hfree (.inl hname)
      · exact fun hname => hfree (.inr hname)
    have hfind : p₁.configurations.find? (·.name == c.name) = some c := by
      rw [hcreated.configurations.trans (List.append_cons _ _ _).symm, List.find?_append,
        Project.find?_eq_none_of_not_mem hnew]
      rcases List.mem_pair.1 hc with rfl | rfl <;> decide
    rw [hdeclared _ hnew]
    exact coordinates_of_enters hrest hfind (by rcases List.mem_pair.1 hc with rfl | rfl <;> rfl)
  refine ⟨hholds _ (List.mem_pair.2 (.inr rfl)), ?_, ?_, ?_, ?_, ?_⟩
  · refine (hholds _ (List.mem_pair.2 (.inl rfl))).trans (congrArg _ ?_)
    split
    next hnone => exact hnone.symm
    next => rfl
  · rw [hall.names_eq, Project.configurationNames, hconfigurations, created_append,
      created_append]
    rfl
  · exact hall.nodup (by simp [Project.configurationNames, hconfigurations])
  · exact fun name coordinates hname => make_declare_of_not_mem hname coordinates
  · exact fun c hname => make_create_of_mem hname

theorem coordinates_after_custom :
    let p := Project.fresh "app" "/project" none fun _ => true
    let before := [create { name := "tools" }, declare "detekt" ["cli:0"], declare "tools" ["t:1"]]
    let later := [declare "detekt" [], create { name := "tools" }, evaluate,
      declare "detektPlugins" ["rules:1"], declare "unknown" ["rules:2"],
      setOptions { toolVersion := some "1.11.0" }, evaluate, declare "detektPlugins" ["rules:3"]]
    let p₁ := (ended (Configuring.applyPlugin (.variantAnalysis 0) (after p before))).2
    let q := after p₁ later
    (∀ plugin, ProjectCall.request (.apply plugin) ∉ before) ∧
      q.coordinates "detekt" = .ok ["io.gitlab.arturbosch.detekt:detekt-cli:1.11.0"] ∧
      q.coordinates "detektPlugins" = .ok ["rules:1", "rules:3"] ∧
      q.configurationNames = ["tools", "detektPlugins", "detekt"] ∧
      (create { name := "detekt" }).make q = .error (.configurationExists "detekt") q := by
  intro p before later p₁ q
  have hbefore : ∀ plugin, ProjectCall.request (.apply plugin) ∉ before := by simp [before]
  have hreturned :
      Configuring.applyPlugin (.variantAnalysis 0) (after p before) = .ok () p₁ := by
    have hnone : (ended (Configuring.applyPlugin (.variantAnalysis 0) (after p before))).1 =
        none := by decide +kernel
    exact eq_ok_of_ended hnone
  obtain ⟨hanalyser, hadditions, hnames, -, -, hcreate⟩ :=
    coordinates_after p p₁ before later 0 rfl rfl hbefore hreturned
  have hcli : declared Task.analyserConfiguration
      (answered p before ++ answered p₁ later) = [] := by decide +kernel
  have hrules : declared Task.additionsConfiguration
      (answered p before ++ answered p₁ later) = ["rules:1", "rules:3"] := by decide +kernel
  have hversion : analyserCoordinate (after p₁ later).options.toolVersion =
      "io.gitlab.arturbosch.detekt:detekt-cli:1.11.0" := by decide +kernel
  have hcreated : created (answered p before) = ["tools"] ∧ created (answered p₁ later) = [] := by
    decide +kernel
  rw [if_pos hcli, hversion] at hanalyser
  rw [hrules] at hadditions
  rw [hcreated.1, hcreated.2] at hnames
  have hknown : "detekt" ∈ (after p₁ later).configurationNames := by
    rw [hnames]
    decide
  exact ⟨hbefore, hanalyser, hadditions, hnames, hcreate { name := "detekt" } hknown⟩

end ProjectCall

end AnalysisPlan
