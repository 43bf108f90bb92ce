import AnalysisPlan.Android.Variants
import AnalysisPlan.Proofs.Thinning
import Mathlib.Data.List.Forall2

/-!
# The variants that an Android project lists

A project lists one primary variant for every combination of flavors and every build type
(`AndroidOptions.lists_variants`). Its test variants carry its build type and its flavor,
so rules that name these ignore them together with it or not at all: of the test variants
of a primary one that is kept, only those are left out that are named themselves
(`AndroidOptions.Lists.filter_secondaries`).
-/

namespace AnalysisPlan

namespace AndroidOptions

/-- A primary variant is what is listed for a combination of flavors and a build type. It
and its test variants carry the build type and the name of the flavors. Where code is
tested at all there is one variant for unit tests, and for the build type that is tested on
devices also one for tests on them. -/
structure Lists (a : AndroidOptions) (tested : Bool) (choice : List Flavor × String)
    (v : PrimaryVariant) : Prop where
  kind : v.kind = .production
  buildType : v.buildType = choice.2
  flavor : v.flavor = combinedName choice.1
  tests : ∀ w ∈ v.secondaries,
    w.kind ≠ .production ∧ w.buildType = v.buildType ∧ w.flavor = v.flavor
  unitTests : v.secondaries.countP (·.kind = .unitTest) = if tested then 1 else 0
  androidTests : v.secondaries.countP (·.kind = .androidTest) =
    if tested ∧ choice.2 = a.testBuildType then 1 else 0

variable {a : AndroidOptions} {d : Directories} {tested : Bool} {vs : List PrimaryVariant}

theorem kind_ne_production_of_mem_testKinds {buildType : String} {kind : VariantKind}
    (h : kind ∈ a.testKinds buildType) : kind ≠ .production := by
  unfold testKinds at h
  rintro rfl
  split at h <;> simp at h

theorem count_testKinds (a : AndroidOptions) (buildType : String) :
    (a.testKinds buildType).count .unitTest = 1 ∧
      (a.testKinds buildType).count .androidTest =
        if buildType = a.testBuildType then 1 else 0 := by
  unfold testKinds
  split <;> decide

/-- A test variant of a primary one is that of one of its roles, and sees what the primary
one sees. -/
theorem exists_of_mem_secondaries {flavors : List Flavor} {buildType : String} {w : Variant}
    (h : w ∈ (a.primaryVariant d tested flavors buildType).secondaries) :
    ∃ kind ∈ a.testKinds buildType,
      w = variantOf d kind flavors buildType
        ((a.primaryVariant d tested flavors buildType).name ++ kind.nameSuffix)
        (a.primaryVariant d tested flavors buildType).classpath := by
  cases tested with
  | false => cases h
  | true =>
      obtain ⟨kind, hkind, rfl⟩ := List.mem_map.1 h
      exact ⟨kind, hkind, rfl⟩

theorem countP_secondaries (a : AndroidOptions) (d : Directories) (tested : Bool)
    (flavors : List Flavor) (buildType : String) (kind : VariantKind) :
    (a.primaryVariant d tested flavors buildType).secondaries.countP (·.kind = kind) =
      if tested then (a.testKinds buildType).count kind else 0 := by
  cases tested with
  | false => rfl
  | true =>
      have hroles : (a.primaryVariant d true flavors buildType).secondaries.map (·.kind) =
          a.testKinds buildType := by
        simp [primaryVariant, variantOf, Function.comp_def]
      rw [if_pos rfl, ← hroles, List.count, List.countP_map]
      rfl

theorem lists_primaryVariant (a : AndroidOptions) (d : Directories) (tested : Bool)
    (choice : List Flavor × String) :
    a.Lists tested choice (a.primaryVariant d tested choice.1 choice.2) := by
  obtain ⟨hunit, handroid⟩ := a.count_testKinds choice.2
  constructor
  · rfl
  · rfl
  · rfl
  · intro w hw
    obtain ⟨kind, hkind, rfl⟩ := exists_of_mem_secondaries hw
    exact ⟨kind_ne_production_of_mem_testKinds hkind, rfl, rfl⟩
  · rw [countP_secondaries, hunit]
  · rw [countP_secondaries, handroid, ite_and]

theorem variants_eq_ok_iff :
    a.variants d tested = .ok vs ↔
      ∃ combinations, a.flavorCombinations = .ok combinations ∧
        vs = (combinations.product a.effectiveBuildTypes).map
          fun choice => a.primaryVariant d tested choice.1 choice.2 := by
  have hlist : ∀ combinations : List (List Flavor),
      (combinations.flatMap fun flavors =>
        a.effectiveBuildTypes.map (a.primaryVariant d tested flavors)) =
      (combinations.product a.effectiveBuildTypes).map
        fun choice => a.primaryVariant d tested choice.1 choice.2 := by
    intro combinations
    simp only [List.product, List.map_flatMap, List.map_map, Function.comp_def]
  unfold variants
  cases a.flavorCombinations with
  | error f => simp [Except.map]
  | ok combinations => simp [Except.map, hlist, eq_comm]

/-- There is one primary variant for every combination of flavors and every build type, in
this order. -/
theorem lists_variants (h : a.variants d tested = .ok vs) :
    ∃ combinations, a.flavorCombinations = .ok combinations ∧
      List.Forall₂ (a.Lists tested) (combinations.product a.effectiveBuildTypes) vs := by
  obtain ⟨combinations, hcombinations, rfl⟩ := variants_eq_ok_iff.1 h
  refine ⟨combinations, hcombinations, ?_⟩
  rw [List.forall₂_map_right_iff, List.forall₂_same]
  exact fun choice _ => a.lists_primaryVariant d tested choice

theorem exists_of_mem_variants (h : a.variants d tested = .ok vs) {v : PrimaryVariant}
    (hv : v ∈ vs) : ∃ flavors buildType, v = a.primaryVariant d tested flavors buildType := by
  obtain ⟨combinations, -, rfl⟩ := variants_eq_ok_iff.1 h
  obtain ⟨choice, -, rfl⟩ := List.mem_map.1 hv
  exact ⟨choice.1, choice.2, rfl⟩

theorem variants_of_variantSource? {source : VariantSource}
    (h : a.variantSource? d = some source) :
    source.variants = a.variants d (a.kind != .test) ∧ source.boot = a.bootClasspath := by
  unfold variantSource? at h
  split at h
  · cases h
  · cases h
    exact ⟨rfl, rfl⟩

/-- Rules leave out a test variant of a primary one that is kept only by its own name. -/
theorem Lists.ignores_eq {choice : List Flavor × String} {v : PrimaryVariant}
    {rules : IgnoreRules} (h : a.Lists tested choice v)
    (hkept : rules.ignores v.toVariant = false) {w : Variant} (hw : w ∈ v.secondaries) :
    rules.ignores w = decide (w.name ∈ rules.variants) := by
  obtain ⟨-, hbuildType, hflavor⟩ := h.tests w hw
  have hnot : ¬ rules.ignores v.toVariant = true := by simp [hkept]
  rw [IgnoreRules.ignores_iff, not_or, not_or] at hnot
  rw [Bool.eq_iff_iff, IgnoreRules.ignores_iff, hbuildType, hflavor, decide_eq_true_iff]
  exact or_iff_left (not_or.2 hnot.2)

theorem Lists.filter_secondaries {choice : List Flavor × String} {v : PrimaryVariant}
    {rules : IgnoreRules} (h : a.Lists tested choice v)
    (hkept : rules.ignores v.toVariant = false) :
    v.secondaries.filter (!rules.ignores ·) =
      v.secondaries.filter (·.name ∉ rules.variants) := by
  apply List.filter_congr
  intro w hw
  rw [h.ignores_eq hkept hw, decide_not]

end AndroidOptions

namespace VariantSource

def task (s : VariantSource) (r : Registrar) (v : Variant) : Task :=
  r.taskFor (Pass.unitOf v s.boot)

end VariantSource

namespace Resolver

variable {registrar : Registrar} {rules : IgnoreRules} {source : VariantSource}
  {registry after : Registry} {resolution : Resolution}

theorem survivors_single (registrar : Registrar) (rules : IgnoreRules) (source : VariantSource) :
    survivors { registrar, rules, sources := [source] } = source.survivors rules := by
  simp [survivors]

/-- Resolving one source registers the tasks of the primary variants that are kept, and of
their test variants that are. -/
theorem tasks_of_single (resolution : Resolution)
    (h : resolution = .ofEnlistments registrar (source.survivors rules)) :
    resolution.main = (rules.kept source.listed).map (source.task registrar ·.toVariant) ∧
      resolution.test = ((rules.kept source.listed).flatMap fun v =>
        v.secondaries.filter (!rules.ignores ·)).map (source.task registrar) := by
  subst h
  constructor
  · have hone : ∀ v, ((VariantSource.enlistments rules source.boot v).filter
        (·.umbrella == .main)).map (Enlistment.task registrar) =
          [source.task registrar v.toVariant] := by
      intro v
      simp [VariantSource.enlistments, List.filter_map, Function.comp_def]
      rfl
    simp only [Resolution.ofEnlistments, VariantSource.survivors, List.filter_flatMap,
      List.map_flatMap, hone]
    exact List.map_eq_flatMap.symm
  · have hone : ∀ v, ((VariantSource.enlistments rules source.boot v).filter
        (·.umbrella == .test)).map (Enlistment.task registrar) =
          (v.secondaries.filter (!rules.ignores ·)).map (source.task registrar) := by
      intro v
      simp [VariantSource.enlistments, List.filter_map, Function.comp_def]
      exact fun _ _ _ => rfl
    simp only [Resolution.ofEnlistments, VariantSource.survivors, List.filter_flatMap,
      List.map_flatMap, hone]

/-- What is named like the task of a variant is on the roll no umbrella. -/
theorem kind_of_name_eq {es : List Enlistment} {known : List String}
    (htasks : (es.map Enlistment.taskName).Nodup)
    (hfree : (Enlistment.roll [] es).Nodup ∧ ∀ name ∈ Enlistment.roll [] es, name ∉ known)
    {t : Task} (ht : t ∈ Enlistment.tasks registrar [] es) {e : Enlistment} (he : e ∈ es)
    (hname : e.taskName = t.name) : t.kind = .analysis := by
  have humbrella := ((Enlistment.roll_free_iff htasks).1 hfree).2
  rcases List.mem_append.1 ((Enlistment.tasks_perm registrar [] es).mem_iff.1 ht) with ht | ht
  · obtain ⟨e', -, rfl⟩ := List.mem_map.1 ht
    rfl
  · obtain ⟨u, hu, rfl⟩ := List.mem_map.1 ht
    have hneeded : ∃ e ∈ es, e.umbrella = u := by
      simpa using (Enlistment.mem_founded.1 hu).1
    exact absurd hname ((humbrella u hneeded).2 e he)

/-- The tasks under an umbrella are those of the roll with their names, in its order. -/
theorem filter_tasks_under {es : List Enlistment} {known : List String} (u : Umbrella)
    (htasks : (es.map Enlistment.taskName).Nodup)
    (hfree : (Enlistment.roll [] es).Nodup ∧ ∀ name ∈ Enlistment.roll [] es, name ∉ known) :
    (Enlistment.tasks registrar [] es).filter
        (·.name ∈ ((Resolution.ofEnlistments registrar es).under u).map (·.name)) =
      (Resolution.ofEnlistments registrar es).under u := by
  have hunder : ∀ name, name ∈ ((Resolution.ofEnlistments registrar es).under u).map (·.name) ↔
      ∃ e ∈ es, e.umbrella = u ∧ e.taskName = name := by
    intro name
    rw [Resolution.under_ofEnlistments]
    simp [and_assoc]
  -- the umbrellas on the roll have other names, so only analyses are left
  have hanalysis : (Enlistment.tasks registrar [] es).filter
      (·.name ∈ ((Resolution.ofEnlistments registrar es).under u).map (·.name)) =
        ((Enlistment.tasks registrar [] es).filter (·.kind == .analysis)).filter
          (·.name ∈ ((Resolution.ofEnlistments registrar es).under u).map (·.name)) := by
    rw [List.filter_filter]
    apply List.filter_congr
    intro t ht
    rw [Bool.eq_iff_iff, Bool.and_eq_true, decide_eq_true_iff, hunder, beq_iff_eq]
    refine (and_iff_left_of_imp ?_).symm
    rintro ⟨e, he, -, hname⟩
    exact kind_of_name_eq htasks hfree ht he hname
  rw [hanalysis, Enlistment.filter_analysis_tasks, List.filter_map,
    Resolution.under_ofEnlistments]
  congr 1
  apply List.filter_congr
  intro e he
  rw [Function.comp_apply, Enlistment.task_name, ← Resolution.under_ofEnlistments,
    Bool.eq_iff_iff, decide_eq_true_iff, hunder, beq_iff_eq]
  constructor
  · rintro ⟨e', he', hu, hname⟩
    rwa [List.inj_on_of_nodup_map htasks he' he hname] at hu
  · intro hu
    exact ⟨e, he, hu, rfl⟩

/-- A resolution that returns leaves the tasks under an umbrella in the order in which they
were enlisted, among tasks of other names. -/
theorem filter_tasks_of_resolve {r : Resolver} (hr : r.resolved = false)
    (h : (r.resolve registry).2 = .ok resolution after) (u : Umbrella) :
    after.graph.tasks.filter (·.name ∈ (resolution.under u).map (·.name)) =
      resolution.under u := by
  have hfollows := r.resolve_follows hr registry
  rw [h] at hfollows
  obtain ⟨hcourse, rfl⟩ := hfollows
  have hfree := Enlistment.course_completes_iff.1 (congrArg Prod.snd hcourse)
  rw [r.ofEntries_entries] at hfree
  obtain ⟨-, -, hkey, hroll⟩ := hfree
  have htask := Enlistment.taskName_nodup_of_key hkey
  have hnodes := Enlistment.nodes_of_completed hcourse
  rw [r.ofEntries_entries] at hnodes
  have htasks : after.graph.tasks = registry.graph.tasks ++
      Enlistment.tasks r.registrar [] r.survivors := by
    simp [TaskGraph.tasks, hnodes, Function.comp_def]
  have hold : registry.graph.tasks.filter
      (·.name ∈ ((Resolution.ofEnlistments r.registrar r.survivors).under u).map (·.name)) =
        [] := by
    rw [List.filter_eq_nil_iff]
    intro t ht hmem
    rw [decide_eq_true_iff, Resolution.under_ofEnlistments] at hmem
    simp only [List.map_map, List.mem_map, List.mem_filter] at hmem
    obtain ⟨e, ⟨he, -⟩, hname⟩ := hmem
    have hmem : e.taskName ∈ Enlistment.roll [] r.survivors :=
      Enlistment.mem_roll.2 (.inl ⟨e, he, rfl⟩)
    refine hroll.2 _ hmem ?_
    rw [show e.taskName = t.name from hname]
    exact List.mem_map_of_mem ht
  rw [htasks, List.filter_append, hold, List.nil_append, filter_tasks_under u htask hroll]

/-- An Android project lists one primary variant for every combination of flavors and every
build type, in this order, with the test variants of its kind. Where resolving them
returns, the test tasks are, in the order of their registration, those of the listed test
variants whose primary one is kept and that are not named themselves. So behind every test
task stands the task of a primary variant that is kept, and the test variants of such a one
have their tasks unless they are named: rules for build types and flavors do not part
them. -/
theorem resolve_variantSource (a : AndroidOptions) (d : Directories) (registrar : Registrar)
    (rules : IgnoreRules) (registry : Registry) (source : VariantSource)
    (vs : List PrimaryVariant) (hsource : a.variantSource? d = some source)
    (hvs : source.variants = .ok vs) :
    (∃ combinations, a.flavorCombinations = .ok combinations ∧
      List.Forall₂ (a.Lists (a.kind != .test)) (combinations.product a.effectiveBuildTypes)
        vs) ∧
    ∀ resolution after,
      (resolve { registrar, rules, sources := [source] } registry).2 = .ok resolution after →
      resolution.test = ((rules.kept vs).flatMap fun v =>
          v.secondaries.filter (·.name ∉ rules.variants)).map (source.task registrar) ∧
      after.graph.tasks.filter (·.name ∈ resolution.testNames) = resolution.test ∧
      (∀ t ∈ resolution.test, ∃ v ∈ rules.kept vs,
        source.task registrar v.toVariant ∈ resolution.main ∧
          ∃ w ∈ v.secondaries, w.name ∉ rules.variants ∧ t = source.task registrar w) ∧
      ∀ v ∈ rules.kept vs, source.task registrar v.toVariant ∈ resolution.main ∧
        ∀ w ∈ v.secondaries, w.name ∉ rules.variants →
          source.task registrar w ∈ resolution.test := by
  have hvariants := (AndroidOptions.variants_of_variantSource? hsource).1.symm.trans hvs
  refine ⟨AndroidOptions.lists_variants hvariants, fun resolution after h => ?_⟩
  have horder := filter_tasks_of_resolve rfl h .test
  have hfollows := resolve_follows { registrar, rules, sources := [source] } rfl registry
  rw [h] at hfollows
  have hlisted : source.listed = vs := by simp only [VariantSource.listed, hvs]
  obtain ⟨hmain, htest⟩ := tasks_of_single resolution (survivors_single _ _ _ ▸ hfollows.2)
  rw [hlisted] at hmain htest
  have hsecondaries : ∀ v ∈ rules.kept vs, v.secondaries.filter (!rules.ignores ·) =
      v.secondaries.filter (·.name ∉ rules.variants) := by
    intro v hv
    obtain ⟨hv, hkept⟩ := List.mem_filter.1 hv
    obtain ⟨flavors, buildType, rfl⟩ := AndroidOptions.exists_of_mem_variants hvariants hv
    exact (a.lists_primaryVariant d _ (flavors, buildType)).filter_secondaries
      (by simpa using hkept)
  rw [List.flatMap_congr hsecondaries] at htest
  have hproduction : ∀ v ∈ rules.kept vs,
      source.task registrar v.toVariant ∈ resolution.main := by
    intro v hv
    rw [hmain]
    exact List.mem_map_of_mem hv
  refine ⟨htest, ?_, fun t ht => ?_, fun v hv => ⟨hproduction v hv, fun w hw hname => ?_⟩⟩
  · simp only [Resolution.testNames, NameSet.mem_ofList]
    exact horder
  · rw [htest] at ht
    obtain ⟨w, hw, rfl⟩ := List.mem_map.1 ht
    obtain ⟨v, hv, hw⟩ := List.mem_flatMap.1 hw
    obtain ⟨hw, hname⟩ := List.mem_filter.1 hw
    exact ⟨v, hv, hproduction v hv, w, hw, by simpa using hname, rfl⟩
  · rw [htest]
    refine List.mem_map_of_mem (List.mem_flatMap.2 ⟨v, hv, List.mem_filter.2 ⟨hw, ?_⟩⟩)
    simpa using hname

theorem resolve_variantSource_flavors :
    let a : AndroidOptions :=
      { kind := .library
        flavorDimensions := ["tier"]
        productFlavors := [⟨"free", "tier"⟩, ⟨"paid", "tier"⟩] }
    let rules : IgnoreRules :=
      { variants := .ofList ["freeDebugUnitTest"], buildTypes := .ofList ["release"] }
    ∃ source vs resolution after,
      a.variantSource? ⟨"/app", "/app/build"⟩ = some source ∧ source.variants = .ok vs ∧
      (resolve { registrar := ⟨fun _ => true, {}⟩, rules, sources := [source] } {}).2 =
        .ok resolution after ∧
      resolution.test.map (·.name) =
        ["detektFreeDebugAndroidTest", "detektPaidDebugAndroidTest",
          "detektPaidDebugUnitTest"] ∧
      after.graph.tasks.filter (·.name ∈ resolution.testNames) = resolution.test := by
  intro a rules
  let registrar : Registrar := ⟨fun _ => true, {}⟩
  let source : VariantSource :=
    (a.variantSource? ⟨"/app", "/app/build"⟩).getD (.fixed [] [])
  have hsource : a.variantSource? ⟨"/app", "/app/build"⟩ = some source := rfl
  have hvs : source.variants = .ok source.listed := rfl
  have hreturned : returned (resolve { registrar, rules, sources := [source] } {}).2 = true := by
    decide +kernel
  obtain ⟨resolution, after, hresolve, htest, horder⟩ := exists_ok_of_returned hreturned
    fun resolution after h => by
      obtain ⟨-, hresolution⟩ := resolve_variantSource a _ registrar rules {} source _ hsource hvs
      obtain ⟨htest, horder, -⟩ := hresolution resolution after h
      exact And.intro htest horder
  refine ⟨source, _, resolution, after, hsource, hvs, hresolve, ?_, horder⟩
  rw [htest, List.map_map]
  decide +kernel

end Resolver

end AnalysisPlan
