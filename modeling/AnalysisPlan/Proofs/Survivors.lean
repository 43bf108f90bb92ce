import AnalysisPlan.Proofs.Pass

/-!
# The survivors of a resolution

Of the variants of a source, those primary ones survive that the rules do not
ignore, and of their secondaries those that the rules do not ignore either. A
resolver makes the course of its survivors, in the order of its sources, up to
the first source that cannot be enumerated.
-/

namespace AnalysisPlan

namespace VariantSource

/-- The variants of a source. A source that cannot be enumerated has none. -/
def listed (s : VariantSource) : List PrimaryVariant :=
  match s.variants with
  | .ok vs => vs
  | .error _ => []

def enlistments (rules : IgnoreRules) (boot : List String) (v : PrimaryVariant) :
    List Enlistment :=
  ⟨.main, v.toVariant, boot⟩ ::
    (v.secondaries.filter (!rules.ignores ·)).map (⟨.test, ·, boot⟩)

def survivors (rules : IgnoreRules) (s : VariantSource) : List Enlistment :=
  (rules.kept s.listed).flatMap (enlistments rules s.boot)

/-- What a source gives to a pass: its survivors, or that it cannot be
enumerated. -/
def entries (rules : IgnoreRules) (s : VariantSource) : List (Except Fault Enlistment) :=
  match s.variants with
  | .ok _ => (s.survivors rules).map .ok
  | .error f => [.error f]

theorem entries_secondaries (rules : IgnoreRules) (boot : List String) (vs : List Variant) :
    (vs.map (secondaryStep rules boot)).filterMap PassStep.asEntry =
      ((vs.filter (!rules.ignores ·)).map (⟨.test, ·, boot⟩)).map
        (Except.ok : Enlistment → Except Fault Enlistment) := by
  induction vs with
  | nil => rfl
  | cons v vs ih =>
      rw [List.map_cons, List.filterMap_cons, ih, secondaryStep]
      by_cases h : rules.ignores v = true
      · simp [h, PassStep.asEntry]
      · simp [h, PassStep.asEntry]

theorem entries_primaries (rules : IgnoreRules) (boot : List String)
    (vs : List PrimaryVariant) :
    (vs.flatMap (primarySteps rules boot)).filterMap PassStep.asEntry =
      (vs.flatMap (enlistments rules boot)).map .ok := by
  induction vs with
  | nil => rfl
  | cons v vs ih =>
      rw [List.flatMap_cons, List.filterMap_append, ih, List.flatMap_cons, List.map_append,
        primarySteps, List.filterMap_cons, entries_secondaries]
      rfl

theorem entries_of_silent {α : Type} {f : α → PassStep} (h : ∀ x, (f x).asEntry = none)
    (xs : List α) : (xs.map f).filterMap PassStep.asEntry = [] := by
  induction xs with
  | nil => rfl
  | cons x xs ih => rw [List.map_cons, List.filterMap_cons, h x, ih]

/-- The steps of a source say about enlisting what the source gives to a pass. -/
theorem entries_steps (rules : IgnoreRules) (s : VariantSource) :
    (s.steps rules).filterMap PassStep.asEntry = s.entries rules := by
  unfold steps entries survivors listed
  rw [List.filterMap_append, List.filterMap_cons, entries_of_silent fun _ => rfl]
  cases s.variants with
  | error f => rfl
  | ok vs =>
      simp only [PassStep.asEntry, List.nil_append, variantSteps, List.filterMap_append]
      rw [entries_of_silent fun _ => rfl, entries_primaries, List.nil_append]

theorem ofEntries_entries (rules : IgnoreRules) (s : VariantSource) :
    Enlistment.ofEntries (s.entries rules) = s.survivors rules := by
  unfold entries survivors listed
  cases s.variants with
  | ok vs => exact Enlistment.ofEntries_map_ok _
  | error f => simp

theorem error_not_mem_entries_iff (rules : IgnoreRules) (s : VariantSource) :
    (∀ f, .error f ∉ s.entries rules) ↔ ∃ vs, s.variants = .ok vs := by
  unfold entries
  cases s.variants with
  | ok vs => simp
  | error f => simp

end VariantSource

namespace Resolution

def ofEnlistments (r : Registrar) (es : List Enlistment) : Resolution where
  main := (es.filter (·.umbrella == .main)).map (Enlistment.task r)
  test := (es.filter (·.umbrella == .test)).map (Enlistment.task r)

def under (resolution : Resolution) : Umbrella → List Task
  | .main => resolution.main
  | .test => resolution.test

def umbrellas (resolution : Resolution) : List Umbrella :=
  [.main, .test].filter fun u => resolution.under u ≠ []

/-- The tasks of a resolution with what they depend on: those of variants on
nothing, and each umbrella on the tasks under it. -/
def nodes (resolution : Resolution) : List TaskNode :=
  (resolution.main ++ resolution.test).map (fun t => ⟨t, ∅⟩) ++
    resolution.umbrellas.map fun u =>
      ⟨u.task, .ofList ((resolution.under u).map (·.name))⟩

variable (r : Registrar) (es : List Enlistment)

theorem under_ofEnlistments (u : Umbrella) :
    (ofEnlistments r es).under u = (es.filter (·.umbrella == u)).map (Enlistment.task r) := by
  cases u <;> rfl

theorem tasks_ofEnlistments_perm :
    ((ofEnlistments r es).main ++ (ofEnlistments r es).test).Perm
      (es.map (Enlistment.task r)) := by
  have htest : (fun e : Enlistment => e.umbrella == .test) =
      fun e => !(e.umbrella == .main) := by
    funext e
    cases e.umbrella <;> rfl
  have hperm := List.filter_append_perm (fun e : Enlistment => e.umbrella == .main) es
  rw [← htest] at hperm
  rw [ofEnlistments, ← List.map_append]
  exact hperm.map (Enlistment.task r)

theorem names_under_ofEnlistments (u : Umbrella) :
    ((ofEnlistments r es).under u).map (·.name) =
      ((es.filter (·.umbrella == u)).map (·.variant)).map (Task.nameFor ·.name) := by
  rw [under_ofEnlistments, List.map_map, List.map_map]
  rfl

theorem under_ofEnlistments_ne_nil_iff (u : Umbrella) :
    (ofEnlistments r es).under u ≠ [] ↔ ∃ e ∈ es, e.umbrella = u := by
  rw [under_ofEnlistments, ne_eq, List.map_eq_nil_iff, List.filter_eq_nil_iff]
  simp

theorem umbrellas_ofEnlistments_perm :
    (ofEnlistments r es).umbrellas.Perm (Enlistment.founded [] es) := by
  have hnodup : (ofEnlistments r es).umbrellas.Nodup :=
    List.Nodup.filter _ (by decide)
  refine (List.perm_ext_iff_of_nodup hnodup (Enlistment.nodup_founded [] es)).2 fun u => ?_
  have hmem : u ∈ [Umbrella.main, .test] := by cases u <;> decide
  rw [umbrellas, List.mem_filter, decide_eq_true_iff, under_ofEnlistments_ne_nil_iff,
    Enlistment.mem_founded]
  simp [hmem]

/-- What is gathered under the name of an umbrella are the tasks under it. -/
theorem gathered_name (u : Umbrella) :
    Enlistment.gathered es u.name =
      .ofList (((ofEnlistments r es).under u).map (·.name)) := by
  have hfilter : (fun e : Enlistment => e.umbrella.name == u.name) =
      fun e => e.umbrella == u := by
    funext e
    cases e.umbrella <;> cases u <;> decide
  rw [Enlistment.gathered, hfilter, under_ofEnlistments, List.map_map]
  rfl

/-- If no task has the name of an umbrella, the tasks on the roll are those of the
resolution, each with what is gathered under its name. -/
theorem nodes_ofEnlistments_perm
    (h : ∀ e ∈ es, ∀ e' ∈ es, e.taskName ≠ e'.umbrella.name) :
    ((Enlistment.tasks r [] es).map fun t => ⟨t, Enlistment.gathered es t.name⟩).Perm
      (ofEnlistments r es).nodes := by
  have htask : (es.map (Enlistment.task r)).map
      (fun t => (⟨t, Enlistment.gathered es t.name⟩ : TaskNode)) =
        (es.map (Enlistment.task r)).map fun t => ⟨t, ∅⟩ := by
    apply List.map_congr_left
    intro t ht
    obtain ⟨e, he, rfl⟩ := List.mem_map.1 ht
    have hnone : Enlistment.gathered es (e.task r).name = ∅ :=
      Enlistment.gathered_eq_empty fun e' he' => (h e he e' he').symm
    exact congrArg (TaskNode.mk _) hnone
  have humbrella : ((Enlistment.founded [] es).map Umbrella.task).map
      (fun t => (⟨t, Enlistment.gathered es t.name⟩ : TaskNode)) =
        (Enlistment.founded [] es).map fun u =>
          ⟨u.task, .ofList (((ofEnlistments r es).under u).map (·.name))⟩ := by
    rw [List.map_map]
    apply List.map_congr_left
    intro u _
    rw [← gathered_name r es u]
    rfl
  have hperm := (Enlistment.tasks_perm r [] es).map
    fun t => (⟨t, Enlistment.gathered es t.name⟩ : TaskNode)
  rw [List.map_append, htask, humbrella] at hperm
  exact hperm.trans (((tasks_ofEnlistments_perm r es).symm.map _).append
    ((umbrellas_ofEnlistments_perm r es).symm.map _))

end Resolution

namespace Resolver

def survivors (r : Resolver) : List Enlistment :=
  r.sources.flatMap (VariantSource.survivors r.rules)

def primaries (r : Resolver) : List PrimaryVariant :=
  r.sources.flatMap fun s => r.rules.kept s.listed

/-- The secondaries of the kept primary variants that the rules do not ignore. -/
def secondaries (r : Resolver) : List Variant :=
  r.primaries.flatMap fun v => v.secondaries.filter (!r.rules.ignores ·)

def entries (r : Resolver) : List (Except Fault Enlistment) :=
  r.sources.flatMap (VariantSource.entries r.rules)

def course (r : Resolver) : List Move := Enlistment.course r.registrar [] r.entries

theorem entries_steps (r : Resolver) : r.steps.filterMap PassStep.asEntry = r.entries := by
  unfold steps entries
  induction r.sources with
  | nil => rfl
  | cons s sources ih =>
      rw [List.flatMap_cons, List.filterMap_append, ih, VariantSource.entries_steps,
        List.flatMap_cons]

theorem ofEntries_entries (r : Resolver) : Enlistment.ofEntries r.entries = r.survivors := by
  unfold entries survivors
  induction r.sources with
  | nil => rfl
  | cons s sources ih =>
      rw [List.flatMap_cons, Enlistment.ofEntries_append, ih,
        VariantSource.ofEntries_entries, List.flatMap_cons]

theorem error_not_mem_entries_iff (r : Resolver) :
    (∀ f, .error f ∉ r.entries) ↔ ∀ s ∈ r.sources, ∃ vs, s.variants = .ok vs := by
  have h : (∀ f, .error f ∉ r.entries) ↔
      ∀ s ∈ r.sources, ∀ f, .error f ∉ s.entries r.rules := by
    simp only [entries, List.mem_flatMap, not_exists, not_and]
    exact ⟨fun h s hs f => h f s hs, fun h f s hs => h s hs f⟩
  rw [h]
  exact forall₂_congr fun s _ => VariantSource.error_not_mem_entries_iff r.rules s

/-- The survivors under the main umbrella are the primary variants that are kept. -/
theorem survivors_main (r : Resolver) :
    (r.survivors.filter (·.umbrella == .main)).map (·.variant) =
      r.primaries.map (·.toVariant) := by
  have hone : ∀ (boot : List String) (v : PrimaryVariant),
      ((VariantSource.enlistments r.rules boot v).filter (·.umbrella == .main)).map
        (·.variant) = [v.toVariant] := by
    intro boot v
    simp [VariantSource.enlistments, List.filter_map, Function.comp_def]
  simp only [survivors, VariantSource.survivors, primaries, List.filter_flatMap,
    List.map_flatMap, hone]
  simp only [← List.map_eq_flatMap]

/-- The survivors under the other umbrella are the secondaries that are kept. -/
theorem survivors_test (r : Resolver) :
    (r.survivors.filter (·.umbrella == .test)).map (·.variant) = r.secondaries := by
  have hone : ∀ (boot : List String) (v : PrimaryVariant),
      ((VariantSource.enlistments r.rules boot v).filter (·.umbrella == .test)).map
        (·.variant) = v.secondaries.filter (!r.rules.ignores ·) := by
    intro boot v
    simp [VariantSource.enlistments, List.filter_map, Function.comp_def]
  simp only [survivors, VariantSource.survivors, secondaries, primaries,
    List.filter_flatMap, List.map_flatMap, hone, List.flatMap_assoc]

/-- Where anything survives, a primary variant does. -/
theorem exists_main_of_mem {r : Resolver} {e : Enlistment} (h : e ∈ r.survivors) :
    ∃ e' ∈ r.survivors, e'.umbrella = .main := by
  obtain ⟨s, hs, he⟩ := List.mem_flatMap.1 h
  obtain ⟨v, hv, -⟩ := List.mem_flatMap.1 he
  have hprimary : ⟨.main, v.toVariant, s.boot⟩ ∈ r.survivors :=
    List.mem_flatMap.2 ⟨s, hs, List.mem_flatMap.2 ⟨v, hv, List.mem_cons_self⟩⟩
  exact ⟨_, hprimary, rfl⟩

/-- A resolver that was not used yet makes the course of its survivors and returns
their tasks. -/
theorem resolve_follows (r : Resolver) (h : r.resolved = false) (registry : Registry) :
    Follows Registry.graph registry.graph r.course
      (fun resolution _ => resolution = .ofEnlistments r.registrar r.survivors)
      (r.resolve registry).2 := by
  have htracks : Pass.Tracks r.registrar [] { registry } :=
    ⟨fun _ => rfl, ⟨by simp, by simp⟩, rfl⟩
  have hrun := Pass.run_follows r.steps htracks
  rw [entries_steps, ofEntries_entries, List.nil_append] at hrun
  unfold resolve course
  rw [if_neg (by simp [h])]
  cases hres : Pass.run r.registrar r.steps { registry } with
  | error f p =>
      rw [hres] at hrun
      exact hrun
  | ok a p =>
      rw [hres] at hrun
      obtain ⟨hf, hp⟩ := hrun
      refine ⟨hf, ?_⟩
      simp [Pass.under, hp.enlisted, Resolution.ofEnlistments, List.filter_map,
        Function.comp_def]

end Resolver

end AnalysisPlan
