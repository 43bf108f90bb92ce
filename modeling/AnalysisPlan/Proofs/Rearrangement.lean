import AnalysisPlan.Proofs.Survivors
import Mathlib.Data.List.Perm.Basic

/-!
# The order of variants makes no difference

Sources may be added in any order, and a source may list its variants and their
secondaries in any order (`VariantSource.Rearranged`). A pass then goes through
other graphs and may break off elsewhere, but it enlists the same survivors, and
whether a course of enlistments is completed, which tasks it adds and what they
depend on are told by which enlistments there are
(`Enlistment.completes_iff_of_perm`, `Enlistment.node?_eq_of_perm`). So resolving
fails for all orders or for none, and comes to the same tasks and dependencies.
-/

namespace AnalysisPlan

/-- The elements of two lists correspond, in some order. -/
def Rearranged {α : Type} (R : α → α → Prop) (xs ys : List α) : Prop :=
  ∃ zs, List.Forall₂ R xs zs ∧ zs.Perm ys

namespace Rearranged

variable {α β : Type} {R : α → α → Prop} {xs ys : List α}

theorem flatMap_perm {f : α → List β} (h : Rearranged R xs ys)
    (hf : ∀ x y, R x y → (f x).Perm (f y)) : (xs.flatMap f).Perm (ys.flatMap f) := by
  obtain ⟨zs, hzs, hperm⟩ := h
  have hsame : (xs.flatMap f).Perm (zs.flatMap f) := by
    apply List.Perm.flatten_congr
    rw [List.forall₂_map_left_iff, List.forall₂_map_right_iff]
    exact hzs.imp hf
  exact hsame.trans (hperm.flatMap_right f)

theorem forall_iff {p : α → Prop} (h : Rearranged R xs ys) (hp : ∀ x y, R x y → (p x ↔ p y)) :
    (∀ x ∈ xs, p x) ↔ ∀ y ∈ ys, p y := by
  obtain ⟨zs, hzs, hperm⟩ := h
  have hsame : (∀ x ∈ xs, p x) ↔ ∀ z ∈ zs, p z := by
    clear hperm
    induction hzs with
    | nil => simp
    | cons hxz _ ih => simp [hp _ _ hxz, ih]
  rw [hsame]
  exact forall_congr' fun y => by rw [hperm.mem_iff]

end Rearranged

/-- The same primary variant with its secondaries in another order. -/
def PrimaryVariant.Rearranged (v w : PrimaryVariant) : Prop :=
  v.toVariant = w.toVariant ∧ v.secondaries.Perm w.secondaries

/-- The same source with its variants in another order. -/
def VariantSource.Rearranged (s t : VariantSource) : Prop :=
  s.boot = t.boot ∧
    match s.variants, t.variants with
    | .ok vs, .ok ws => AnalysisPlan.Rearranged PrimaryVariant.Rearranged vs ws
    | .error _, .error _ => True
    | _, _ => False

namespace Enlistment

variable {r : Registrar} {es es' : List Enlistment}
  {entries entries' : List (Except Fault Enlistment)}

theorem founded_perm (h : es.Perm es') : (founded [] es).Perm (founded [] es') := by
  refine (List.perm_ext_iff_of_nodup (nodup_founded [] es) (nodup_founded [] es')).2 ?_
  intro u
  rw [mem_founded, mem_founded, (h.map (·.umbrella)).mem_iff]

theorem tasks_perm_of_perm (h : es.Perm es') : (tasks r [] es).Perm (tasks r [] es') := by
  have hsplit := ((h.map (task r)).append ((founded_perm h).map Umbrella.task))
  exact (tasks_perm r [] es).trans (hsplit.trans (tasks_perm r [] es').symm)

theorem roll_perm_of_perm (h : es.Perm es') : (roll [] es).Perm (roll [] es') := by
  have hsplit := ((h.map taskName).append ((founded_perm h).map Umbrella.name))
  exact (roll_perm [] es).trans (hsplit.trans (roll_perm [] es').symm)

theorem gathered_eq_of_perm (h : es.Perm es') (name : String) :
    gathered es name = gathered es' name := by
  apply NameSet.ext_mem
  intro k
  simp only [mem_gathered, h.mem_iff]

/-- Whether a course of enlistments is completed does not depend on their order. -/
theorem completes_iff_of_perm {g : TaskGraph}
    (herror : (∀ f, .error f ∉ entries) ↔ ∀ f, .error f ∉ entries')
    (h : (ofEntries entries).Perm (ofEntries entries')) :
    (g.follow (course r [] entries)).2 = none ↔
      (g.follow (course r [] entries')).2 = none := by
  have hroll := roll_perm_of_perm h
  simp only [course_completes_iff, herror, h.mem_iff, (h.map key).nodup_iff,
    hroll.nodup_iff, hroll.mem_iff]

/-- Where courses of the same enlistments are completed, they lead to graphs in
which every name has the same node. -/
theorem node?_eq_of_perm {g g₁ g₂ : TaskGraph}
    (h : (ofEntries entries).Perm (ofEntries entries'))
    (h₁ : g.follow (course r [] entries) = (g₁, none))
    (h₂ : g.follow (course r [] entries') = (g₂, none)) (name : String) :
    g₁.node? name = g₂.node? name := by
  by_cases hname : name ∈ roll [] (ofEntries entries)
  · rw [← names_tasks r] at hname
    obtain ⟨t, ht, rfl⟩ := List.mem_map.1 hname
    have ht' := (tasks_perm_of_perm h).mem_iff.1 ht
    rw [node?_of_mem_tasks h₁ ht, node?_of_mem_tasks h₂ ht', gathered_eq_of_perm h]
  · have hname' : name ∉ roll [] (ofEntries entries') := by
      rwa [← (roll_perm_of_perm h).mem_iff]
    rw [node?_of_not_mem_roll h₁ hname, node?_of_not_mem_roll h₂ hname']

theorem tasks_perm_of_completed {g g₁ g₂ : TaskGraph}
    (h : (ofEntries entries).Perm (ofEntries entries'))
    (h₁ : g.follow (course r [] entries) = (g₁, none))
    (h₂ : g.follow (course r [] entries') = (g₂, none)) : g₁.tasks.Perm g₂.tasks := by
  have htasks : ∀ {g' : TaskGraph} {entries : List (Except Fault Enlistment)},
      g.follow (course r [] entries) = (g', none) →
        g'.tasks = g.tasks ++ tasks r [] (ofEntries entries) := by
    intro g' entries hcourse
    simp [TaskGraph.tasks, nodes_of_completed hcourse, Function.comp_def]
  rw [htasks h₁, htasks h₂]
  exact (tasks_perm_of_perm h).append_left g.tasks

end Enlistment

theorem PrimaryVariant.Rearranged.enlistments_perm {rules : IgnoreRules}
    {boot : List String} {v w : PrimaryVariant} (h : v.Rearranged w) :
    (VariantSource.enlistments rules boot v).Perm
      (VariantSource.enlistments rules boot w) := by
  unfold VariantSource.enlistments
  rw [h.1]
  exact .cons _ ((h.2.filter _).map _)

namespace VariantSource

theorem survivors_eq_flatMap (rules : IgnoreRules) (s : VariantSource) :
    s.survivors rules = s.listed.flatMap fun v =>
      if rules.ignores v.toVariant then [] else enlistments rules s.boot v := by
  unfold survivors IgnoreRules.kept
  induction s.listed with
  | nil => rfl
  | cons v vs ih =>
      rw [List.flatMap_cons, ← ih]
      by_cases h : rules.ignores v.toVariant = true
      · rw [List.filter_cons_of_neg (by simpa using h), if_pos h, List.nil_append]
      · rw [List.filter_cons_of_pos (by simpa using h), if_neg h, List.flatMap_cons]

variable {s t : VariantSource}

theorem Rearranged.survivors_perm (rules : IgnoreRules) (h : s.Rearranged t) :
    (s.survivors rules).Perm (t.survivors rules) := by
  obtain ⟨hboot, hvariants⟩ := h
  have hlisted : AnalysisPlan.Rearranged PrimaryVariant.Rearranged s.listed t.listed := by
    unfold listed
    revert hvariants
    cases s.variants <;> cases t.variants <;> intro hvariants
    · exact ⟨[], .nil, .nil⟩
    · exact hvariants.elim
    · exact hvariants.elim
    · exact hvariants
  rw [survivors_eq_flatMap, survivors_eq_flatMap, hboot]
  refine hlisted.flatMap_perm fun v w hvw => ?_
  rw [hvw.1]
  split
  · exact .nil
  · exact hvw.enlistments_perm

theorem Rearranged.listed_iff (h : s.Rearranged t) :
    (∃ vs, s.variants = .ok vs) ↔ ∃ vs, t.variants = .ok vs := by
  have hvariants := h.2
  revert hvariants
  cases s.variants <;> cases t.variants <;> simp

end VariantSource

namespace Resolver

/-- Resolving rearranged sources fails for both orders, or it returns the same
tasks for both and leaves graphs with the same tasks and dependencies. -/
theorem resolve_rearranged (registrar : Registrar) (rules : IgnoreRules)
    (sources sources' : List VariantSource) (registry : Registry)
    (h : Rearranged VariantSource.Rearranged sources sources') :
    match (resolve { registrar, rules, sources } registry).2,
      (resolve { registrar, rules, sources := sources' } registry).2 with
    | .ok resolution after, .ok resolution' after' =>
      resolution.main.Perm resolution'.main ∧ resolution.test.Perm resolution'.test ∧
        after.graph.tasks.Perm after'.graph.tasks ∧
        ∀ name, after.graph.dependencies? name = after'.graph.dependencies? name
    | .error _ _, .error _ _ => True
    | _, _ => False := by
  let resolver : Resolver := { registrar, rules, sources }
  let resolver' : Resolver := { registrar, rules, sources := sources' }
  have hfollows := resolver.resolve_follows rfl registry
  have hfollows' := resolver'.resolve_follows rfl registry
  have hsurvivors : resolver.survivors.Perm resolver'.survivors :=
    h.flatMap_perm fun _ _ hst => hst.survivors_perm rules
  have hentries := hsurvivors
  rw [← ofEntries_entries, ← ofEntries_entries] at hentries
  have herror : (∀ f, .error f ∉ resolver.entries) ↔ ∀ f, .error f ∉ resolver'.entries := by
    rw [error_not_mem_entries_iff, error_not_mem_entries_iff]
    exact h.forall_iff fun _ _ hst => hst.listed_iff
  have hreturns : (∃ a s, (resolver.resolve registry).2 = .ok a s) ↔
      ∃ a s, (resolver'.resolve registry).2 = .ok a s := by
    rw [hfollows.returns_iff, hfollows'.returns_iff]
    exact Enlistment.completes_iff_of_perm herror hentries
  change match (resolver.resolve registry).2, (resolver'.resolve registry).2 with
    | .ok resolution after, .ok resolution' after' => _
    | .error _ _, .error _ _ => True
    | _, _ => False
  cases hres : (resolver.resolve registry).2 with
  | ok resolution after =>
      cases hres' : (resolver'.resolve registry).2 with
      | ok resolution' after' =>
          rw [hres] at hfollows
          rw [hres'] at hfollows'
          obtain ⟨hcourse, rfl⟩ := hfollows
          obtain ⟨hcourse', rfl⟩ := hfollows'
          refine ⟨(hsurvivors.filter _).map _, (hsurvivors.filter _).map _,
            Enlistment.tasks_perm_of_completed hentries hcourse hcourse', fun name => ?_⟩
          have hnode := Enlistment.node?_eq_of_perm hentries hcourse hcourse' name
          simp only [TaskGraph.dependencies?, TaskGraph.needs?, hnode]
      | error fault after' => simp [hres, hres'] at hreturns
  | error fault after =>
      cases hres' : (resolver'.resolve registry).2 with
      | ok resolution' after' => simp [hres, hres'] at hreturns
      | error fault' after' => trivial

theorem resolve_rearranged_debug_release :
    let debug : PrimaryVariant := { name := "debug", buildType := "debug" }
    let release : PrimaryVariant := { name := "release", buildType := "release" }
    let resolver (vs : List PrimaryVariant) : Resolver :=
      { registrar := ⟨fun _ => true, {}⟩, rules := {}, sources := [.fixed vs []] }
    ∃ resolution after,
      ((resolver [debug, release]).resolve {}).2 = .ok resolution after ∧
      ∃ resolution' after',
        ((resolver [release, debug]).resolve {}).2 = .ok resolution' after' ∧
        ∀ name, after.graph.dependencies? name = after'.graph.dependencies? name := by
  intro debug release resolver
  refine exists_ok_of_returned (by decide +kernel) fun resolution after h => ?_
  refine exists_ok_of_returned (by decide +kernel) fun resolution' after' h' => ?_
  have hvariants : Rearranged PrimaryVariant.Rearranged [debug, release] [release, debug] :=
    ⟨[debug, release], List.forall₂_same.2 fun _ _ => ⟨rfl, .refl _⟩, .swap release debug []⟩
  have hsources : Rearranged VariantSource.Rearranged
      [.fixed [debug, release] []] [.fixed [release, debug] []] :=
    ⟨[.fixed [release, debug] []], .cons ⟨rfl, hvariants⟩ .nil, .refl _⟩
  have hsame := resolve_rearranged ⟨fun _ => true, {}⟩ {} _ _ {} hsources
  rw [h, h'] at hsame
  exact hsame.2.2.2

end Resolver

end AnalysisPlan
