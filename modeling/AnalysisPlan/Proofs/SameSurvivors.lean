import AnalysisPlan.Proofs.Agreement

/-!
# Sources that leave the same survivors

What resolving comes to is told by its survivors and their order alone: how they are
spread over sources, and in how many steps the others were ignored, makes no difference
beyond what is reported (`Resolver.resolve_concur`). So variants may be given in one
source or in several (`Resolver.resolve_split`), and may be ignored at once or in two
steps (`Resolver.resolve_union`).
-/

namespace AnalysisPlan

namespace NameSet

theorem union_comm (s t : NameSet) : s.union t = t.union s :=
  ext_mem fun _ => by rw [mem_union, mem_union, or_comm]

theorem union_union_self (s t : NameSet) : (s.union t).union t = s.union t :=
  ext_mem fun _ => by rw [mem_union, mem_union, or_assoc, or_self]

end NameSet

namespace IgnoreRules

theorem union_comm (a b : IgnoreRules) : a.union b = b.union a := by
  simp only [union, NameSet.union_comm a.variants, NameSet.union_comm a.buildTypes,
    NameSet.union_comm a.flavors]

theorem union_union_self (a b : IgnoreRules) : (a.union b).union b = a.union b := by
  simp only [union, NameSet.union_union_self]

/-- The variants that the rules keep, each with those of its secondaries that they keep. -/
def thinned (rules : IgnoreRules) (vs : List PrimaryVariant) : List PrimaryVariant :=
  (rules.kept vs).map fun v =>
    { v with secondaries := v.secondaries.filter (!rules.ignores ·) }

theorem kept_union (a b : IgnoreRules) (vs : List PrimaryVariant) :
    (a.union b).kept vs = a.kept (b.kept vs) := by
  unfold kept
  rw [List.filter_filter]
  simp only [ignores_union, Bool.not_or]

theorem kept_thinned (a b : IgnoreRules) (vs : List PrimaryVariant) :
    a.kept (b.thinned vs) = ((a.union b).kept vs).map fun v =>
      { v with secondaries := v.secondaries.filter (!b.ignores ·) } := by
  rw [kept_union, thinned, kept, List.filter_map]
  rfl

end IgnoreRules

namespace VariantSource

/-- A source without the variants that the rules ignore. -/
def without (rules : IgnoreRules) (s : VariantSource) : VariantSource :=
  { s with variants := s.variants.map rules.thinned }

variable {s : VariantSource}

theorem listed_without (rules : IgnoreRules) (s : VariantSource) :
    (s.without rules).listed = rules.thinned s.listed := by
  unfold listed without
  cases s.variants <;> rfl

theorem entries_of_listed (rules : IgnoreRules) (h : ∃ vs, s.variants = .ok vs) :
    s.entries rules = (s.survivors rules).map .ok := by
  obtain ⟨vs, hvs⟩ := h
  rw [entries, hvs]

theorem enlistments_union (a b : IgnoreRules) (boot : List String) (v : PrimaryVariant) :
    enlistments (a.union b) boot v =
      enlistments a boot { v with secondaries := v.secondaries.filter (!b.ignores ·) } := by
  unfold enlistments
  rw [List.filter_filter]
  simp only [IgnoreRules.ignores_union, Bool.not_or]

/-- What survives both rules survives the ones where the others were applied before. -/
theorem survivors_without (a b : IgnoreRules) (s : VariantSource) :
    (s.without b).survivors a = s.survivors (a.union b) := by
  unfold survivors
  rw [listed_without, IgnoreRules.kept_thinned, List.flatMap_map]
  exact congrArg (List.flatMap · _) (funext fun v => (enlistments_union a b s.boot v).symm)

theorem entries_without (a b : IgnoreRules) (s : VariantSource) :
    (s.without b).entries a = s.entries (a.union b) := by
  have hsurvivors := survivors_without a b s
  unfold entries
  rw [hsurvivors, without]
  cases s.variants <;> rfl

end VariantSource

namespace Resolver

/-- Two resolutions came to the same: both returned the same tasks, or both failed with
the same fault, and they left the same graph. -/
def Concur (x y : EStateM.Result Fault Registry Resolution) : Prop :=
  Alike (fun s t => t.graph = s.graph) (fun s t => t.graph = s.graph) x y

/-- What resolving comes to depends on the rules and the sources only in what they give to
a pass. -/
theorem resolve_concur (registrar : Registrar) {rules rules' : IgnoreRules}
    {sources sources' : List VariantSource}
    (h : sources'.flatMap (VariantSource.entries rules') =
      sources.flatMap (VariantSource.entries rules)) (registry : Registry) :
    Concur (resolve { registrar, rules, sources } registry).2
      (resolve { registrar, rules := rules', sources := sources' } registry).2 := by
  let r : Resolver := { registrar, rules, sources }
  let r' : Resolver := { registrar, rules := rules', sources := sources' }
  have hentries : r'.entries = r.entries := h
  have hsurvivors : r'.survivors = r.survivors := by
    rw [← ofEntries_entries, hentries, ofEntries_entries]
  have hfollows := r.resolve_follows rfl registry
  have hfollows' := r'.resolve_follows rfl registry
  rw [course, hentries, hsurvivors] at hfollows'
  exact Alike.of_follows hfollows hfollows'

/-- Sources with the same boot class path give to a pass what one source gives that lists
all their variants. -/
theorem entries_of_split (rules : IgnoreRules) {boot : List String}
    {sources : List VariantSource}
    (h : ∀ s ∈ sources, s.boot = boot ∧ ∃ vs, s.variants = .ok vs) :
    sources.flatMap (VariantSource.entries rules) =
      (VariantSource.fixed (sources.flatMap VariantSource.listed) boot).entries rules := by
  have hfixed : ∀ vs, (VariantSource.fixed vs boot).entries rules =
      ((rules.kept vs).flatMap (VariantSource.enlistments rules boot)).map .ok :=
    fun vs => VariantSource.entries_of_listed rules ⟨vs, rfl⟩
  induction sources with
  | nil => rfl
  | cons s sources ih =>
      obtain ⟨⟨hboot, hlisted⟩, hrest⟩ := List.forall_mem_cons.1 h
      rw [List.flatMap_cons, ih hrest, VariantSource.entries_of_listed _ hlisted,
        VariantSource.survivors, hboot, hfixed, hfixed, List.flatMap_cons,
        IgnoreRules.kept_append, List.flatMap_append, List.map_append]

/-- A list of variants may be spread over any number of sources with the same boot class
path: resolving comes to the same as resolving the list in one source. -/
theorem resolve_split (registrar : Registrar) (rules : IgnoreRules) (boot : List String)
    (variants : List PrimaryVariant) (sources : List VariantSource) (registry : Registry)
    (hlist : sources.flatMap VariantSource.listed = variants)
    (hsources : ∀ s ∈ sources, s.boot = boot ∧ ∃ vs, s.variants = .ok vs) :
    Concur (resolve { registrar, rules, sources } registry).2
      (resolveVariants registrar rules variants boot registry) := by
  refine resolve_concur registrar ?_ registry
  rw [entries_of_split rules hsources, hlist]
  exact List.append_nil _

theorem resolve_split_debug_release :
    let debug : PrimaryVariant := { name := "debug", buildType := "debug" }
    let release : PrimaryVariant :=
      { name := "release", buildType := "release"
        secondaries := [{ name := "releaseUnitTest", buildType := "release" }] }
    let boot := ["android.jar"]
    let sources : List VariantSource := [.fixed [debug] boot, .fixed [] boot, .fixed [release] boot]
    let split := (resolve { registrar := ⟨fun _ => true, {}⟩, rules := {}, sources } {}).2
    returned split = true ∧
      Concur split (resolveVariants ⟨fun _ => true, {}⟩ {} [debug, release] boot {}) := by
  intro debug release boot sources split
  refine ⟨by decide +kernel, resolve_split _ _ boot [debug, release] sources {} rfl ?_⟩
  simp [sources, VariantSource.fixed]

/-- Ignoring what either of two rules ignores comes to the same as taking away what the one
ignores and then ignoring by the other. So the order of the rules makes no difference, nor
does ignoring by one of them a second time. -/
theorem resolve_union (registrar : Registrar) (a b : IgnoreRules)
    (sources : List VariantSource) (registry : Registry) :
    let under (rules : IgnoreRules) (sources : List VariantSource) :=
      (resolve { registrar, rules, sources } registry).2
    Concur (under (a.union b) sources) (under a (sources.map (·.without b))) ∧
      under (b.union a) sources = under (a.union b) sources ∧
      under ((a.union b).union b) sources = under (a.union b) sources := by
  intro under
  refine ⟨resolve_concur registrar ?_ registry, ?_, ?_⟩
  · simp only [List.flatMap_map, VariantSource.entries_without]
  · rw [IgnoreRules.union_comm]
  · rw [IgnoreRules.union_union_self]

end Resolver

end AnalysisPlan
