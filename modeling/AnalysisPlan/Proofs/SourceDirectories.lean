import AnalysisPlan.Proofs.ListedVariants

/-!
# Source directories and the names of variants

A variant's own source set stands last among its source sets, and is made of the flavors
and the build type by another formula than the variant's name. The two agree as soon as
the flavors have a name together or there are none (`exists_sourceSetParts_concat`). The
source sets of test code are those of production code under other names, so both are laid
out alike (`Directories.laysOut_sourceDirs`).
-/

namespace AnalysisPlan

/-- The source sets that a variant shares with others: those of its flavors, of two flavors
and more together, and of its build type. -/
def sharedParts (flavors : List Flavor) (buildType : String) : List String :=
  flavors.map (·.name) ++ (if 1 < flavors.length then [combinedName flavors] else []) ++
    [buildType]

theorem sourceSetParts_eq (flavors : List Flavor) (buildType : String) :
    sourceSetParts flavors buildType = sharedParts flavors buildType ++
      if flavors = [] then [] else [combinedName flavors ++ Text.capitalize buildType] := by
  simp only [sourceSetParts, sharedParts, List.isEmpty_iff, gt_iff_lt]

theorem length_sourceSetParts (flavors : List Flavor) (buildType : String) :
    (sourceSetParts flavors buildType).length =
      flavors.length + (if 1 < flavors.length then 1 else 0) + 1 +
        if 1 ≤ flavors.length then 1 else 0 := by
  have hnil : flavors = [] ↔ ¬ 1 ≤ flavors.length := by
    rw [← List.length_eq_zero_iff]
    omega
  simp only [sourceSetParts_eq, sharedParts, List.length_append, List.length_map,
    apply_ite List.length, List.length_cons, List.length_nil, Nat.zero_add, hnil, ite_not]

/-- The last source set is named like the variant, unless flavors are there that have no
name together. -/
theorem exists_sourceSetParts_concat (flavors : List Flavor) (buildType : String)
    (h : flavors = [] ∨ combinedName flavors ≠ "") :
    ∃ parts, sourceSetParts flavors buildType =
      parts ++ [AndroidOptions.variantName (combinedName flavors) buildType] := by
  rw [sourceSetParts_eq]
  by_cases hflavors : flavors = []
  · subst hflavors
    exact ⟨[], rfl⟩
  · have hcombined : combinedName flavors ≠ "" := h.resolve_left hflavors
    rw [if_neg hflavors, AndroidOptions.variantName, if_neg hcombined]
    exact ⟨_, rfl⟩

theorem sourceSetNames_production (flavors : List Flavor) (buildType : String) :
    sourceSetNames "" flavors buildType = "main" :: (sourceSetParts flavors buildType).map id := by
  rw [List.map_id]
  rfl

theorem sourceSetNames_of_ne {role : String} (h : role ≠ "") (flavors : List Flavor)
    (buildType : String) :
    sourceSetNames role flavors buildType = role ::
      (sourceSetParts flavors buildType).map fun part => role ++ Text.capitalize part :=
  if_neg h

namespace Directories

variable {d : Directories}

def sourceSetDirs (d : Directories) (sourceSet : String) : List String :=
  ["java", "kotlin"].map fun language => joinPaths d.project ["src", sourceSet, language]

theorem sourceDirs_eq_flatMap (d : Directories) (sourceSets : List String) :
    d.sourceDirs sourceSets = sourceSets.flatMap d.sourceSetDirs := rfl

theorem sourceDirs_cons (d : Directories) (s : String) (sourceSets : List String) :
    d.sourceDirs (s :: sourceSets) = d.sourceSetDirs s ++ d.sourceDirs sourceSets := rfl

theorem sourceDirs_concat (d : Directories) (sourceSets : List String) (s : String) :
    d.sourceDirs (sourceSets ++ [s]) = d.sourceDirs sourceSets ++ d.sourceSetDirs s := by
  simp only [sourceDirs_eq_flatMap, List.flatMap_append, List.flatMap_singleton]

@[simp] theorem length_sourceSetDirs (d : Directories) (s : String) :
    (d.sourceSetDirs s).length = 2 := rfl

theorem length_sourceDirs (d : Directories) (sourceSets : List String) :
    (d.sourceDirs sourceSets).length = 2 * sourceSets.length := by
  induction sourceSets with
  | nil => rfl
  | cons s sourceSets ih =>
      rw [sourceDirs_cons, List.length_append, ih, length_sourceSetDirs, List.length_cons]
      omega

theorem take_sourceDirs_cons (d : Directories) (s : String) (sourceSets : List String) :
    (d.sourceDirs (s :: sourceSets)).take 2 = d.sourceSetDirs s := by
  rw [sourceDirs_cons]
  exact List.take_left' (d.length_sourceSetDirs s)

theorem drop_sourceDirs_concat (d : Directories) (sourceSets : List String) (s : String) :
    (d.sourceDirs (sourceSets ++ [s])).drop
      ((d.sourceDirs (sourceSets ++ [s])).length - 2) = d.sourceSetDirs s := by
  rw [sourceDirs_concat, List.length_append, length_sourceSetDirs, Nat.add_sub_cancel]
  exact List.drop_left

/-- How the source directories are laid out for a primary variant `v` of some flavors and a
build type, where `called` names the source set for a part of a variant's name. They begin
with those of the source set `general` and end with those of the one named like `v`. Between
these are those of every flavor, of two flavors and more together, and of the build type. -/
structure LaysOut (d : Directories) (general : String) (called : String → String)
    (choice : List Flavor × String) (v : Variant) (sources : List String) : Prop where
  first : sources.take 2 = d.sourceSetDirs general
  last : choice.1 = [] ∨ v.flavor ≠ "" →
    sources.drop (sources.length - 2) = d.sourceSetDirs (called v.name)
  between : sources = d.sourceSetDirs general ++
    ((choice.1.map (·.name) ++ (if 1 < choice.1.length then [v.flavor] else []) ++
      [choice.2]).map called).flatMap d.sourceSetDirs ++
    if choice.1 = [] then []
    else d.sourceSetDirs (called (v.flavor ++ Text.capitalize choice.2))
  length : sources.length = 2 * (1 + choice.1.length +
    (if 1 < choice.1.length then 1 else 0) + 1 + if 1 ≤ choice.1.length then 1 else 0)

theorem laysOut_sourceDirs (d : Directories) (general : String) (called : String → String)
    (choice : List Flavor × String) {v : Variant} (hflavor : v.flavor = combinedName choice.1)
    (hname : v.name = AndroidOptions.variantName (combinedName choice.1) choice.2) :
    d.LaysOut general called choice v
      (d.sourceDirs (general :: (sourceSetParts choice.1 choice.2).map called)) := by
  constructor
  · exact d.take_sourceDirs_cons general _
  · intro h
    obtain ⟨parts, hparts⟩ := exists_sourceSetParts_concat choice.1 choice.2 (hflavor ▸ h)
    rw [hparts, List.map_append, ← List.cons_append, hname]
    exact d.drop_sourceDirs_concat _ _
  · rw [sourceDirs_cons, sourceDirs_eq_flatMap, sourceSetParts_eq, List.map_append,
      List.flatMap_append, ← List.append_assoc, hflavor]
    congr 1
    split
    · rfl
    · exact List.flatMap_singleton ..
  · rw [length_sourceDirs, List.length_cons, List.length_map, length_sourceSetParts]
    omega

end Directories

namespace AndroidOptions

variable {a : AndroidOptions} {d : Directories} {tested : Bool} {vs : List PrimaryVariant}

theorem laysOut_primaryVariant (a : AndroidOptions) (d : Directories) (tested : Bool)
    (choice : List Flavor × String) :
    d.LaysOut "main" id choice (a.primaryVariant d tested choice.1 choice.2).toVariant
      (a.primaryVariant d tested choice.1 choice.2).sources := by
  have hnames := sourceSetNames_production choice.1 choice.2
  have hlayout := d.laysOut_sourceDirs "main" id choice
    (v := (a.primaryVariant d tested choice.1 choice.2).toVariant) rfl rfl
  rwa [← hnames] at hlayout

/-- Test code has its own source sets, which begin with its role. -/
theorem laysOut_secondary (a : AndroidOptions) (d : Directories) (tested : Bool)
    (choice : List Flavor × String) {w : Variant}
    (hw : w ∈ (a.primaryVariant d tested choice.1 choice.2).secondaries) :
    ∃ role, (w.kind, role) ∈ [(.unitTest, "test"), (.androidTest, "androidTest")] ∧
      d.LaysOut role (role ++ Text.capitalize ·) choice
        (a.primaryVariant d tested choice.1 choice.2).toVariant w.sources := by
  obtain ⟨kind, hkind, rfl⟩ := exists_of_mem_secondaries hw
  have hrole : kind.sourceSetRole ≠ "" ∧ (kind, kind.sourceSetRole) ∈
      [(VariantKind.unitTest, "test"), (.androidTest, "androidTest")] := by
    cases kind with
    | production => exact absurd rfl (kind_ne_production_of_mem_testKinds hkind)
    | unitTest => decide
    | androidTest => decide
  refine ⟨_, hrole.2, ?_⟩
  rw [variantOf, sourceSetNames_of_ne hrole.1]
  exact d.laysOut_sourceDirs _ _ choice rfl rfl

/-- The primary variants of a project stand for its combinations of flavors and its build
types, and the source directories of each are laid out from `main` to the source set of its
own name. Those of its test variants are laid out likewise, from `test` or `androidTest` to
the source set that is called by this and the variant's name in camel case. -/
theorem laysOut_variants (h : a.variants d tested = .ok vs) :
    ∃ combinations, a.flavorCombinations = .ok combinations ∧
      List.Forall₂ (fun choice v =>
          v.flavor = combinedName choice.1 ∧
          d.LaysOut "main" id choice v.toVariant v.sources ∧
          ∀ w ∈ v.secondaries,
            ∃ role, (w.kind, role) ∈ [(.unitTest, "test"), (.androidTest, "androidTest")] ∧
              d.LaysOut role (role ++ Text.capitalize ·) choice v.toVariant w.sources)
        (combinations.product a.effectiveBuildTypes) vs := by
  obtain ⟨combinations, hcombinations, rfl⟩ := variants_eq_ok_iff.1 h
  refine ⟨combinations, hcombinations, ?_⟩
  rw [List.forall₂_map_right_iff, List.forall₂_same]
  intro choice _
  exact ⟨rfl, a.laysOut_primaryVariant d tested choice,
    fun w hw => a.laysOut_secondary d tested choice hw⟩

theorem laysOut_variants_freeBeta :
    let a : AndroidOptions :=
      { kind := .library
        buildTypes := some ["debug"]
        flavorDimensions := ["tier", "stage"]
        productFlavors := [⟨"free", "tier"⟩, ⟨"beta", "stage"⟩] }
    ∃ v, a.variants ⟨"/app", "/app/build"⟩ true = .ok [v] ∧ v.name = "freeBetaDebug" ∧
      v.sources.length = 12 ∧
      v.sources.take 2 = ["/app/src/main/java", "/app/src/main/kotlin"] ∧
      v.sources.drop 10 = ["/app/src/freeBetaDebug/java", "/app/src/freeBetaDebug/kotlin"] ∧
      v.secondaries.map (·.kind) = [.androidTest, .unitTest] ∧
      ∀ w ∈ v.secondaries, w.kind = .unitTest → w.sources.drop 10 =
        ["/app/src/testFreeBetaDebug/java", "/app/src/testFreeBetaDebug/kotlin"] := by
  intro a
  let choice : List Flavor × String := ([⟨"free", "tier"⟩, ⟨"beta", "stage"⟩], "debug")
  let v := a.primaryVariant ⟨"/app", "/app/build"⟩ true choice.1 choice.2
  have hvariants : a.variants ⟨"/app", "/app/build"⟩ true = .ok [v] := rfl
  obtain ⟨combinations, hcombinations, hvs⟩ := laysOut_variants hvariants
  obtain rfl : [choice.1] = combinations := Except.ok.inj hcombinations
  obtain ⟨⟨-, hv, hsecondaries⟩, -⟩ := List.forall₂_cons.1 hvs
  have hflavor : v.flavor ≠ "" := by decide
  have hname : v.name = "freeBetaDebug" := by decide
  refine ⟨v, hvariants, hname, hv.length, ?_, ?_, rfl, fun w hw hkind => ?_⟩
  · rw [hv.first]
    decide
  · have hlast := hv.last (.inr hflavor)
    have hlength : v.sources.length = 12 := hv.length
    rw [hlength, hname] at hlast
    exact hlast.trans (by decide)
  · obtain ⟨role, hrole, hw⟩ := hsecondaries w hw
    obtain rfl : role = "test" := by simpa [hkind] using hrole
    have hlast := hw.last (.inr hflavor)
    have hlength : w.sources.length = 12 := hw.length
    rw [hlength, hname] at hlast
    exact hlast.trans (by decide)

end AndroidOptions

end AnalysisPlan
