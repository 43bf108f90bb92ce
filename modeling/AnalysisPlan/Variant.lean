import AnalysisPlan.NameSet

/-!
# Build variants and what to ignore

A variant is one buildable combination of a build type and a flavor. Primary
variants produce the application or library; the test variants that come with a
primary one are its secondaries, and have no secondaries of their own.

Variants are ignored by their own name, by build type or by flavor. The rules are
sets, so it makes no difference in which order or how often a name is given.
-/

namespace AnalysisPlan

/-- The role of a variant. -/
inductive VariantKind where
  | production
  | unitTest
  | androidTest
deriving Repr, DecidableEq

def VariantKind.name : VariantKind → String
  | production => "production"
  | unitTest => "unit_test"
  | androidTest => "android_test"

/-- One buildable combination of a build type and a flavor. -/
structure Variant where
  name : String
  buildType : String
  flavor : String := ""
  sources : List String := []
  classpath : List String := []
  kind : VariantKind := .production
deriving Repr, DecidableEq

/-- A variant with the test variants that belong to it. -/
structure PrimaryVariant extends Variant where
  secondaries : List Variant := []
deriving Repr, DecidableEq

/-- The variants to leave out: by name, by build type, by flavor. -/
structure IgnoreRules where
  variants : NameSet := ∅
  buildTypes : NameSet := ∅
  flavors : NameSet := ∅
deriving DecidableEq

namespace IgnoreRules

def ignores (rules : IgnoreRules) (v : Variant) : Bool :=
  v.name ∈ rules.variants || v.buildType ∈ rules.buildTypes || v.flavor ∈ rules.flavors

/-- The rules that leave out what either side leaves out. -/
def union (a b : IgnoreRules) : IgnoreRules where
  variants := a.variants.union b.variants
  buildTypes := a.buildTypes.union b.buildTypes
  flavors := a.flavors.union b.flavors

def kept (rules : IgnoreRules) (vs : List PrimaryVariant) : List PrimaryVariant :=
  vs.filter fun v => !rules.ignores v.toVariant

def dropped (rules : IgnoreRules) (vs : List PrimaryVariant) : List PrimaryVariant :=
  vs.filter fun v => rules.ignores v.toVariant

theorem ignores_iff (rules : IgnoreRules) (v : Variant) :
    rules.ignores v = true ↔
      v.name ∈ rules.variants ∨ v.buildType ∈ rules.buildTypes ∨ v.flavor ∈ rules.flavors := by
  simp [ignores, or_assoc]

theorem ignores_union (a b : IgnoreRules) (v : Variant) :
    (a.union b).ignores v = (a.ignores v || b.ignores v) := by
  rw [Bool.eq_iff_iff]
  simp only [ignores_iff, union, NameSet.mem_union, Bool.or_eq_true]
  constructor
  · rintro ((h | h) | (h | h) | (h | h)) <;> simp [h]
  · rintro ((h | h | h) | (h | h | h)) <;> simp [h]

@[simp] theorem kept_nil (rules : IgnoreRules) : rules.kept [] = [] := rfl

theorem kept_append (rules : IgnoreRules) (vs ws : List PrimaryVariant) :
    rules.kept (vs ++ ws) = rules.kept vs ++ rules.kept ws := by
  simp [kept, List.filter_append]

end IgnoreRules

end AnalysisPlan
