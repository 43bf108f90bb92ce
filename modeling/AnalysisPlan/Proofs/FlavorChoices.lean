import AnalysisPlan.Android.Flavors
import Mathlib.Algebra.BigOperators.Group.List.Basic
import Mathlib.Data.List.FinRange
import Mathlib.Data.List.Forall2

/-!
# The combinations of flavors

A combination takes one flavor of every dimension. Flavors may be declared twice, and a
dimension may be, so combinations are told apart by the places at which their flavors are
declared: a pick names a place for every dimension, and is read off as a combination
(`AndroidOptions.map_occurrencesOf`). Choosing from lists of places in increasing order
comes upon every pick once, in lexicographic order (`AndroidOptions.pairwise_choices`), so
the combinations are those of all picks in this order
(`AndroidOptions.flavorCombinations_lists`).
-/

namespace AnalysisPlan

namespace AndroidOptions

section Choices

variable {α β : Type} {lists : List (List α)}

/-- A choice takes one item from each list. -/
theorem mem_choices_iff {choice : List α} :
    choice ∈ choices lists ↔ List.Forall₂ (· ∈ ·) choice lists := by
  induction lists generalizing choice with
  | nil => simp
  | cons xs rest ih =>
      simp only [choices_cons, List.mem_flatMap, List.mem_map, ih, List.forall₂_cons_right_iff]
      constructor
      · rintro ⟨x, hx, tail, htail, rfl⟩
        exact ⟨x, tail, hx, htail, rfl⟩
      · rintro ⟨x, tail, hx, htail, rfl⟩
        exact ⟨x, hx, tail, htail, rfl⟩

/-- Items may be read off before the choice is made or after it. -/
theorem choices_map (f : α → β) (lists : List (List α)) :
    choices (lists.map (List.map f)) = (choices lists).map (List.map f) := by
  induction lists with
  | nil => rfl
  | cons xs rest ih =>
      rw [List.map_cons, choices_cons, ih, choices_cons, List.flatMap_map, List.map_flatMap]
      simp only [List.map_map, Function.comp_def, List.map_cons]

/-- Choices from increasing lists come in lexicographic order, so none comes twice. -/
theorem pairwise_choices [LT α] (h : ∀ xs ∈ lists, xs.Pairwise (· < ·)) :
    (choices lists).Pairwise (· < ·) := by
  induction lists with
  | nil => exact List.pairwise_singleton _ _
  | cons xs rest ih =>
      obtain ⟨hxs, hrest⟩ := List.forall_mem_cons.1 h
      rw [choices_cons, List.pairwise_flatMap]
      constructor
      · intro x _
        rw [List.pairwise_map]
        exact (ih hrest).imp fun hlt => List.Lex.cons hlt
      · refine hxs.imp fun {x y} hxy choice hchoice choice' hchoice' => ?_
        obtain ⟨tail, -, rfl⟩ := List.mem_map.1 hchoice
        obtain ⟨tail', -, rfl⟩ := List.mem_map.1 hchoice'
        exact List.Lex.rel hxy

end Choices

/-- The places at which the flavors of a dimension are declared. -/
def occurrencesOf (a : AndroidOptions) (dimension : String) :
    List (Fin a.productFlavors.length) :=
  (List.finRange a.productFlavors.length).filter
    fun i => (a.productFlavors.get i).dimension == dimension

/-- The flavors of a pick belong to the declared dimensions, in their order. -/
def Picks (a : AndroidOptions) (pick : List (Fin a.productFlavors.length)) : Prop :=
  List.Forall₂ (fun i d => (a.productFlavors.get i).dimension = d) pick a.flavorDimensions

variable {a : AndroidOptions}

theorem mem_occurrencesOf {i : Fin a.productFlavors.length} {dimension : String} :
    i ∈ a.occurrencesOf dimension ↔ (a.productFlavors.get i).dimension = dimension := by
  simp [occurrencesOf]

theorem map_occurrencesOf (a : AndroidOptions) (dimension : String) :
    (a.occurrencesOf dimension).map a.productFlavors.get = a.flavorsOf dimension := by
  have hdeclared := List.map_get_finRange a.productFlavors
  calc (a.occurrencesOf dimension).map a.productFlavors.get
      = ((List.finRange a.productFlavors.length).map a.productFlavors.get).filter
          (·.dimension == dimension) := by rw [List.filter_map]; rfl
    _ = a.flavorsOf dimension := by rw [hdeclared, flavorsOf]

theorem pairwise_occurrencesOf (a : AndroidOptions) (dimension : String) :
    (a.occurrencesOf dimension).Pairwise (· < ·) :=
  (List.pairwise_lt_finRange _).filter _

/-- What is chosen from the places of all dimensions are the picks. -/
theorem mem_choices_occurrencesOf {pick : List (Fin a.productFlavors.length)} :
    pick ∈ choices (a.flavorDimensions.map a.occurrencesOf) ↔ a.Picks pick := by
  rw [mem_choices_iff, List.forall₂_map_right_iff, Picks]
  simp only [mem_occurrencesOf]

theorem strayFlavor?_eq_none_iff :
    a.strayFlavor? = none ↔ ∀ f ∈ a.productFlavors, f.dimension ∈ a.flavorDimensions := by
  simp [strayFlavor?]

theorem bareDimension?_eq_none_iff :
    a.bareDimension? = none ↔
      ∀ d ∈ a.flavorDimensions, ∃ f ∈ a.productFlavors, f.dimension = d := by
  simp [bareDimension?, flavorsOf]

/-- Where flavors are declared, they are combined exactly if each has a declared dimension
and each dimension has a flavor. -/
theorem flavorCombinations_eq_ok_iff (h : a.productFlavors ≠ [])
    {combinations : List (List Flavor)} :
    a.flavorCombinations = .ok combinations ↔
      ((∀ f ∈ a.productFlavors, f.dimension ∈ a.flavorDimensions) ∧
        ∀ d ∈ a.flavorDimensions, ∃ f ∈ a.productFlavors, f.dimension = d) ∧
      combinations = choices (a.flavorDimensions.map a.flavorsOf) := by
  rw [← strayFlavor?_eq_none_iff, ← bareDimension?_eq_none_iff, flavorCombinations,
    if_neg (by simpa using h)]
  cases a.strayFlavor? with
  | some f => simp
  | none =>
      cases a.bareDimension? with
      | some d => simp
      | none => simp [eq_comm]

theorem exists_flavorCombinations_eq_error_iff (h : a.productFlavors ≠ []) :
    (∃ f, a.flavorCombinations = .error f) ↔
      (∃ f ∈ a.productFlavors, f.dimension ∉ a.flavorDimensions) ∨
        ∃ d ∈ a.flavorDimensions, ∀ f ∈ a.productFlavors, f.dimension ≠ d := by
  have hnot : (∃ f, a.flavorCombinations = .error f) ↔
      ¬∃ combinations, a.flavorCombinations = .ok combinations := by
    cases a.flavorCombinations <;> simp
  simp only [hnot, flavorCombinations_eq_ok_iff h, exists_and_left, exists_eq, and_true]
  rw [Classical.not_and_iff_not_or_not]
  push Not
  rfl

/-- Flavors cannot be combined exactly if there are any, and one of them belongs to no
declared dimension or a declared dimension has none. Without flavors there is the one
combination that takes none. Otherwise the combinations are those of all picks, in
lexicographic order of the places of declaration, the last dimension varying fastest;
their number is the product of the numbers of flavors of all dimensions. -/
theorem flavorCombinations_lists (a : AndroidOptions) :
    ((∃ f, a.flavorCombinations = .error f) ↔
      a.productFlavors ≠ [] ∧
        ((∃ f ∈ a.productFlavors, f.dimension ∉ a.flavorDimensions) ∨
          ∃ d ∈ a.flavorDimensions, ∀ f ∈ a.productFlavors, f.dimension ≠ d)) ∧
    (a.productFlavors = [] → a.flavorCombinations = .ok [[]]) ∧
    (a.productFlavors ≠ [] →
      (∀ f ∈ a.productFlavors, f.dimension ∈ a.flavorDimensions) →
      (∀ d ∈ a.flavorDimensions, ∃ f ∈ a.productFlavors, f.dimension = d) →
      ∃ picks : List (List (Fin a.productFlavors.length)),
        a.flavorCombinations = .ok (picks.map (·.map a.productFlavors.get)) ∧
        (∀ pick, pick ∈ picks ↔ a.Picks pick) ∧ picks.Pairwise (· < ·) ∧
        picks.length =
          (a.flavorDimensions.map fun d => a.productFlavors.countP (·.dimension = d)).prod) := by
  have hnone : a.productFlavors = [] → a.flavorCombinations = .ok [[]] := by
    intro h
    simp [flavorCombinations, h]
  refine ⟨?_, hnone, fun h hdimensions hflavors => ?_⟩
  · by_cases h : a.productFlavors = []
    · simp [hnone h, h]
    · rw [exists_flavorCombinations_eq_error_iff h]
      exact (and_iff_right h).symm
  · refine ⟨choices (a.flavorDimensions.map a.occurrencesOf),
      (flavorCombinations_eq_ok_iff h).2 ⟨⟨hdimensions, hflavors⟩, ?_⟩,
      fun _ => mem_choices_occurrencesOf, pairwise_choices ?_, ?_⟩
    · rw [← choices_map, List.map_map]
      simp only [Function.comp_def, map_occurrencesOf]
    · intro places hplaces
      obtain ⟨d, -, rfl⟩ := List.mem_map.1 hplaces
      exact a.pairwise_occurrencesOf d
    · have hcount : ∀ d, (a.occurrencesOf d).length =
          a.productFlavors.countP (·.dimension = d) := by
        intro d
        rw [← List.length_map a.productFlavors.get, map_occurrencesOf, flavorsOf,
          ← List.countP_eq_length_filter]
        rfl
      rw [length_choices, List.map_map, List.prod_eq_foldr]
      simp only [Function.comp_def, hcount]

-- A dimension that is declared twice is combined with itself.
example :
    let free : Flavor := { name := "free", dimension := "tier" }
    let paid : Flavor := { name := "paid", dimension := "tier" }
    flavorCombinations
        { kind := .library, flavorDimensions := ["tier", "tier"], productFlavors := [free, paid] } =
      .ok [[free, free], [free, paid], [paid, free], [paid, paid]] := by
  decide

end AndroidOptions

end AnalysisPlan
