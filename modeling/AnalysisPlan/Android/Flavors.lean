import AnalysisPlan.Android.Options
import AnalysisPlan.Fault
import AnalysisPlan.Text.Casing

/-!
# Combining flavors

A variant takes one flavor of every dimension. The combinations are the cross
product of the dimensions in the order of their declaration, the last one varying
fastest; a project without flavors has the one combination that takes none.

Names are put together in camel case: what stands first keeps its case, what
follows has its first letter in upper case.
-/

namespace AnalysisPlan

namespace AndroidOptions

/-- The flavors of a dimension, in the order of their declaration. -/
def flavorsOf (a : AndroidOptions) (dimension : String) : List Flavor :=
  a.productFlavors.filter (·.dimension == dimension)

/-- Every way of taking one item from each list, the last list varying fastest. -/
def choices {α : Type} : List (List α) → List (List α)
  | [] => [[]]
  | xs :: rest => xs.flatMap fun x => (choices rest).map (x :: ·)

def strayFlavor? (a : AndroidOptions) : Option Flavor :=
  a.productFlavors.find? (·.dimension ∉ a.flavorDimensions)

def bareDimension? (a : AndroidOptions) : Option String :=
  a.flavorDimensions.find? fun d => (a.flavorsOf d).isEmpty

def flavorCombinations (a : AndroidOptions) : Except Fault (List (List Flavor)) :=
  if a.productFlavors.isEmpty then .ok [[]]
  else
    match a.strayFlavor? with
    | some f => .error (.undeclaredDimension f.name f.dimension)
    | none =>
      match a.bareDimension? with
      | some d => .error (.emptyDimension d)
      | none => .ok (choices (a.flavorDimensions.map a.flavorsOf))

@[simp] theorem choices_nil {α : Type} : choices ([] : List (List α)) = [[]] := rfl

theorem choices_cons {α : Type} (xs : List α) (rest : List (List α)) :
    choices (xs :: rest) = xs.flatMap fun x => (choices rest).map (x :: ·) := rfl

theorem length_choices {α : Type} (lists : List (List α)) :
    (choices lists).length = (lists.map List.length).foldr (· * ·) 1 := by
  induction lists with
  | nil => rfl
  | cons xs rest ih =>
    rw [choices_cons, List.map_cons, List.foldr_cons, ← ih]
    induction xs with
    | nil => simp
    | cons x xs ihx => simp [ihx, Nat.succ_mul, Nat.add_comm]

end AndroidOptions

def combinedName : List Flavor → String
  | [] => ""
  | f :: fs => f.name ++ String.join (fs.map fun g => Text.capitalize g.name)

/-- The names that a variant's own source sets are made of, from general to
specific. -/
def sourceSetParts (flavors : List Flavor) (buildType : String) : List String :=
  flavors.map (·.name) ++ (if flavors.length > 1 then [combinedName flavors] else []) ++
    [buildType] ++
    (if flavors.isEmpty then [] else [combinedName flavors ++ Text.capitalize buildType])

/-- The source sets that contribute to a variant, from general to specific. The
role is empty for production code, and otherwise begins the names of test code. -/
def sourceSetNames (role : String) (flavors : List Flavor) (buildType : String) : List String :=
  let parts := sourceSetParts flavors buildType
  if role = "" then "main" :: parts
  else role :: parts.map fun part => role ++ Text.capitalize part

end AnalysisPlan
