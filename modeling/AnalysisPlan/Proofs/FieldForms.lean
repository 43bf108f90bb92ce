import AnalysisPlan.Proofs.IgnoredNames
import Mathlib.Data.List.Forall2

/-!
# What a field says

A block declares its fields with the form that their values have (`Description.Form`).
Reading a field succeeds with a value exactly if the field says that value: it holds it, or
it is missing and the value is its default (`Description.Says`). Some value is said exactly
if the field is missing or has its form (`Description.Form.Reads.exists_says_iff`).
-/

namespace AnalysisPlan

theorem bind_eq_ok_iff {ε α β : Type} {x : Except ε α} {f : α → Except ε β} {b : β} :
    (x >>= f) = .ok b ↔ ∃ a, x = .ok a ∧ f a = .ok b := by
  refine ⟨exists_of_bind_eq_ok, ?_⟩
  rintro ⟨a, rfl, h⟩
  exact h

theorem mapM_eq_ok_iff {ε α β : Type} {f : α → Except ε β} {xs : List α} {ys : List β} :
    xs.mapM f = .ok ys ↔ List.Forall₂ (fun x y => f x = .ok y) xs ys := by
  induction xs generalizing ys with
  | nil => cases ys <;> simp [pure, Except.pure]
  | cons x xs ih =>
      rw [List.mapM_cons, bind_eq_ok_iff]
      simp only [bind_eq_ok_iff, ih, List.forall₂_cons_left_iff, pure, Except.pure,
        Except.ok.injEq]
      constructor
      · rintro ⟨y, hy, rest, hrest, rfl⟩
        exact ⟨y, rest, hy, hrest, rfl⟩
      · rintro ⟨y, rest, hy, hrest, rfl⟩
        exact ⟨y, hy, rest, hrest, rfl⟩

namespace Description

/-! ## Forms of values -/

/-- The forms that the value of a field can be declared to have. -/
inductive Form where
  | text
  | flag
  | number
  | texts
  | flavors
deriving Repr, DecidableEq

def isText : Json.Value → Bool
  | .str _ => true
  | _ => false

/-- Whether a value is an object whose name and dimension are texts. -/
def isFlavor : Json.Value → Bool
  | .object fields => (fields.lookup "name").any isText && (fields.lookup "dimension").any isText
  | _ => false

/-- Whether a value has a form. A truth value is no number. -/
def Form.fits : Form → Json.Value → Bool
  | text, .str _ => true
  | flag, .bool _ => true
  | number, .int _ => true
  | texts, .list items => items.all isText
  | flavors, .list items => items.all isFlavor
  | _, _ => false

/-- Whether all fields of a table that are there have their declared forms. Fields that are
not in the table may hold anything. -/
def declared (forms : List (String × Form)) (fields : Fields) : Bool :=
  forms.all fun entry => (fields.lookup entry.1).all entry.2.fits

/-! ## What fields say -/

def IsText (v : Json.Value) (s : String) : Prop := v = .str s

def IsNumber (v : Json.Value) (n : Int) : Prop := v = .int n

def IsTexts (v : Json.Value) (ss : List String) : Prop := v = .list (ss.map .str)

def IsFlavor (v : Json.Value) (f : Flavor) : Prop :=
  ∃ fields, v = .object fields ∧ fields.lookup "name" = some (.str f.name) ∧
    fields.lookup "dimension" = some (.str f.dimension)

def IsFlavors (v : Json.Value) (fs : List Flavor) : Prop :=
  ∃ items, v = .list items ∧ List.Forall₂ IsFlavor items fs

def Given {α : Type} (R : Json.Value → α → Prop) (v : Json.Value) (o : Option α) : Prop :=
  ∃ a, o = some a ∧ R v a

/-- A field holds what reads as `a`, or it is missing and `a` is the default. -/
def Says {α : Type} (R : Json.Value → α → Prop) (default : α) (fields : Fields) (key : String)
    (a : α) : Prop :=
  match fields.lookup key with
  | none => a = default
  | some v => R v a

variable {α β : Type} {R : Json.Value → α → Prop} {fields : Fields} {key place : String}
  {v : Json.Value} {items : List Json.Value}

/-! ## Reading fields -/

theorem shaped_eq_ok_iff {shape : Shape α} {a : α} :
    shaped shape key v = .ok a ↔ shape.read v = some a := by
  unfold shaped
  cases shape.read v <;> simp

theorem read_text_iff {s : String} : Shape.text.read v = some s ↔ IsText v s := by
  cases v <;> simp [Shape.text, IsText]

theorem read_number_iff {n : Int} : Shape.number.read v = some n ↔ IsNumber v n := by
  cases v <;> simp [Shape.number, IsNumber]

theorem read_list_iff : Shape.list.read v = some items ↔ v = .list items := by
  cases v <;> simp [Shape.list]

theorem optional_eq_ok_iff {shape : Shape α} (hshape : ∀ v a, shape.read v = some a ↔ R v a)
    {o : Option α} :
    optional shape fields key = .ok o ↔ Says (Given R) none fields key o := by
  unfold optional Says
  cases fields.lookup key with
  | none => simp [eq_comm]
  | some v =>
      simp only [Given, ← hshape, shaped]
      cases shape.read v <;> simp [Except.map, eq_comm]

theorem withDefault_eq_ok_iff {shape : Shape α} (hshape : ∀ v a, shape.read v = some a ↔ R v a)
    {default a : α} :
    withDefault shape fields key default = .ok a ↔ Says R default fields key a := by
  unfold withDefault optional Says
  cases fields.lookup key with
  | none => simp [Except.map, eq_comm]
  | some v =>
      simp only [← hshape, shaped]
      cases shape.read v <;> simp [Except.map]

theorem required_eq_ok_iff {shape : Shape α} (hshape : ∀ v a, shape.read v = some a ↔ R v a)
    {a : α} :
    required shape fields key = .ok a ↔ ∃ v, fields.lookup key = some v ∧ R v a := by
  unfold required
  cases fields.lookup key with
  | none => simp
  | some v => simp [shaped_eq_ok_iff, hshape]

theorem texts_eq_ok_iff {ss : List String} : texts place items = .ok ss ↔ items = ss.map .str := by
  refine ⟨eq_map_str_of_texts, ?_⟩
  rintro rfl
  exact texts_map_str place ss

theorem flavor_eq_ok_iff {f : Flavor} : flavor v = .ok f ↔ IsFlavor v f := by
  unfold IsFlavor
  cases v with
  | object fields =>
      simp only [flavor, bind_eq_ok_iff, required_eq_ok_iff fun _ _ => read_text_iff, IsText, pure,
        Except.pure, Except.ok.injEq, Json.Value.object.injEq]
      constructor
      · rintro ⟨name, ⟨_, hname, rfl⟩, dimension, ⟨_, hdimension, rfl⟩, rfl⟩
        exact ⟨fields, rfl, hname, hdimension⟩
      · rintro ⟨_, rfl, hname, hdimension⟩
        exact ⟨f.name, ⟨_, hname, rfl⟩, f.dimension, ⟨_, hdimension, rfl⟩, rfl⟩
  | _ => simp [flavor]

/-- A list that may be missing, whose items are read behind it. -/
theorem exists_list_iff {read : List Json.Value → Except Fault α} {default a : α}
    (hempty : read [] = .ok default)
    (hR : ∀ v a, R v a ↔ ∃ items, v = .list items ∧ read items = .ok a) :
    (∃ items, withDefault Shape.list fields key [] = .ok items ∧ read items = .ok a) ↔
      Says R default fields key a := by
  simp only [withDefault_eq_ok_iff fun _ _ => read_list_iff, Says]
  cases fields.lookup key with
  | none => simp [hempty, eq_comm]
  | some v => exact (hR v a).symm

theorem textsField_eq_ok_iff {ss : List String} :
    textsField place fields key = .ok ss ↔ Says IsTexts [] fields key ss := by
  unfold textsField
  rw [bind_eq_ok_iff]
  refine exists_list_iff rfl fun v ss => ?_
  simp only [IsTexts, texts_eq_ok_iff, exists_eq_right]

theorem flavors_eq_ok_iff {fs : List Flavor} :
    (∃ items, withDefault Shape.list fields key [] = .ok items ∧ items.mapM flavor = .ok fs) ↔
      Says IsFlavors [] fields key fs := by
  refine exists_list_iff rfl fun v fs => ?_
  simp only [IsFlavors, mapM_eq_ok_iff, flavor_eq_ok_iff]

theorem mapM_some_eq_ok_iff {ε : Type} {f : α → Except ε β} {a : α} {o : Option β} :
    (some a).mapM f = .ok o ↔ ∃ b, f a = .ok b ∧ some b = o := by
  change (f a >>= fun b => pure (some b)) = _ ↔ _
  simp only [bind_eq_ok_iff, pure, Except.pure, Except.ok.injEq]

/-- A list of texts that need not be given. -/
theorem optionalTexts_eq_ok_iff (place : String) {ss : Option (List String)} :
    (∃ items, optional Shape.list fields key = .ok items ∧ items.mapM (texts place) = .ok ss) ↔
      Says (Given IsTexts) none fields key ss := by
  simp only [optional_eq_ok_iff fun _ _ => read_list_iff, Says]
  cases fields.lookup key with
  | none => simp [pure, Except.pure, eq_comm]
  | some v =>
      constructor
      · rintro ⟨_, ⟨items, rfl, rfl⟩, hread⟩
        obtain ⟨names, hnames, rfl⟩ := mapM_some_eq_ok_iff.1 hread
        exact ⟨names, rfl, congrArg _ (texts_eq_ok_iff.1 hnames)⟩
      · rintro ⟨names, rfl, rfl⟩
        exact ⟨_, ⟨_, rfl, rfl⟩, mapM_some_eq_ok_iff.2 ⟨names, texts_eq_ok_iff.2 rfl, rfl⟩⟩

/-! ## Forms of what is said -/

theorem exists_isText_iff : (∃ s, IsText v s) ↔ isText v = true := by
  cases v <;> simp [IsText, isText]

theorem exists_isFlavor_iff : (∃ f, IsFlavor v f) ↔ isFlavor v = true := by
  cases v with
  | object fields =>
      simp only [IsFlavor, isFlavor, Json.Value.object.injEq, Bool.and_eq_true,
        Option.any_eq_true, ← exists_isText_iff, IsText]
      constructor
      · rintro ⟨f, _, rfl, hname, hdimension⟩
        exact ⟨⟨_, hname, _, rfl⟩, _, hdimension, _, rfl⟩
      · rintro ⟨⟨_, hname, name, rfl⟩, _, hdimension, dimension, rfl⟩
        exact ⟨⟨name, dimension⟩, fields, rfl, hname, hdimension⟩
  | _ => simp [IsFlavor, isFlavor]

theorem exists_forall₂_iff {γ δ : Type} {S : γ → δ → Prop} {xs : List γ} :
    (∃ ys, List.Forall₂ S xs ys) ↔ ∀ x ∈ xs, ∃ y, S x y := by
  induction xs with
  | nil => simp
  | cons x xs ih =>
      simp only [List.forall₂_cons_left_iff, List.forall_mem_cons, ← ih]
      constructor
      · rintro ⟨_, y, ys, hy, hys, rfl⟩
        exact ⟨⟨y, hy⟩, ys, hys⟩
      · rintro ⟨⟨y, hy⟩, ys, hys⟩
        exact ⟨_, y, ys, hy, hys, rfl⟩

theorem forall₂_isText_iff {ss : List String} :
    List.Forall₂ IsText items ss ↔ items = ss.map .str := by
  rw [← List.forall₂_eq_eq_eq, List.forall₂_map_right_iff]
  rfl

/-- A form fits a value if the value reads as something of the form. -/
def Form.Reads (form : Form) (R : Json.Value → α → Prop) : Prop :=
  ∀ v, form.fits v = true ↔ ∃ a, R v a

theorem reads_text : Form.text.Reads IsText := by
  intro v
  cases v <;> simp [Form.fits, IsText]

theorem reads_number : Form.number.Reads IsNumber := by
  intro v
  cases v <;> simp [Form.fits, IsNumber]

theorem reads_texts : Form.texts.Reads IsTexts := by
  intro v
  cases v <;>
    simp [Form.fits, IsTexts, ← forall₂_isText_iff, exists_forall₂_iff, exists_isText_iff]

theorem reads_flavors : Form.flavors.Reads IsFlavors := by
  intro v
  cases v <;> simp [Form.fits, IsFlavors, exists_forall₂_iff, exists_isFlavor_iff]

theorem Form.Reads.given {form : Form} (h : form.Reads R) : form.Reads (Given R) := by
  intro v
  simp [h v, Given]

theorem Form.Reads.exists_says_iff {form : Form} (h : form.Reads R) (default : α) :
    (∃ a, Says R default fields key a) ↔ (fields.lookup key).all form.fits = true := by
  unfold Says
  cases fields.lookup key <;> simp [h _]

end Description

end AnalysisPlan
