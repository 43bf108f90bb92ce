import AnalysisPlan.Proofs.FieldForms

/-!
# What an Android block must look like

The options that an Android block is read as are described field by field
(`Description.androidBlock_eq_ok_iff`), and there are some exactly if every known field that
is there has its declared form (`Description.androidOptions_returns_iff`). A block that is
vacant counts as one that is not there, also if it is no object.
-/

namespace AnalysisPlan

namespace Description

def androidForms : List (String × Form) :=
  [("compileSdkVersion", .number), ("buildTypes", .texts), ("flavorDimensions", .texts),
   ("productFlavors", .flavors), ("testBuildType", .text), ("sdkDir", .text),
   ("compileClasspath", .texts)]

variable {fields : Fields}

/-! ## Reading the block -/

/-- What a block says about Android, field by field. -/
structure AndroidSays (fields : Fields) (a : AndroidOptions) : Prop where
  compileSdkVersion : Says IsNumber 29 fields "compileSdkVersion" a.compileSdkVersion
  buildTypes : Says (Given IsTexts) none fields "buildTypes" a.buildTypes
  flavorDimensions : Says IsTexts [] fields "flavorDimensions" a.flavorDimensions
  productFlavors : Says IsFlavors [] fields "productFlavors" a.productFlavors
  testBuildType : Says IsText "debug" fields "testBuildType" a.testBuildType
  sdkDir : Says IsText "" fields "sdkDir" a.sdkDir
  compileClasspath : Says IsTexts [] fields "compileClasspath" a.compileClasspath

theorem androidBlock_eq_ok_iff {kind : AndroidKind} {a : AndroidOptions} :
    androidBlock kind fields = .ok a ↔ a.kind = kind ∧ AndroidSays fields a := by
  unfold androidBlock
  simp only [bind_eq_ok_iff, textsField_eq_ok_iff, withDefault_eq_ok_iff fun _ _ => read_text_iff,
    withDefault_eq_ok_iff fun _ _ => read_number_iff, pure, Except.pure, Except.ok.injEq]
  -- Two lists are read in two steps, with other fields looked at in between.
  constructor
  · rintro ⟨types, htypes, flavors, hflavors, _, hread, _, hsdk, _, htexts, _, hdimensions, _,
      htest, _, hdir, _, hclasspath, rfl⟩
    exact ⟨rfl, {
      compileSdkVersion := hsdk
      buildTypes := (optionalTexts_eq_ok_iff _).1 ⟨types, htypes, htexts⟩
      flavorDimensions := hdimensions
      productFlavors := flavors_eq_ok_iff.1 ⟨flavors, hflavors, hread⟩
      testBuildType := htest
      sdkDir := hdir
      compileClasspath := hclasspath }⟩
  · rintro ⟨rfl, h⟩
    obtain ⟨types, htypes, htexts⟩ :=
      (optionalTexts_eq_ok_iff "android.buildTypes").2 h.buildTypes
    obtain ⟨flavors, hflavors, hread⟩ := flavors_eq_ok_iff.2 h.productFlavors
    exact ⟨types, htypes, flavors, hflavors, _, hread, _, h.compileSdkVersion, _, htexts, _,
      h.flavorDimensions, _, h.testBuildType, _, h.sdkDir, _, h.compileClasspath, rfl⟩

/-! ## Which blocks are read -/

theorem AndroidSays.declared {a : AndroidOptions} (h : AndroidSays fields a) :
    declared androidForms fields = true := by
  simp only [Description.declared, androidForms, List.all_cons, List.all_nil, Bool.and_true,
    Bool.and_eq_true]
  exact ⟨(reads_number.exists_says_iff _).1 ⟨_, h.compileSdkVersion⟩,
    (reads_texts.given.exists_says_iff _).1 ⟨_, h.buildTypes⟩,
    (reads_texts.exists_says_iff _).1 ⟨_, h.flavorDimensions⟩,
    (reads_flavors.exists_says_iff _).1 ⟨_, h.productFlavors⟩,
    (reads_text.exists_says_iff _).1 ⟨_, h.testBuildType⟩,
    (reads_text.exists_says_iff _).1 ⟨_, h.sdkDir⟩,
    (reads_texts.exists_says_iff _).1 ⟨_, h.compileClasspath⟩⟩

theorem exists_androidSays (kind : AndroidKind) (h : declared androidForms fields = true) :
    ∃ a : AndroidOptions, a.kind = kind ∧ AndroidSays fields a := by
  simp only [declared, androidForms, List.all_cons, List.all_nil, Bool.and_true,
    Bool.and_eq_true] at h
  obtain ⟨hsdk, htypes, hdimensions, hflavors, htest, hdir, hclasspath⟩ := h
  obtain ⟨_, hsdk⟩ := (reads_number.exists_says_iff 29).2 hsdk
  obtain ⟨_, htypes⟩ := (reads_texts.given.exists_says_iff none).2 htypes
  obtain ⟨_, hdimensions⟩ := (reads_texts.exists_says_iff []).2 hdimensions
  obtain ⟨_, hflavors⟩ := (reads_flavors.exists_says_iff []).2 hflavors
  obtain ⟨_, htest⟩ := (reads_text.exists_says_iff "debug").2 htest
  obtain ⟨_, hdir⟩ := (reads_text.exists_says_iff "").2 hdir
  obtain ⟨_, hclasspath⟩ := (reads_texts.exists_says_iff []).2 hclasspath
  exact ⟨⟨kind, _, _, _, _, _, _, _⟩, rfl, hsdk, htypes, hdimensions, hflavors, htest, hdir,
    hclasspath⟩

theorem exists_androidBlock_iff (kind : AndroidKind) :
    (∃ a, androidBlock kind fields = .ok a) ↔ declared androidForms fields = true := by
  simp only [androidBlock_eq_ok_iff]
  constructor
  · rintro ⟨a, -, h⟩
    exact h.declared
  · exact exists_androidSays kind

theorem exists_ofPlugins? {plugins : List String}
    (h : ∃ k ∈ AndroidKind.supported, k.name ∈ plugins) :
    ∃ kind, AndroidKind.ofPlugins? plugins = some kind := by
  obtain ⟨k, hk, hmem⟩ := h
  rw [← Option.isSome_iff_exists, AndroidKind.ofPlugins?, List.findSome?_isSome_iff]
  refine ⟨k.name, hmem, ?_⟩
  rw [AndroidKind.ofPlugin?_name (by rintro rfl; simp [AndroidKind.supported] at hk)]
  rfl

theorem androidBlock_nil (kind : AndroidKind) : androidBlock kind [] = .ok { kind } := rfl

/-- A block that Android options are read from: it is vacant, or it is an object whose known
fields have their declared forms. -/
def IsAndroidBlock (b : Json.Value) : Prop :=
  b.isVacant = true ∨ ∃ fields, b = .object fields ∧ declared androidForms fields = true

/-- Next to an Android plugin, a block is read exactly if it is vacant or an object whose known
fields have their declared forms; any other block is a fault. A vacant block, whatever it is,
stands for the options that the first Android plugin brings along. -/
theorem androidOptions_returns_iff {plugins : List String}
    (h : ∃ k ∈ AndroidKind.supported, k.name ∈ plugins) (b : Json.Value) :
    ((∃ a, androidOptions b plugins = .ok (some a)) ↔ IsAndroidBlock b) ∧
      (¬ IsAndroidBlock b → ∃ f, androidOptions b plugins = .error f) ∧
      (b.isVacant = true → ∃ kind, AndroidKind.ofPlugins? plugins = some kind ∧
        androidOptions b plugins = .ok (some { kind })) := by
  obtain ⟨kind, hkind⟩ := exists_ofPlugins? h
  unfold IsAndroidBlock androidOptions
  simp only [hkind]
  cases hvacant : b.isVacant with
  | true => simp [androidBlock_nil, Except.map]
  | false =>
      cases b with
      | object fields =>
          simp only [Json.Value.object.injEq, exists_eq_left', ← exists_androidBlock_iff kind]
          cases androidBlock kind fields <;> simp [Except.map]
      | _ => simp

/-- The block of a library that sets one field and notes something of its own. -/
theorem androidOptions_returns_iff_debug :
    (∃ k ∈ AndroidKind.supported, k.name ∈ ["com.android.library"]) ∧
      ∃ a, androidOptions (.object [("buildTypes", .list [.str "debug"]), ("note", .null)])
        ["com.android.library"] = .ok (some a) := by
  have h : ∃ k ∈ AndroidKind.supported, k.name ∈ ["com.android.library"] := by decide
  exact ⟨h, (androidOptions_returns_iff h _).1.2 (.inr ⟨_, rfl, by decide⟩)⟩

/-- A block may be neither missing nor an object and still be read. -/
theorem not_forall_androidOptions_object :
    ¬ ∀ (plugins : List String) (b : Json.Value),
      (∃ k ∈ AndroidKind.supported, k.name ∈ plugins) →
        ((∃ a, androidOptions b plugins = .ok (some a)) ↔
          b = .null ∨ ∃ fields, b = .object fields ∧ declared androidForms fields = true) := by
  intro h
  have hread := (h ["com.android.library"] (.bool false) (by decide)).1 ⟨_, rfl⟩
  rcases hread with hnull | ⟨_, hobject, -⟩
  · cases hnull
  · cases hobject

end Description

end AnalysisPlan
