import AnalysisPlan.Proofs.AnalysisBlocks
import AnalysisPlan.Proofs.AndroidBlocks

/-!
# Writing a block and reading it back

Options of the analysis, options of Android and source sets are written as objects with a
field for each value they hold; a value that is not there is left out (`Description.present`).
Reading such an object gives back what was written, whatever the order of its fields
(`Description.read_written_blocks`).
-/

namespace AnalysisPlan

def Flavor.value (f : Flavor) : Json.Value :=
  .object [("name", .str f.name), ("dimension", .str f.dimension)]

/-- What Android options hold, under the names that a block has for them. The kind of the
project comes from its plugins. -/
def AndroidOptions.entries (a : AndroidOptions) : List (String × Option Json.Value) :=
  [("compileSdkVersion", some (.int a.compileSdkVersion)),
   ("buildTypes", a.buildTypes.map .ofTexts),
   ("flavorDimensions", some (.ofTexts a.flavorDimensions)),
   ("productFlavors", some (.list (a.productFlavors.map Flavor.value))),
   ("testBuildType", some (.str a.testBuildType)),
   ("sdkDir", some (.str a.sdkDir)),
   ("compileClasspath", some (.ofTexts a.compileClasspath))]

/-- What a source set holds, under the names that a block has for it. -/
def SourceSet.entries (s : SourceSet) : List (String × Option Json.Value) :=
  [("name", some (.str s.name)),
   ("kotlin", s.kotlinSources.map .ofTexts),
   ("compileClasspath", some (.ofTexts s.compileClasspath)),
   ("classesDirs", some (.ofTexts s.classesDirs))]

theorem AnalysisOptions.nodup_entries (o : AnalysisOptions) : (o.entries.map Prod.fst).Nodup := by
  simp [entries]

theorem AndroidOptions.nodup_entries (a : AndroidOptions) : (a.entries.map Prod.fst).Nodup := by
  simp [entries]

theorem SourceSet.nodup_entries (s : SourceSet) : (s.entries.map Prod.fst).Nodup := by
  simp [entries]

namespace Description

def present (entries : List (String × Option Json.Value)) : Fields :=
  entries.filterMap fun entry => entry.2.map (entry.1, ·)

/-! ## Fields that write entries -/

variable {entries : List (String × Option Json.Value)} {fields : Fields}

theorem present_cons (entry : String × Option Json.Value) :
    present (entry :: entries) = (entry.2.map (entry.1, ·)).toList ++ present entries := by
  rw [present, List.filterMap_cons, present]
  cases entry.2 <;> rfl

theorem keys_present_sublist : ((present entries).map Prod.fst).Sublist (entries.map Prod.fst) := by
  induction entries with
  | nil => rfl
  | cons entry entries ih =>
      obtain ⟨key, value?⟩ := entry
      rw [present_cons]
      cases value? with
      | none => exact ih.cons _
      | some v => exact ih.cons_cons _

theorem lookup_present (hkeys : (entries.map Prod.fst).Nodup) (key : String) :
    (present entries).lookup key = (entries.lookup key).join := by
  have hpresent := hkeys.sublist keys_present_sublist
  refine Option.ext fun v => ?_
  rw [lookup_eq_some_iff_mem hpresent, Option.join_eq_some_iff, lookup_eq_some_iff_mem hkeys]
  simp [present]

theorem lookup_of_perm_present (h : fields.Perm (present entries))
    (hkeys : (entries.map Prod.fst).Nodup) (key : String) :
    fields.lookup key = (entries.lookup key).join := by
  rw [lookup_eq_of_perm h (hkeys.sublist keys_present_sublist), lookup_present hkeys]

variable {α : Type} {R : Json.Value → α → Prop} {default a : α} {v : Json.Value}

theorem says_of_lookup (h : fields.lookup key = some v) (hv : R v a) :
    Says R default fields key a := by
  rw [Says, h]
  exact hv

theorem says_given_of_lookup {o : Option α} {write : α → Json.Value}
    (h : fields.lookup key = o.map write) (hwrite : ∀ a, R (write a) a) :
    Says (Given R) none fields key o := by
  rw [Says, h]
  cases o with
  | none => rfl
  | some a => exact ⟨a, rfl, hwrite a⟩

/-! ## Android options -/

theorem isFlavors_map_value (flavors : List Flavor) :
    IsFlavors (.list (flavors.map Flavor.value)) flavors := by
  refine ⟨_, rfl, ?_⟩
  rw [List.forall₂_map_left_iff, List.forall₂_same]
  exact fun f _ => ⟨_, rfl, rfl, rfl⟩

theorem androidSays_of_perm {a : AndroidOptions} (h : fields.Perm (present a.entries)) :
    AndroidSays fields a := by
  have hlookup := lookup_of_perm_present h a.nodup_entries
  exact {
    compileSdkVersion := says_of_lookup (hlookup _) rfl
    buildTypes := says_given_of_lookup (hlookup _) fun _ => rfl
    flavorDimensions := says_of_lookup (hlookup _) rfl
    productFlavors := says_of_lookup (hlookup _) (isFlavors_map_value _)
    testBuildType := says_of_lookup (hlookup _) rfl
    sdkDir := says_of_lookup (hlookup _) rfl
    compileClasspath := says_of_lookup (hlookup _) rfl }

theorem ofPlugins?_of_first {kind : AndroidKind} (hkind : kind ≠ .other)
    {before behind : List String}
    (hbefore : ∀ id ∈ before, ∀ k ∈ AndroidKind.supported, id ≠ k.name) :
    AndroidKind.ofPlugins? (before ++ kind.name :: behind) = some kind := by
  have hnone : before.findSome? AndroidKind.ofPlugin? = none := by
    rw [List.findSome?_eq_none_iff]
    intro id hid
    rw [AndroidKind.ofPlugin?, List.find?_eq_none]
    intro k hk
    simpa using (hbefore id hid k hk).symm
  rw [AndroidKind.ofPlugins?, List.findSome?_append, hnone, Option.none_or, List.findSome?_cons,
    AndroidKind.ofPlugin?_name hkind]

theorem androidOptions_of_perm {a : AndroidOptions} (h : fields.Perm (present a.entries))
    {plugins : List String}
    (hplugins : AndroidKind.ofPlugins? plugins = some a.kind) :
    androidOptions (.object fields) plugins = .ok (some a) := by
  have hread : androidBlock a.kind fields = .ok a :=
    androidBlock_eq_ok_iff.2 ⟨rfl, androidSays_of_perm h⟩
  have hvacant : (Json.Value.object fields).isVacant = false := by
    rw [Json.Value.isVacant, List.isEmpty_eq_false_iff]
    rintro rfl
    exact absurd h.symm.eq_nil (by simp [AndroidOptions.entries, present])
  simp only [androidOptions, hplugins, hvacant, hread]
  rfl

/-! ## Source sets -/

/-- What an entry says about a source set, field by field. -/
structure SourceSetSays (fields : Fields) (s : SourceSet) : Prop where
  name : fields.lookup "name" = some (.str s.name)
  kotlinSources : Says (Given IsTexts) none fields "kotlin" s.kotlinSources
  compileClasspath : Says IsTexts [] fields "compileClasspath" s.compileClasspath
  classesDirs : Says IsTexts [] fields "classesDirs" s.classesDirs

theorem sourceSet_of_says {s : SourceSet} (h : SourceSetSays fields s) :
    sourceSet (.object fields) = .ok s := by
  obtain ⟨kotlin, hkotlin, htexts⟩ :=
    (optionalTexts_eq_ok_iff "sourceSets.kotlin").2 h.kotlinSources
  simp only [sourceSet, bind_eq_ok_iff, textsField_eq_ok_iff,
    required_eq_ok_iff fun _ _ => read_text_iff, pure, Except.pure, Except.ok.injEq]
  exact ⟨kotlin, hkotlin, s.name, ⟨_, h.name, rfl⟩, _, htexts, _, h.compileClasspath, _,
    h.classesDirs, rfl⟩

theorem sourceSet_of_perm {s : SourceSet} (h : fields.Perm (present s.entries)) :
    sourceSet (.object fields) = .ok s := by
  have hlookup := lookup_of_perm_present h s.nodup_entries
  exact sourceSet_of_says {
    name := hlookup _
    kotlinSources := says_given_of_lookup (hlookup _) fun _ => rfl
    compileClasspath := says_of_lookup (hlookup _) rfl
    classesDirs := says_of_lookup (hlookup _) rfl }

/-! ## Options of the analysis -/

theorem fits_text (s : String) : Form.text.fits (.str s) = true := rfl

theorem fits_flag (b : Bool) : Form.flag.fits (.bool b) = true := rfl

theorem fits_texts (ss : List String) : Form.texts.fits (.ofTexts ss) = true :=
  (reads_texts _).2 ⟨ss, rfl⟩

theorem accepts_of_mem_present {o : AnalysisOptions} {field : String × Json.Value}
    (h : field ∈ present o.entries) : accepts field = true := by
  have hentries : ∀ entry ∈ o.entries, ∀ v, entry.2 = some v → accepts (entry.1, v) = true := by
    simp [AnalysisOptions.entries, accepts, optionForms, List.lookup_cons, fits_text, fits_flag,
      fits_texts]
  obtain ⟨entry, hmem, hfield⟩ := List.mem_filterMap.1 h
  obtain ⟨v, hv, rfl⟩ := Option.map_eq_some_iff.1 hfield
  exact hentries entry hmem v hv

theorem analysisOptions_of_perm_present {o : AnalysisOptions}
    (h : fields.Perm (present o.entries)) : analysisOptions fields = .ok o := by
  have hkeys : (fields.map Prod.fst).Nodup :=
    (h.map Prod.fst).nodup_iff.2 (o.nodup_entries.sublist keys_present_sublist)
  obtain ⟨o', ho', hentries⟩ := analysisOptions_of_accepts hkeys fun field hfield =>
    accepts_of_mem_present (h.mem_iff.1 hfield)
  have hsame : o'.entries = o.entries := by
    rw [hentries]
    -- A value that is left out when it is missing is one that is missing by itself.
    simp only [lookup_of_perm_present h o.nodup_entries]
    simp [AnalysisOptions.entries, List.lookup_cons]
  rw [ho', AnalysisOptions.entries_injective hsame]

/-- Reading what was written gives it back, whatever the order of the fields: for options of
the analysis, for source sets, and for Android options next to plugins of which the first
Android one is that of their kind. An analysis block is read exactly if it is made of known
options with values of their types, and then in any order of its fields; otherwise the fault
names the first field that is not of this kind. -/
theorem read_written_blocks :
    (∀ (o : AnalysisOptions) (fields : Fields), fields.Perm (present o.entries) →
      analysisOptions fields = .ok o) ∧
    (∀ (s : SourceSet) (fields : Fields), fields.Perm (present s.entries) →
      sourceSet (.object fields) = .ok s) ∧
    (∀ (a : AndroidOptions) (fields : Fields) (before behind : List String),
      a.kind ≠ .other → fields.Perm (present a.entries) →
      (∀ id ∈ before, ∀ k ∈ AndroidKind.supported, id ≠ k.name) →
      androidOptions (.object fields) (before ++ a.kind.name :: behind) = .ok (some a)) ∧
    ∀ fields : Fields, (fields.map Prod.fst).Nodup →
      ((∃ o, analysisOptions fields = .ok o) ↔ ∀ field ∈ fields, accepts field = true) ∧
      (∀ o fields', analysisOptions fields = .ok o → fields'.Perm fields →
        analysisOptions fields' = .ok o) ∧
      ((¬ ∀ field ∈ fields, accepts field = true) →
        ∃ before field behind, fields = before ++ field :: behind ∧
          (∀ field ∈ before, accepts field = true) ∧ ¬ accepts field = true ∧
          ∃ f, analysisOptions fields = .error f ∧ Names ("detekt." ++ field.1) f) := by
  refine ⟨fun o fields => analysisOptions_of_perm_present, fun s fields => sourceSet_of_perm,
    fun a fields before behind hkind hfields hbefore => ?_, fun fields hkeys => ⟨?_, ?_, ?_⟩⟩
  · exact androidOptions_of_perm hfields (ofPlugins?_of_first hkind hbefore)
  · exact exists_analysisOptions_iff
  · exact fun o fields' ho hperm => analysisOptions_of_perm hperm hkeys ho
  · exact fun h => setFields_of_not_accepts h {}

/-- A source set without Kotlin and a library, each with its last field first, and three
analysis blocks: one that is read, the same one in another order, and one that is not read. -/
theorem read_written_blocks_library :
    sourceSet (.object [("classesDirs", .list [.str "build/classes"]),
        ("compileClasspath", .list []), ("name", .str "main")]) =
      .ok { name := "main", kotlinSources := none, classesDirs := ["build/classes"] } ∧
    androidOptions (.object (present
        ({ kind := .library, buildTypes := some ["debug"] } : AndroidOptions).entries).reverse)
      ["kotlin-android", "com.android.library", "com.android.test"] =
        .ok (some { kind := .library, buildTypes := some ["debug"] }) ∧
    analysisOptions (present ({ debug := true } : AnalysisOptions).entries).reverse =
      .ok { debug := true } ∧
    (∃ o, analysisOptions [("debug", .bool true), ("baseline", .str "b.xml")] = .ok o ∧
      analysisOptions [("baseline", .str "b.xml"), ("debug", .bool true)] = .ok o) ∧
    ∃ field f, analysisOptions [("debug", .bool true), ("parallel", .str "yes")] = .error f ∧
      Names ("detekt." ++ field) f := by
  obtain ⟨hanalysis, hsets, handroid, hblock⟩ := read_written_blocks
  refine ⟨hsets _ _ ?_, ?_, hanalysis _ _ (List.reverse_perm _), ?_, ?_⟩
  · exact List.reverse_perm ([("name", .str "main"), ("compileClasspath", .list []),
      ("classesDirs", .list [.str "build/classes"])] : Fields)
  · exact handroid _ _ ["kotlin-android"] ["com.android.test"] (by decide) (List.reverse_perm _)
      (by decide)
  · obtain ⟨hread, horder, -⟩ :=
      hblock [("debug", .bool true), ("baseline", .str "b.xml")] (by decide)
    obtain ⟨o, ho⟩ := hread.2 (by decide)
    exact ⟨o, ho, horder o _ ho (.swap _ _ _)⟩
  · obtain ⟨-, -, hfault⟩ := hblock [("debug", .bool true), ("parallel", .str "yes")] (by decide)
    obtain ⟨_, field, _, -, -, -, f, hf, hnames⟩ := hfault (by decide)
    exact ⟨field.1, f, hf, hnames⟩

end Description

end AnalysisPlan
