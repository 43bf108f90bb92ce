import AnalysisPlan.Proofs.FieldForms

/-!
# What an analysis block must look like

The options of an analysis are kept by name (`AnalysisOptions.entries`), and setting one of
them replaces the value under its name. So a block is read exactly if it accepts each of its
fields (`Description.accepts`), and every option then holds what the field of its name says,
or what it holds by itself (`Description.exists_analysisOptions_of_accepts`): the order of
the fields is gone. The first field that is not accepted is the one that the complaint names.
-/

namespace AnalysisPlan

def Json.Value.ofTexts (ss : List String) : Json.Value := .list (ss.map .str)

@[simp] theorem Json.Value.ofTexts_inj {ss ss' : List String} :
    ofTexts ss = ofTexts ss' ↔ ss = ss' := by
  have hstr : Function.Injective Json.Value.str := fun _ _ h => by injection h
  rw [ofTexts, ofTexts, Json.Value.list.injEq, hstr.list_map.eq_iff]

/-- What options hold, under the names that a block has for them. -/
def AnalysisOptions.entries (o : AnalysisOptions) : List (String × Option Json.Value) :=
  [("toolVersion", o.toolVersion.map .str),
   ("input", some (.ofTexts o.input)),
   ("config", some (.ofTexts o.config)),
   ("baseline", o.baseline.map .str),
   ("reportsDir", some (.str o.reportsDir)),
   ("customReportsDir", o.customReportsDir.map .str),
   ("debug", some (.bool o.debug)),
   ("parallel", some (.bool o.parallel)),
   ("disableDefaultRuleSets", some (.bool o.disableDefaultRuleSets)),
   ("buildUponDefaultConfig", some (.bool o.buildUponDefaultConfig)),
   ("failFast", some (.bool o.failFast)),
   ("autoCorrect", some (.bool o.autoCorrect)),
   ("ignoreFailures", some (.bool o.ignoreFailures)),
   ("ignoredVariants", some (.ofTexts o.ignoredVariants)),
   ("ignoredBuildTypes", some (.ofTexts o.ignoredBuildTypes)),
   ("ignoredFlavors", some (.ofTexts o.ignoredFlavors))]

theorem AnalysisOptions.entries_injective : Function.Injective entries := by
  intro o o' h
  have hstr : Function.Injective (Option.map Json.Value.str) :=
    Option.map_injective fun _ _ h => by injection h
  cases o
  cases o'
  simpa [entries, hstr.eq_iff] using h

namespace Description

/-- The declared forms of an analysis block. It has no other fields. -/
def optionForms : List (String × Form) :=
  [("toolVersion", .text), ("input", .texts), ("config", .texts), ("baseline", .text),
   ("reportsDir", .text), ("customReportsDir", .text), ("debug", .flag), ("parallel", .flag),
   ("disableDefaultRuleSets", .flag), ("buildUponDefaultConfig", .flag), ("failFast", .flag),
   ("autoCorrect", .flag), ("ignoreFailures", .flag), ("ignoredVariants", .texts),
   ("ignoredBuildTypes", .texts), ("ignoredFlavors", .texts)]

/-- Whether an analysis block may have a field: there is such an option, and the value has
its form. -/
def accepts (field : String × Json.Value) : Bool :=
  (optionForms.lookup field.1).any fun form => form.fits field.2

def put (field : String × Json.Value) (entries : List (String × Option Json.Value)) :
    List (String × Option Json.Value) :=
  entries.map fun entry => if entry.1 = field.1 then (field.1, some field.2) else entry

/-- A setter takes values of a form and puts them under a name. -/
def Setter.Sets (key : String) (form : Form) : Setter → Prop
  | .text set => form = .text ∧
      ∀ (o : AnalysisOptions) s, (set o s).entries = put (key, .str s) o.entries
  | .texts set => form = .texts ∧
      ∀ (o : AnalysisOptions) ss, (set o ss).entries = put (key, .ofTexts ss) o.entries
  | .flag set => form = .flag ∧
      ∀ (o : AnalysisOptions) b, (set o b).entries = put (key, .bool b) o.entries

/-- Each option has a setter of its form. -/
theorem setters_match :
    List.Forall₂ (fun s entry => s.1 = entry.1 ∧ s.2.Sets entry.1 entry.2)
      setters optionForms := by
  simp [setters, optionForms, Setter.Sets, AnalysisOptions.entries, put]

/-! ## Setting one option -/

variable {o : AnalysisOptions} {field : String × Json.Value} {fields fields' : Fields}
  {form : Form} {setter : Setter}

/-- Tables whose entries match under the same names are looked up alike. -/
theorem lookup_cases {α β : Type} {R : String → α → β → Prop} {xs : List (String × α)}
    {ys : List (String × β)}
    (h : List.Forall₂ (fun x y => x.1 = y.1 ∧ R y.1 x.2 y.2) xs ys) (key : String) :
    (xs.lookup key = none ∧ ys.lookup key = none) ∨
      ∃ a b, xs.lookup key = some a ∧ ys.lookup key = some b ∧ R key a b := by
  induction h with
  | nil => exact .inl ⟨rfl, rfl⟩
  | @cons x y xs ys hxy _ ih =>
      obtain ⟨hkey, hR⟩ := hxy
      rw [List.lookup_cons, List.lookup_cons, hkey]
      cases hsame : key == y.1 with
      | true =>
          rw [eq_of_beq hsame]
          exact .inr ⟨x.2, y.2, rfl, rfl, hR⟩
      | false => exact ih

/-- A name is that of no option, or that of one with a setter of its form. -/
theorem option_cases (key : String) :
    (setters.lookup key = none ∧ optionForms.lookup key = none) ∨
      ∃ setter form, setters.lookup key = some setter ∧ optionForms.lookup key = some form ∧
        setter.Sets key form :=
  lookup_cases (R := fun key setter form => Setter.Sets key form setter) setters_match key

theorem Setter.Sets.apply_of_fits {key : String} (hsets : setter.Sets key form)
    {v : Json.Value} (hv : form.fits v = true) (place : String) (o : AnalysisOptions) :
    ∃ o', setter.apply place o v = .ok o' ∧ o'.entries = put (key, v) o.entries := by
  cases setter with
  | text set =>
      obtain ⟨rfl, hset⟩ := hsets
      obtain ⟨s, rfl⟩ := (reads_text v).1 hv
      exact ⟨_, rfl, hset o s⟩
  | texts set =>
      obtain ⟨rfl, hset⟩ := hsets
      obtain ⟨ss, rfl⟩ := (reads_texts v).1 hv
      refine ⟨set o ss, ?_, hset o ss⟩
      change (Description.texts place (ss.map .str) >>= fun ss => pure (set o ss)) = _
      rw [texts_map_str]
      rfl
  | flag set =>
      obtain ⟨rfl, hset⟩ := hsets
      cases v with
      | bool b => exact ⟨_, rfl, hset o b⟩
      | _ => cases hv

/-- A fault whose message begins with a place. -/
def Names (place : String) (f : Fault) : Prop := ∃ complaint, f.message = place ++ ": " ++ complaint

theorem names_unknownOption (place : String) : Names place (.unknownOption place) := by
  have hmessage : (Fault.unknownOption place).message = place ++ ": unknown option" := rfl
  have hsplit : ": unknown option" = ": " ++ "unknown option" := by simp
  exact ⟨"unknown option", by rw [hmessage, hsplit, String.append_assoc]⟩

theorem names_wrongKind (place : String) (expected found : Json.Kind) :
    Names place (.wrongKind place expected found) := by
  have hmessage : (Fault.wrongKind place expected found).message =
      place ++ ": expected " ++ expected.name ++ ", got " ++ found.name := rfl
  have hsplit : ": expected " = ": " ++ "expected " := by simp
  refine ⟨"expected " ++ expected.name ++ ", got " ++ found.name, ?_⟩
  simp only [hmessage, hsplit, String.append_assoc]

theorem names_notText (place : String) (found : Json.Kind) :
    Names place (.notText place found) := by
  have hmessage : (Fault.notText place found).message =
      place ++ ": expected strings, got " ++ found.name := rfl
  have hsplit : ": expected strings, got " = ": " ++ "expected strings, got " := by simp
  refine ⟨"expected strings, got " ++ found.name, ?_⟩
  simp only [hmessage, hsplit, String.append_assoc]

theorem texts_of_not_all (place : String) {items : List Json.Value}
    (h : ¬ items.all isText = true) : ∃ f, texts place items = .error f ∧ Names place f := by
  induction items with
  | nil => exact absurd rfl h
  | cons v items ih =>
      cases v with
      | str s =>
          obtain ⟨f, hf, hnames⟩ := ih (by simpa [isText] using h)
          exact ⟨f, by rw [texts, hf]; rfl, hnames⟩
      | _ => exact ⟨_, rfl, names_notText _ _⟩

theorem Setter.Sets.apply_of_not_fits {key : String} (hsets : setter.Sets key form)
    {v : Json.Value} (hv : ¬ form.fits v = true) (place : String) (o : AnalysisOptions) :
    ∃ f, setter.apply place o v = .error f ∧ Names place f := by
  cases setter with
  | text set =>
      obtain ⟨rfl, -⟩ := hsets
      cases v with
      | str s => exact absurd rfl hv
      | _ => exact ⟨_, rfl, names_wrongKind _ _ _⟩
  | texts set =>
      obtain ⟨rfl, -⟩ := hsets
      cases v with
      | list items =>
          obtain ⟨f, hf, hnames⟩ := texts_of_not_all place hv
          refine ⟨f, ?_, hnames⟩
          change (Description.texts place items >>= fun ss => pure (set o ss)) = _
          rw [hf]
          rfl
      | _ => exact ⟨_, rfl, names_wrongKind _ _ _⟩
  | flag set =>
      obtain ⟨rfl, -⟩ := hsets
      cases v with
      | bool b => exact absurd rfl hv
      | _ => exact ⟨_, rfl, names_wrongKind _ _ _⟩

theorem setOption_of_accepts (h : accepts field = true) (o : AnalysisOptions) :
    ∃ o', setOption o field.1 field.2 = .ok o' ∧ o'.entries = put field o.entries := by
  unfold accepts at h
  rcases option_cases field.1 with ⟨-, hnone⟩ | ⟨setter, form, hsetter, hform, hsets⟩
  · simp [hnone] at h
  · rw [hform] at h
    simp only [setOption, hsetter]
    exact hsets.apply_of_fits h _ o

theorem setOption_of_not_accepts (h : ¬ accepts field = true) (o : AnalysisOptions) :
    ∃ f, setOption o field.1 field.2 = .error f ∧ Names ("detekt." ++ field.1) f := by
  unfold accepts at h
  rcases option_cases field.1 with ⟨hnone, -⟩ | ⟨setter, form, hsetter, hform, hsets⟩
  · simp only [setOption, hnone]
    exact ⟨_, rfl, names_unknownOption _⟩
  · rw [hform] at h
    simp only [setOption, hsetter]
    exact hsets.apply_of_not_fits h _ o

/-! ## Setting the options of a block -/

theorem setFields_of_accepts (h : ∀ field ∈ fields, accepts field = true)
    (o : AnalysisOptions) :
    ∃ o', setFields o fields = .ok o' ∧
      o'.entries = fields.foldl (fun entries field => put field entries) o.entries := by
  induction fields generalizing o with
  | nil => exact ⟨o, rfl, rfl⟩
  | cons field fields ih =>
      obtain ⟨hfield, hfields⟩ := List.forall_mem_cons.1 h
      obtain ⟨o₁, hset, hentries⟩ := setOption_of_accepts hfield o
      rw [setFields_cons, hset, List.foldl_cons, ← hentries]
      exact ih hfields o₁

/-- A block that is not read is read up to its first field that is not accepted. -/
theorem setFields_of_not_accepts (h : ¬ ∀ field ∈ fields, accepts field = true)
    (o : AnalysisOptions) :
    ∃ before field behind, fields = before ++ field :: behind ∧
      (∀ field ∈ before, accepts field = true) ∧ ¬ accepts field = true ∧
      ∃ f, setFields o fields = .error f ∧ Names ("detekt." ++ field.1) f := by
  induction fields generalizing o with
  | nil => exact absurd (by simp) h
  | cons field fields ih =>
      rw [setFields_cons]
      by_cases hfield : accepts field = true
      · obtain ⟨o₁, hset, -⟩ := setOption_of_accepts hfield o
        have hfields : ¬ ∀ field ∈ fields, accepts field = true :=
          fun hall => h (List.forall_mem_cons.2 ⟨hfield, hall⟩)
        obtain ⟨before, first, behind, rfl, hbefore, hfirst, hfault⟩ := ih hfields o₁
        rw [hset]
        exact ⟨field :: before, first, behind, rfl, List.forall_mem_cons.2 ⟨hfield, hbefore⟩,
          hfirst, hfault⟩
      · obtain ⟨f, hset, hnames⟩ := setOption_of_not_accepts hfield o
        rw [hset]
        exact ⟨[], field, fields, rfl, by simp, hfield, f, rfl, hnames⟩

theorem lookup_eq_none_of_not_mem {α : Type} {entries : List (String × α)} {key : String}
    (h : key ∉ entries.map Prod.fst) : entries.lookup key = none := by
  rw [List.lookup_eq_none_iff]
  intro entry hentry
  rw [bne_iff_ne]
  rintro rfl
  exact h (List.mem_map_of_mem hentry)

/-- What options hold after the fields of an object are put under their names. -/
theorem foldl_put (hkeys : (fields.map Prod.fst).Nodup)
    (entries : List (String × Option Json.Value)) :
    fields.foldl (fun entries field => put field entries) entries =
      entries.map fun entry => (entry.1, (fields.lookup entry.1).or entry.2) := by
  induction fields generalizing entries with
  | nil => simp
  | cons field fields ih =>
      obtain ⟨key, v⟩ := field
      rw [List.map_cons, List.nodup_cons] at hkeys
      rw [List.foldl_cons, ih hkeys.2, put, List.map_map]
      refine List.map_congr_left fun entry _ => ?_
      -- No later field puts another value under the same name.
      by_cases hkey : entry.1 = key
      · simp [hkey, lookup_eq_none_of_not_mem hkeys.1]
      · have hkey' : (entry.1 == key) = false := by simpa using hkey
        simp [hkey, hkey', List.lookup_cons]

/-- A block of an object is read exactly if every field is accepted, and an option then holds
what the field of its name says, or what it holds by itself. -/
theorem analysisOptions_of_accepts (hkeys : (fields.map Prod.fst).Nodup)
    (h : ∀ field ∈ fields, accepts field = true) :
    ∃ o, analysisOptions fields = .ok o ∧
      o.entries = ({} : AnalysisOptions).entries.map fun entry =>
        (entry.1, (fields.lookup entry.1).or entry.2) := by
  obtain ⟨o, ho, hentries⟩ := setFields_of_accepts h {}
  exact ⟨o, ho, hentries.trans (foldl_put hkeys _)⟩

theorem exists_analysisOptions_iff :
    (∃ o, analysisOptions fields = .ok o) ↔ ∀ field ∈ fields, accepts field = true := by
  constructor
  · rintro ⟨o, ho⟩
    by_contra h
    obtain ⟨_, _, _, -, -, -, f, hf, -⟩ := setFields_of_not_accepts h {}
    cases ho.symm.trans hf
  · intro h
    obtain ⟨o, ho, -⟩ := setFields_of_accepts h {}
    exact ⟨o, ho⟩

/-! ## The order of the fields -/

theorem lookup_eq_some_iff_mem {α : Type} {entries : List (String × α)}
    (hkeys : (entries.map Prod.fst).Nodup) {key : String} {a : α} :
    entries.lookup key = some a ↔ (key, a) ∈ entries := by
  induction entries with
  | nil => simp
  | cons entry entries ih =>
      obtain ⟨first, b⟩ := entry
      rw [List.map_cons, List.nodup_cons] at hkeys
      rw [List.lookup_cons, List.mem_cons, Prod.mk.injEq]
      by_cases hkey : key = first
      · subst hkey
        have hmiss : (key, a) ∉ entries := fun hmem => hkeys.1 (List.mem_map.2 ⟨_, hmem, rfl⟩)
        simp [hmiss, eq_comm]
      · have hkey' : (key == first) = false := by simpa using hkey
        simp [hkey, hkey', ih hkeys.2]

theorem lookup_eq_of_perm {α : Type} {entries entries' : List (String × α)}
    (h : entries'.Perm entries) (hkeys : (entries.map Prod.fst).Nodup) (key : String) :
    entries'.lookup key = entries.lookup key := by
  have hkeys' : (entries'.map Prod.fst).Nodup := (h.map Prod.fst).nodup_iff.2 hkeys
  refine Option.ext fun a => ?_
  rw [lookup_eq_some_iff_mem hkeys, lookup_eq_some_iff_mem hkeys', h.mem_iff]

/-- The options of a block do not depend on the order of its fields. -/
theorem analysisOptions_of_perm {o : AnalysisOptions} (h : fields'.Perm fields)
    (hkeys : (fields.map Prod.fst).Nodup) (ho : analysisOptions fields = .ok o) :
    analysisOptions fields' = .ok o := by
  have haccepts := exists_analysisOptions_iff.1 ⟨o, ho⟩
  obtain ⟨o₁, ho₁, hentries⟩ := analysisOptions_of_accepts hkeys haccepts
  obtain ⟨o₂, ho₂, hentries'⟩ := analysisOptions_of_accepts
    ((h.map Prod.fst).nodup_iff.2 hkeys) fun field hfield => haccepts field (h.mem_iff.1 hfield)
  have hsame : o₂.entries = o₁.entries := by
    simp only [hentries, hentries', lookup_eq_of_perm h hkeys]
  rw [ho₂, AnalysisOptions.entries_injective hsame, ← ho₁, ho]

end Description

end AnalysisPlan
