import AnalysisPlan.Proofs.Loading

/-!
# Loading does not look at the names to ignore

The three lists of names to ignore are read from the analysis block of a
description and kept for evaluation; nothing in between asks for them. So two
descriptions that say the same apart from these lists (`Description.Varies`) both
load or both fail to, and the loaded projects are then the same apart from the
lists, too.

For projects this is said by clearing the lists: `Project.spare` commutes with
every step of configuring (`Blind`).
-/

namespace AnalysisPlan

def AnalysisOptions.spare (options : AnalysisOptions) : AnalysisOptions :=
  { options with ignoredVariants := [], ignoredBuildTypes := [], ignoredFlavors := [] }

def Project.spare (p : Project) : Project := { p with options := p.options.spare }

/-- The result with its state changed. -/
def carry {σ α : Type} (f : σ → σ) :
    EStateM.Result Fault σ α → EStateM.Result Fault σ α
  | .ok a s => .ok a (f s)
  | .error e s => .error e (f s)

/-- A step of configuring, on a given project, that does not look at the names to
ignore. -/
def Blind {α : Type} (x : Configuring α) (p : Project) : Prop :=
  x p.spare = carry Project.spare (x p)

namespace Blind

variable {α β : Type} {x : Configuring α} {k : α → Configuring β} {p : Project}

/-- What follows a step may be told of the project before it, as it is for either
side. -/
theorem bind_told {k' : α → Configuring β} (hx : Blind x p)
    (hk : ∀ a q, k' a q.spare = carry Project.spare (k a q)) :
    (x >>= k') p.spare = carry Project.spare ((x >>= k) p) := by
  change EStateM.bind x k' p.spare = carry Project.spare (EStateM.bind x k p)
  unfold EStateM.bind
  rw [hx]
  cases x p with
  | ok a q => exact hk a q
  | error f q => rfl

theorem bind (hx : Blind x p) (hk : ∀ a q, Blind (k a) q) : Blind (x >>= k) p :=
  hx.bind_told hk

/-- Projects that differ only in the names to ignore still do so behind a blind
step. -/
theorem exists_ok {q p' : Project} {a : α} (hp : Blind x p) (hq : Blind x q)
    (hsame : q.spare = p.spare) (h : x p = .ok a p') :
    ∃ q', x q = .ok a q' ∧ q'.spare = p'.spare := by
  have hcarry : carry Project.spare (x q) = .ok a p'.spare := by
    rw [← hq, hsame, hp, h]
    rfl
  cases hxq : x q with
  | error f q' =>
      rw [hxq] at hcarry
      cases hcarry
  | ok b q' =>
      rw [hxq] at hcarry
      injection hcarry with hresult hstate
      exact ⟨q', by rw [hresult], hstate⟩

/-- Such projects ask the same, so both get all answers or both are denied one. -/
theorem exists_attempt_ok {q p' : Project} {a : α} (hp : Blind x p) (hq : Blind x q)
    (hsame : q.spare = p.spare) (h : Configuring.attempt x p = .ok (.ok a p')) :
    ∃ q', Configuring.attempt x q = .ok (.ok a q') ∧ q'.spare = p'.spare := by
  obtain ⟨hxp, hanswered⟩ := Configuring.attempt_eq_ok_iff.1 h
  obtain ⟨q', hxq, hstate⟩ := hp.exists_ok hq hsame hxp
  refine ⟨q', Configuring.attempt_eq_ok_iff.2 ⟨hxq, ?_⟩, hstate⟩
  have hregistry : ∀ {s t : Project}, s.spare = t.spare → s.registry = t.registry :=
    fun {s t} hst => show s.spare.registry = t.spare.registry by rw [hst]
  have hdenial : q.denial = p.denial := show q.spare.denial = p.spare.denial by rw [hsame]
  rw [hxp] at hanswered
  rw [hxq, hdenial]
  unfold Configuring.askedSince Configuring.stateOf at hanswered ⊢
  simp only at hanswered ⊢
  rw [hregistry hstate, hregistry hsame]
  exact hanswered

end Blind

namespace Configuring

variable {α : Type}

theorem registering_blind (x : Registration α) (p : Project) : Blind (registering x) p := by
  unfold Blind registering
  rw [show p.spare.registry = p.registry from rfl]
  cases x p.registry <;> rfl

theorem report_blind (event : LogEvent) (p : Project) : Blind (report event) p :=
  registering_blind _ p

theorem change_blind {f : Project → Except Fault Project} {p : Project}
    (h : f p.spare = (f p).map Project.spare) : Blind (change f) p := by
  unfold Blind change
  rw [h]
  cases f p <;> rfl

theorem createConfiguration_blind (c : Configuration) (p : Project) :
    Blind (change (·.createConfiguration c)) p := by
  apply change_blind
  unfold Project.createConfiguration
  change (if c.name ∈ p.configurationNames then _ else _) = _
  split <;> rfl

theorem declareDependencies_blind (name : String) (coordinates : List String) (p : Project) :
    Blind (change (·.declareDependencies name coordinates)) p := by
  apply change_blind
  change (p.configuration name >>= _) = (p.configuration name >>= _).map _
  cases p.configuration name <;> rfl

theorem mark_blind (id : String) (p : Project) : Blind (mark id) p := by
  unfold Blind
  cases h : p.hasPlugin id with
  | true =>
      rw [mark_of_has h, mark_of_has (p := p.spare) h]
      rfl
  | false =>
      rw [mark_of_new h, mark_of_new (p := p.spare) h]
      split
      · exact registering_blind (Registration.add Project.checkTask) { p with
          pluginIds := p.pluginIds ++ [id]
          registry := { p.registry with
            log := p.registry.log ++ [.pluginApplied id p.name] } }
      · rfl

theorem applyId_blind (id : String) (p : Project) : Blind (applyId id) p := by
  refine Blind.bind ?_ fun _ q => mark_blind id q
  unfold beforeEvaluation
  change (if p.evaluated then _ else _ : Configuring Unit) p.spare =
    carry _ ((if p.evaluated then _ else _ : Configuring Unit) p)
  split <;> rfl

theorem prepareAnalysis_blind (p : Project) : Blind prepareAnalysis p := by
  let rest (options : AnalysisOptions) : Configuring Unit := do
    modify fun q => { q with options }
    change (·.createConfiguration Project.additions)
    change (·.createConfiguration Project.analyser)
  have hrest : ∀ q : Project, rest p.spare.completedOptions q.spare =
      carry Project.spare (rest p.completedOptions q) := by
    intro q
    exact Blind.bind (createConfiguration_blind Project.additions
      { q with options := p.completedOptions }) fun _ q => createConfiguration_blind _ q
  let found (options : AnalysisOptions) : Configuring Unit :=
    if p.usesDefaultConfig then (do
      report (.configFileFound p.defaultConfig)
      rest options)
    else rest options
  have hfound : ∀ q : Project, found p.spare.completedOptions q.spare =
      carry Project.spare (found p.completedOptions q) := by
    intro q
    unfold found
    split
    · exact (report_blind _ q).bind_told fun _ q => hrest q
    · exact hrest q
  have hasks := registering_blind (Registration.ask p.configQuestions) p
  exact hasks.bind_told fun _ q => hfound q

theorem applyOne_blind (plugin : Plugin) (p : Project) : Blind (applyOne plugin) p := by
  unfold applyOne
  refine (applyId_blind plugin.id p).bind fun _ q => ?_
  change (if q.hasApplied plugin.id then _ else _ : Configuring (List Request)) q.spare =
    carry _ ((if q.hasApplied plugin.id then _ else _ : Configuring (List Request)) q)
  split
  · rfl
  · cases plugin with
    | analysis =>
        exact (prepareAnalysis_blind { q with
          applied := q.applied ++ [Plugin.analysis]
          history := q.history ++ [PluginEvent.applied .analysis] }).bind fun _ _ => rfl
    | variantAnalysis serial => rfl
    | addon id key => rfl

theorem answer_blind (request : Request) (p : Project) : Blind (answer request) p := by
  cases request with
  | mark id => exact (applyId_blind id p).bind fun _ _ => rfl
  | apply plugin => exact applyOne_blind plugin p

theorem answerQueue_blind (n : Nat) (requests : List Request) (p : Project) :
    Blind (answerQueue n requests) p := by
  induction n generalizing requests p with
  | zero => cases requests <;> rfl
  | succ n ih =>
      cases requests with
      | nil => rfl
      | cons request rest =>
          exact (answer_blind request p).bind fun brought q => ih (brought ++ rest) q

theorem applyPlugin_blind (plugin : Plugin) (p : Project) : Blind (applyPlugin plugin) p :=
  answerQueue_blind (queueBound p) [.apply plugin] p

end Configuring

namespace Description

theorem applyIds_blind (ids : List String) (p : Project) : Blind (applyIds ids) p := by
  induction ids generalizing p with
  | nil => rfl
  | cons id ids ih => exact (Configuring.applyId_blind id p).bind fun _ q => ih q

theorem declareField_blind (configuration : String) (v : Json.Value) (p : Project) :
    Blind (declareField configuration v) p := by
  unfold declareField
  split
  · next items =>
      cases texts ("dependencies." ++ configuration) items with
      | ok coordinates => exact Configuring.declareDependencies_blind configuration _ p
      | error f => rfl
  · rfl

theorem declareEach_blind (fields : Fields) (p : Project) : Blind (declareEach fields) p := by
  induction fields generalizing p with
  | nil => rfl
  | cons field fields ih =>
      exact (declareField_blind field.1 field.2 p).bind fun _ q => ih q

theorem configure_blind (plugins : List String) (fields : Fields) (p : Project) :
    Blind (configure plugins fields) p := by
  unfold configure
  refine (applyIds_blind plugins p).bind fun _ q => ?_
  refine (Configuring.applyPlugin_blind _ q).bind fun _ q => ?_
  cases withDefault Shape.object fields "dependencies" [] with
  | error f => rfl
  | ok dependencies =>
      refine (declareEach_blind dependencies q).bind fun _ q => ?_
      exact Configuring.report_blind (.projectLoaded q.name q.directories.project) q

/-! ## Descriptions that differ in the names to ignore -/

def ignoreKeys : List String := ["ignoredVariants", "ignoredBuildTypes", "ignoredFlavors"]

/-- An analysis block without what it says about names to ignore. -/
def spareBlock (block : Fields) : Fields := block.filter (·.1 ∉ ignoreKeys)

/-- Two descriptions that say the same apart from the names to ignore. What the
second one says about these are lists of texts. -/
structure Varies (fields fields' : Fields) : Prop where
  others : ∀ key, key ≠ "detekt" → fields'.lookup key = fields.lookup key
  blocks : ∃ block block',
    withDefault Shape.object fields "detekt" [] = .ok block ∧
      withDefault Shape.object fields' "detekt" [] = .ok block' ∧
      spareBlock block' = spareBlock block ∧
      ∀ field ∈ block', field.1 ∈ ignoreKeys →
        ∃ names : List String, field.2 = .list (names.map .str)

/-- A setter that leaves the names to ignore as they are. -/
def Setter.Spares : Setter → Prop
  | .text set => ∀ (o : AnalysisOptions) s, set o.spare s = (set o s).spare
  | .texts set => ∀ (o : AnalysisOptions) ss, set o.spare ss = (set o ss).spare
  | .flag set => ∀ (o : AnalysisOptions) b, set o.spare b = (set o b).spare

theorem Setter.Spares.apply_spare {setter : Setter} (h : setter.Spares) (place : String)
    (o : AnalysisOptions) (v : Json.Value) :
    setter.apply place o.spare v = (setter.apply place o v).map AnalysisOptions.spare := by
  cases setter with
  | text set =>
      unfold Setter.apply
      cases shaped Shape.text place v with
      | ok s => exact congrArg Except.ok (h o s)
      | error f => rfl
  | flag set =>
      unfold Setter.apply
      cases shaped Shape.flag place v with
      | ok b => exact congrArg Except.ok (h o b)
      | error f => rfl
  | texts set =>
      unfold Setter.apply
      cases shaped Shape.list place v with
      | error f => rfl
      | ok items =>
          change (Description.texts place items >>= fun ss => Except.ok (set o.spare ss)) =
            (Description.texts place items >>= fun ss => Except.ok (set o ss)).map _
          cases Description.texts place items with
          | ok ss => exact congrArg Except.ok (h o ss)
          | error f => rfl

theorem spares_of_mem_setters {s : String × Setter} (hs : s ∈ setters)
    (hkey : s.1 ∉ ignoreKeys) : s.2.Spares := by
  simp only [setters, List.mem_cons, List.not_mem_nil, or_false] at hs
  rcases hs with rfl | rfl | rfl | rfl | rfl | rfl | rfl | rfl | rfl | rfl | rfl | rfl | rfl |
    rfl | rfl | rfl
  all_goals first
    | exact absurd (by decide) hkey
    | exact fun _ _ => rfl

variable {o o₁ : AnalysisOptions} {key : String} {v : Json.Value} {block : Fields}

theorem setOption_spare (h : key ∉ ignoreKeys) (o : AnalysisOptions) (v : Json.Value) :
    setOption o.spare key v = (setOption o key v).map AnalysisOptions.spare := by
  unfold setOption
  cases hs : setters.lookup key with
  | none => rfl
  | some setter =>
      obtain ⟨_, _, hsplit, -⟩ := List.lookup_eq_some_iff.1 hs
      have hmem : (key, setter) ∈ setters := by simp [hsplit]
      exact (spares_of_mem_setters hmem h).apply_spare _ o v

theorem exists_setter_of_mem_ignoreKeys (h : key ∈ ignoreKeys) :
    ∃ set : AnalysisOptions → List String → AnalysisOptions,
      setters.lookup key = some (.texts set) ∧ ∀ o ss, (set o ss).spare = o.spare := by
  simp only [ignoreKeys, List.mem_cons, List.not_mem_nil, or_false] at h
  rcases h with rfl | rfl | rfl
  · exact ⟨_, rfl, fun _ _ => rfl⟩
  · exact ⟨_, rfl, fun _ _ => rfl⟩
  · exact ⟨_, rfl, fun _ _ => rfl⟩

theorem eq_map_str_of_texts {place : String} {items : List Json.Value} {ss : List String}
    (h : texts place items = .ok ss) : items = ss.map .str := by
  induction items generalizing ss with
  | nil =>
      cases h
      rfl
  | cons v items ih =>
      cases v with
      | str s =>
          unfold texts at h
          cases hrest : texts place items with
          | error f =>
              rw [hrest] at h
              cases h
          | ok rest =>
              rw [hrest] at h
              cases h
              rw [ih hrest, List.map_cons]
      | _ => cases h

/-- An option that lists names to ignore takes a list of texts, and nothing else
is set by it. -/
theorem setOption_of_mem_ignoreKeys (h : key ∈ ignoreKeys) (hset : setOption o key v = .ok o₁) :
    (∃ names : List String, v = .list (names.map .str)) ∧ o₁.spare = o.spare := by
  obtain ⟨set, hlookup, hspare⟩ := exists_setter_of_mem_ignoreKeys h
  unfold setOption at hset
  rw [hlookup] at hset
  obtain ⟨items, hitems, hset⟩ := exists_of_bind_eq_ok hset
  obtain ⟨names, hnames, hset⟩ := exists_of_bind_eq_ok hset
  cases hset
  refine ⟨⟨names, ?_⟩, hspare o names⟩
  cases v with
  | list _ =>
      cases hitems
      rw [eq_map_str_of_texts hnames]
  | _ => cases hitems

theorem exists_setOption_of_mem_ignoreKeys (h : key ∈ ignoreKeys) (o : AnalysisOptions)
    (names : List String) : ∃ o₁, setOption o key (.list (names.map .str)) = .ok o₁ := by
  obtain ⟨set, hlookup, -⟩ := exists_setter_of_mem_ignoreKeys h
  refine ⟨set o names, ?_⟩
  unfold setOption
  rw [hlookup]
  change (texts _ (names.map .str) >>= fun ss => Except.ok (set o ss)) = _
  rw [texts_map_str]
  rfl

/-- Sets the options of the fields of a block, one after the other. -/
def setFields (o : AnalysisOptions) (block : Fields) : Except Fault AnalysisOptions :=
  block.foldlM (fun options field => setOption options field.1 field.2) o

theorem setFields_cons (o : AnalysisOptions) (field : String × Json.Value) (block : Fields) :
    setFields o (field :: block) =
      (do let o₁ ← setOption o field.1 field.2; setFields o₁ block) := List.foldlM_cons

theorem setFields_spareBlock (h : setFields o block = .ok o₁) :
    setFields o.spare (spareBlock block) = .ok o₁.spare := by
  induction block generalizing o with
  | nil =>
      cases h
      rfl
  | cons field block ih =>
      rw [setFields_cons] at h
      obtain ⟨o', hset, h⟩ := exists_of_bind_eq_ok h
      unfold spareBlock
      by_cases hkey : field.1 ∈ ignoreKeys
      · rw [List.filter_cons_of_neg (by simpa using hkey),
          ← (setOption_of_mem_ignoreKeys hkey hset).2]
        exact ih h
      · rw [List.filter_cons_of_pos (by simpa using hkey), setFields_cons,
          setOption_spare hkey, hset]
        exact ih h

theorem exists_setFields (h : setFields o.spare (spareBlock block) = .ok o₁)
    (htexts : ∀ field ∈ block, field.1 ∈ ignoreKeys →
      ∃ names : List String, field.2 = .list (names.map .str)) :
    ∃ o', setFields o block = .ok o' ∧ o'.spare = o₁ := by
  -- on the fields, from any options: those to ignore change them without being counted
  induction block generalizing o with
  | nil => exact ⟨o, rfl, Except.ok.inj h⟩
  | cons field block ih =>
      have hrest : ∀ field' ∈ block, field'.1 ∈ ignoreKeys →
          ∃ names : List String, field'.2 = .list (names.map .str) :=
        fun field' hmem => htexts field' (List.mem_cons_of_mem _ hmem)
      unfold spareBlock at h
      rw [setFields_cons]
      by_cases hkey : field.1 ∈ ignoreKeys
      · rw [List.filter_cons_of_neg (by simpa using hkey)] at h
        obtain ⟨names, hnames⟩ := htexts field List.mem_cons_self hkey
        obtain ⟨o', hset⟩ := exists_setOption_of_mem_ignoreKeys hkey o names
        rw [← hnames] at hset
        rw [← (setOption_of_mem_ignoreKeys hkey hset).2] at h
        rw [hset]
        exact ih h hrest
      · rw [List.filter_cons_of_pos (by simpa using hkey), setFields_cons,
          setOption_spare hkey] at h
        cases hset : setOption o field.1 field.2 with
        | error f =>
            rw [hset] at h
            cases h
        | ok o' =>
            rw [hset] at h
            exact ih h hrest

namespace Varies

variable {fields fields' : Fields} {α : Type} (h : Varies fields fields')

include h

theorem withDefault_eq (shape : Shape α) {key : String} (hkey : key ≠ "detekt") (default : α) :
    withDefault shape fields' key default = withDefault shape fields key default := by
  unfold withDefault optional
  rw [h.others key hkey]

theorem textsField_eq (place : String) {key : String} (hkey : key ≠ "detekt") :
    textsField place fields' key = textsField place fields key := by
  unfold textsField
  rw [h.withDefault_eq _ hkey]

theorem directory_eq (tree : FileTree) (current : Location) (base : Path) :
    directory tree current base fields' = directory tree current base fields := by
  unfold directory directoryPath
  rw [h.withDefault_eq _ (by decide)]

theorem configure_eq (plugins : List String) :
    configure plugins fields' = configure plugins fields := by
  unfold configure
  rw [h.withDefault_eq _ (by decide)]

theorem exists_analysisOptions {block : Fields}
    (hblock : withDefault Shape.object fields "detekt" [] = .ok block)
    (ho : analysisOptions block = .ok o) :
    ∃ block' o', withDefault Shape.object fields' "detekt" [] = .ok block' ∧
      analysisOptions block' = .ok o' ∧ o'.spare = o.spare := by
  obtain ⟨_, block', hfirst, hsecond, hspare, htexts⟩ := h.blocks
  rw [hblock] at hfirst
  cases hfirst
  have hread := setFields_spareBlock (o := {}) ho
  rw [← hspare] at hread
  obtain ⟨o', ho', hsame⟩ := exists_setFields hread htexts
  exact ⟨block', o', hsecond, ho', hsame⟩

theorem exists_ofFields {directory : Location} {d : Draft}
    (hd : Draft.ofFields directory fields = .ok d) :
    ∃ d', Draft.ofFields directory fields' = .ok d' ∧ d'.plugins = d.plugins ∧
      ∀ tree, (d'.project tree).spare = (d.project tree).spare := by
  unfold Draft.ofFields at hd
  obtain ⟨buildDir, hbuildDir, hd⟩ := exists_of_bind_eq_ok hd
  obtain ⟨name, hname, hd⟩ := exists_of_bind_eq_ok hd
  obtain ⟨plugins, hplugins, hd⟩ := exists_of_bind_eq_ok hd
  obtain ⟨block, hblock, hd⟩ := exists_of_bind_eq_ok hd
  obtain ⟨options, hoptions, hd⟩ := exists_of_bind_eq_ok hd
  obtain ⟨android, handroid, hd⟩ := exists_of_bind_eq_ok hd
  obtain ⟨items, hitems, hd⟩ := exists_of_bind_eq_ok hd
  obtain ⟨sourceSets, hsets, hd⟩ := exists_of_bind_eq_ok hd
  cases hd
  obtain ⟨block', options', hblock', hoptions', hsame⟩ :=
    h.exists_analysisOptions hblock hoptions
  rw [← h.withDefault_eq _ (by decide)] at hbuildDir hname hitems
  rw [← h.textsField_eq _ (by decide)] at hplugins
  rw [← h.others _ (by decide)] at handroid
  refine ⟨{
    name
    directory
    buildDirectory :=
      if buildDir = "" then none
      else some ((Path.ofLocation directory).append (Path.ofText buildDir)).text
    plugins
    options := options'
    android
    sourceSets }, ?_, rfl, fun tree => ?_⟩
  · unfold Draft.ofFields
    rw [hbuildDir, hname, hplugins, hblock', hitems]
    change (analysisOptions block' >>= _) = _
    rw [hoptions']
    change (androidOptions _ plugins >>= _) = _
    rw [handroid]
    change (items.mapM sourceSet >>= _) = _
    rw [hsets]
    rfl
  · simp only [Draft.project, Project.spare, hsame]

end Varies

variable {tree : FileTree} {current : Location} {base : Path} {fields fields' : Fields}
  {p : Project}

theorem loadFields_eq_ok_iff :
    (loadFields tree current base fields).outcome = .ok p ↔
      ∃ location d, directory tree current base fields = .ok location ∧
        Draft.ofFields location fields = .ok d ∧
        Configuring.attempt (configure d.plugins fields) (d.project tree) = .ok (.ok () p) := by
  unfold loadFields
  cases hdirectory : directory tree current base fields with
  | error failure => simp
  | ok location =>
      simp only [loadIn]
      cases hd : Draft.ofFields location fields with
      | error f => simp [hd]
      | ok d =>
          cases hattempt : Configuring.attempt (configure d.plugins fields) (d.project tree) with
          | error denied => simp [hd, hattempt]
          | ok result => cases result <;> simp [hd, hattempt]

/-- If two descriptions differ only in the names to ignore and one of them loads,
the other one loads too, and the projects differ only in these names. -/
theorem exists_load_of_varies (h : Varies fields fields')
    (hload : (loadFields tree current base fields).outcome = .ok p) :
    ∃ q, (loadFields tree current base fields').outcome = .ok q ∧ q.spare = p.spare := by
  obtain ⟨location, d, hlocation, hd, hconfigure⟩ := loadFields_eq_ok_iff.1 hload
  obtain ⟨d', hd', hplugins, hproject⟩ := h.exists_ofFields hd
  have hblind := configure_blind d.plugins fields
  obtain ⟨q, hq, hsame⟩ :=
    (hblind (d.project tree)).exists_attempt_ok (hblind (d'.project tree)) (hproject tree) hconfigure
  refine ⟨q, loadFields_eq_ok_iff.2 ⟨location, d', ?_, hd', ?_⟩, hsame⟩
  · rw [h.directory_eq, hlocation]
  · rw [hplugins, h.configure_eq, hq]

end Description

end AnalysisPlan
