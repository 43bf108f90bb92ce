import AnalysisPlan.Proofs.Agreement
import AnalysisPlan.Proofs.AskedPaths
import AnalysisPlan.Proofs.PlannedTasks
import Mathlib.Tactic.Tauto

/-!
# In which order a description lists its plugins

A description lists identifiers of plugins, and loading marks them one after the other
before it applies the variant plugin, which brings the plain one along. Marking an
identifier never fails there, and what it leaves does not depend on the order: the
identifiers marked so far, and the task of all checks if its plugin is among them. The
two analysis plugins are applied whether they were listed or not. So a description may
list its plugins in another order, repeat them, and list or omit the analysis plugins
(`Description.Relists`), as long as the same Android plugin comes first: the projects then
agree, before and after evaluation.
-/

namespace AnalysisPlan

namespace AndroidKind

def isPlugin (id : String) : Bool := (ofPlugin? id).isSome

theorem ofPlugins?_eq_find? (ids : List String) :
    ofPlugins? ids = (ids.find? isPlugin).bind ofPlugin? := by
  induction ids with
  | nil => rfl
  | cons id ids ih =>
      unfold ofPlugins? at ih ⊢
      rw [List.findSome?_cons, List.find?_cons, isPlugin]
      cases hkind : ofPlugin? id with
      | none => exact ih
      | some kind => exact hkind.symm

end AndroidKind

def Plugin.analysisIds : List String := [analysis.id, (variantAnalysis 0).id]

namespace Project

variable {apart : List String} {p q p' q' : Project} {id : String}

/-- Marking an identifier on both sides leaves projects that agree on it, too. -/
theorem Agrees.marks (h : p.Agrees apart q) (hp : Marks id p p') (hq : Marks id q q')
    (hid : id ≠ Plugin.lifecycleBase) : p'.Agrees (apart.filter (· != id)) q' := by
  refine ⟨?_, ?_, fun other hother => ?_⟩
  · rw [hp.kept, hq.kept, h.kept]
  · have hnodes : q'.graph.nodes = p'.graph.nodes := by
      rw [hp.nodes, hq.nodes, if_neg fun hand => hid hand.1, if_neg fun hand => hid hand.1,
        h.graph]
    exact congrArg TaskGraph.mk hnodes
  · rw [Bool.eq_iff_iff, hasPlugin_iff, hasPlugin_iff, hp.mem_iff, hq.mem_iff]
    by_cases heq : other = id
    · simp [heq]
    · have hmem : other ∉ apart := fun hmem =>
        hother (List.mem_filter.2 ⟨hmem, bne_iff_ne.2 heq⟩)
      rw [← hasPlugin_iff, ← hasPlugin_iff, h.plugins other hmem]

end Project

namespace Configuring

variable {α : Type} {apart : List String} {p q : Project}

/-- An operation that looks neither at the registry nor at the identifiers ends alike on
projects that agree. -/
theorem change_alike {f : Project → Except Fault Project} (h : p.Agrees apart q)
    (hf : ∀ (s : Project) ids registry, f { s with pluginIds := ids, registry } =
      (f s).map fun t => { t with pluginIds := ids, registry }) :
    Alike (Project.Agrees apart) (Project.Agrees apart) (change f p) (change f q) := by
  have hp : f p = (f p).map fun t =>
      { t with pluginIds := p.pluginIds, registry := p.registry } :=
    hf p p.pluginIds p.registry
  have hq : f q = (f p).map fun t =>
      { t with pluginIds := q.pluginIds, registry := q.registry } := by
    rw [← hf, ← h.kept]
  unfold change
  rw [hq]
  cases hfp : f p with
  | error e => exact ⟨rfl, h⟩
  | ok t =>
      rw [hfp] at hp
      have ht : t = { t with pluginIds := p.pluginIds, registry := p.registry } :=
        Except.ok.inj hp
      refine ⟨rfl, rfl, ?_, ?_⟩
      · rw [ht]
        exact h.graph
      · rw [ht]
        exact h.plugins

theorem createConfiguration_alike (c : Configuration) (h : p.Agrees apart q) :
    Alike (Project.Agrees apart) (Project.Agrees apart)
      (change (·.createConfiguration c) p) (change (·.createConfiguration c) q) := by
  refine change_alike h fun s ids registry => ?_
  unfold Project.createConfiguration
  change (if c.name ∈ s.configurationNames then _ else _) = _
  split <;> rfl

theorem declareDependencies_alike (name : String) (coordinates : List String)
    (h : p.Agrees apart q) :
    Alike (Project.Agrees apart) (Project.Agrees apart)
      (change (·.declareDependencies name coordinates) p)
      (change (·.declareDependencies name coordinates) q) := by
  refine change_alike h fun s ids registry => ?_
  change (s.configuration name >>= _) = (s.configuration name >>= _).map _
  cases s.configuration name <;> rfl

theorem prepareAnalysis_alike (h : p.Agrees apart q) :
    Alike (Project.Agrees apart) (Project.Agrees apart) (prepareAnalysis p)
      (prepareAnalysis q) := by
  have hsame : q.usesDefaultConfig = p.usesDefaultConfig ∧ q.defaultConfig = p.defaultConfig ∧
      q.completedOptions = p.completedOptions := by
    rw [h.kept]
    exact ⟨rfl, rfl, rfl⟩
  have hrest : ∀ s t : Project, s.Agrees apart t →
      Alike (Project.Agrees apart) (Project.Agrees apart)
        ((do
          modify fun s => { s with options := p.completedOptions }
          change (·.createConfiguration Project.additions)
          change (·.createConfiguration Project.analyser) : Configuring Unit) s)
        ((do
          modify fun s => { s with options := p.completedOptions }
          change (·.createConfiguration Project.additions)
          change (·.createConfiguration Project.analyser) : Configuring Unit) t) := by
    intro s t hst
    have hset := hst.map (f := fun s => { s with options := p.completedOptions })
      fun _ _ _ => rfl
    refine (Alike.modify hset).bind fun _ s₁ t₁ h₁ => ?_
    exact (createConfiguration_alike _ h₁).bind fun _ s₂ t₂ h₂ =>
      createConfiguration_alike _ h₂
  unfold prepareAnalysis
  refine Alike.get_bind ?_
  rw [hsame.1, hsame.2.1, hsame.2.2]
  refine (ask_alike _ _ h).bind fun _ p₁ q₁ h₁ => ?_
  split
  · exact (report_alike _ _ h₁).bind fun _ s t hst => hrest s t hst
  · exact hrest p₁ q₁ h₁

/-- Applying a plugin leaves projects that agree on its identifier, too. -/
theorem applyOne_alike (plugin : Plugin) (h : p.Agrees apart q) (hopen : p.evaluated = false)
    (hid : plugin.id ≠ Plugin.lifecycleBase) :
    Alike (fun _ _ => True) (Project.Agrees (apart.filter (· != plugin.id)))
      (applyOne plugin p) (applyOne plugin q) := by
  have hopen' : q.evaluated = false := by
    rw [h.kept]
    exact hopen
  obtain ⟨p₁, hp₁, hmarks⟩ := applyId_marks hopen fun heq => absurd heq hid
  obtain ⟨q₁, hq₁, hmarks'⟩ := applyId_marks hopen' fun heq => absurd heq hid
  have h₁ := h.marks hmarks hmarks' hid
  have hsame : q₁.hasApplied plugin.id = p₁.hasApplied plugin.id ∧
      q₁.addonOf plugin = p₁.addonOf plugin := by
    rw [h₁.kept]
    exact ⟨rfl, rfl⟩
  unfold applyOne
  rw [bind_of_ok hp₁, bind_of_ok hq₁]
  refine Alike.get_bind ?_
  rw [hsame.1, hsame.2]
  split
  · exact .pure [] h₁
  · have hrecorded := h₁.map (f := fun s => s.recording plugin) fun _ _ _ => rfl
    have hset : ∀ s t : Project, s.Agrees (apart.filter (· != plugin.id)) t →
        Alike (fun _ _ => True) (Project.Agrees (apart.filter (· != plugin.id)))
          ((set s : Configuring Unit) p₁) ((set t : Configuring Unit) q₁) :=
      fun _ _ hst => ⟨rfl, hst⟩
    refine (hset _ _ hrecorded).bind fun _ p₂ q₂ h₂ => ?_
    cases plugin with
    | analysis =>
        exact ((prepareAnalysis_alike h₂).mono (fun _ _ _ => trivial) fun _ _ h => h).bind
          fun _ _ _ h₃ => .pure [] h₃
    | variantAnalysis serial => exact .pure _ h₂
    | addon id key => exact .pure _ h₂

/-- Applying the variant plugin for the first time leaves projects that agree on the
identifiers of the analysis plugins. -/
theorem applyPlugin_alike (h : p.Agrees Plugin.analysisIds q) (hp : p.Configured []) :
    Alike (fun _ _ => True) (Project.Agrees []) (applyPlugin (.variantAnalysis 0) p)
      (applyPlugin (.variantAnalysis 0) q) := by
  have hbound : queueBound q = queueBound p := by
    rw [h.kept]
    rfl
  obtain ⟨n, hn⟩ := exists_queueBound_eq p
  change Alike _ _ (answerQueue (queueBound p) [.apply (.variantAnalysis 0)] p)
    (answerQueue (queueBound q) [.apply (.variantAnalysis 0)] q)
  rw [hbound, hn]
  refine (applyOne_alike (.variantAnalysis 0) h hp.evaluated (by decide)).bind_of_leaves
    (applyOne_leaves _ hp rfl (by simp)) fun brought p₁ q₁ hm h₁ => ?_
  obtain ⟨hp₁, rfl⟩ := hm
  have hnew : [Plugin.variantAnalysis 0].any (·.id == Plugin.analysis.id) = false := by decide
  refine (applyOne_alike .analysis h₁ hp₁.evaluated (by decide)).bind_of_leaves
    (applyOne_leaves .analysis hp₁ hnew (by simp)) fun brought p₂ q₂ hm h₂ => ?_
  obtain ⟨-, rfl⟩ := hm
  change Alike _ _ (answerQueue n [] p₂) (answerQueue n [] q₂)
  rw [answerQueue_nil]
  exact .pure () (h₂.mono (by decide))

end Configuring

namespace Description

/-! ## Marking what is listed -/

variable {plugins : List Plugin} {p q : Project} {ids ids' : List String}

/-- Two lists that hold the same identifiers, apart from those of the analysis plugins,
leave projects that agree apart from these. -/
theorem applyIds_agrees (h : p.Configured plugins)
    (hsame : ∀ id ∉ Plugin.analysisIds, id ∈ ids' ↔ id ∈ ids) :
    ∃ s t, applyIds ids p = .ok () s ∧ applyIds ids' p = .ok () t ∧
      s.Configured plugins ∧ s.Agrees Plugin.analysisIds t := by
  obtain ⟨s, hs, hconfigured, hkept, -, hmem⟩ := applyIds_marks ids h
  obtain ⟨t, ht, hconfigured', hkept', -, hmem'⟩ := applyIds_marks ids' h
  have hplugins : ∀ id ∉ Plugin.analysisIds, t.hasPlugin id = s.hasPlugin id := by
    intro id hid
    rw [Bool.eq_iff_iff, Project.hasPlugin_iff, Project.hasPlugin_iff, hmem, hmem',
      hsame id hid]
  refine ⟨s, t, hs, ht, hconfigured, ?_, ?_, hplugins⟩
  · rw [hkept, hkept']
  · refine congrArg TaskGraph.mk (?_ : t.graph.nodes = s.graph.nodes)
    rw [hconfigured.graph, hconfigured'.graph, hplugins _ (by decide)]

theorem declareField_alike (configuration : String) (v : Json.Value) (h : p.Agrees [] q) :
    Alike (Project.Agrees []) (Project.Agrees []) (declareField configuration v p)
      (declareField configuration v q) := by
  cases v with
  | list items =>
      simp only [declareField]
      cases texts ("dependencies." ++ configuration) items with
      | ok coordinates => exact Configuring.declareDependencies_alike _ coordinates h
      | error f => exact .throw f h
  | _ => exact .throw (.coordinatesNotAList configuration) h

theorem declareEach_alike (fields : Fields) (h : p.Agrees [] q) :
    Alike (Project.Agrees []) (Project.Agrees []) (declareEach fields p)
      (declareEach fields q) := by
  induction fields generalizing p q with
  | nil => exact .pure () h
  | cons field fields ih =>
      exact (declareField_alike field.1 field.2 h).bind fun _ _ _ hst => ih hst

theorem configure_alike (fields : Fields) (h : p.Configured [])
    (hsame : ∀ id ∉ Plugin.analysisIds, id ∈ ids' ↔ id ∈ ids) :
    Alike (fun _ _ => True) (Project.Agrees []) (configure ids fields p)
      (configure ids' fields p) := by
  obtain ⟨s, t, hs, ht, hconfigured, hagrees⟩ := applyIds_agrees h hsame
  unfold configure
  rw [bind_of_ok hs, bind_of_ok ht]
  refine (Configuring.applyPlugin_alike hagrees hconfigured).bind fun _ s₁ t₁ h₁ => ?_
  cases withDefault Shape.object fields "dependencies" [] with
  | error f => exact .throw f trivial
  | ok dependencies =>
      have hdeclared := declareEach_alike dependencies h₁
      refine (hdeclared.mono (fun _ _ _ => trivial) fun _ _ h => h).bind fun _ s₂ t₂ h₂ => ?_
      refine Alike.get_bind ?_
      exact (Configuring.report_alike _ _ h₂).mono (fun _ _ _ => trivial) fun _ _ h => h

/-! ## Descriptions that differ in the plugins listed -/

/-- Two descriptions that say the same apart from which plugins they list, as texts. Apart
from those of the analysis plugins these are the same identifiers, and the Android plugin
that comes first is the same. -/
structure Relists (fields fields' : Fields) (ids ids' : List String) : Prop where
  others : ∀ key, key ≠ "plugins" → fields'.lookup key = fields.lookup key
  listed : fields.lookup "plugins" = some (.list (ids.map .str))
  relisted : fields'.lookup "plugins" = some (.list (ids'.map .str))
  same : ∀ id ∉ Plugin.analysisIds, id ∈ ids' ↔ id ∈ ids
  android : ids'.find? AndroidKind.isPlugin = ids.find? AndroidKind.isPlugin

theorem textsField_of_lookup {fields : Fields} {key : String}
    (h : fields.lookup key = some (.list (ids.map .str))) (place : String) :
    textsField place fields key = .ok ids := by
  unfold textsField withDefault optional
  rw [h]
  exact texts_map_str place ids

namespace Relists

variable {fields fields' : Fields} {α : Type} (h : Relists fields fields' ids ids')

include h

theorem withDefault_eq (shape : Shape α) {key : String} (hkey : key ≠ "plugins")
    (default : α) :
    withDefault shape fields' key default = withDefault shape fields key default := by
  unfold withDefault optional
  rw [h.others key hkey]

theorem directory_eq (tree : FileTree) (current : Location) (base : Path) :
    directory tree current base fields' = directory tree current base fields := by
  unfold directory directoryPath
  rw [h.withDefault_eq _ (by decide)]

theorem configure_eq (plugins : List String) :
    configure plugins fields' = configure plugins fields := by
  unfold configure
  rw [h.withDefault_eq _ (by decide)]

theorem plugins_of_ofFields {directory : Location} {d : Draft}
    (hd : Draft.ofFields directory fields = .ok d) : d.plugins = ids := by
  unfold Draft.ofFields at hd
  iterate 2 obtain ⟨_, -, hd⟩ := exists_of_bind_eq_ok hd
  obtain ⟨plugins, hplugins, hd⟩ := exists_of_bind_eq_ok hd
  iterate 5 obtain ⟨_, -, hd⟩ := exists_of_bind_eq_ok hd
  rw [textsField_of_lookup h.listed] at hplugins
  cases hplugins
  cases hd
  rfl

/-- The drafts are the same apart from the plugins, and so is why there is none. -/
theorem ofFields_eq (directory : Location) :
    Draft.ofFields directory fields' =
      (Draft.ofFields directory fields).map fun d => { d with plugins := ids' } := by
  have handroid : ∀ block, androidOptions block ids' = androidOptions block ids := by
    intro block
    unfold androidOptions
    rw [AndroidKind.ofPlugins?_eq_find?, AndroidKind.ofPlugins?_eq_find?, h.android]
  unfold Draft.ofFields
  rw [h.withDefault_eq Shape.text (show "buildDir" ≠ "plugins" by decide),
    h.withDefault_eq Shape.text (show "name" ≠ "plugins" by decide),
    h.withDefault_eq Shape.object (show "detekt" ≠ "plugins" by decide),
    h.withDefault_eq Shape.list (show "sourceSets" ≠ "plugins" by decide),
    h.others "android" (by decide), textsField_of_lookup h.listed,
    textsField_of_lookup h.relisted]
  cases withDefault Shape.text fields "buildDir" "" with
  | error f => rfl
  | ok buildDir =>
  cases withDefault Shape.text fields "name" (directory.getLast?.getD "") with
  | error f => rfl
  | ok name =>
  cases withDefault Shape.object fields "detekt" [] with
  | error f => rfl
  | ok block =>
  cases hoptions : analysisOptions block with
  | error f => simp only [bind, Except.bind, hoptions, Except.map]
  | ok options =>
  cases handroids : androidOptions ((fields.lookup "android").getD .null) ids with
  | error f => simp only [bind, Except.bind, hoptions, handroid, handroids, Except.map]
  | ok android =>
  cases withDefault Shape.list fields "sourceSets" [] with
  | error f => simp only [bind, Except.bind, hoptions, handroid, handroids, Except.map]
  | ok items =>
  cases hsets : items.mapM sourceSet with
  | error f => simp only [bind, Except.bind, hoptions, handroid, handroids, hsets, Except.map]
  | ok sourceSets =>
    simp only [bind, Except.bind, hoptions, handroid, handroids, hsets, Except.map]
    rfl

end Relists

/-- A description that lists its plugins in another order, more or less often, or with
the analysis plugins among them loads if the other one does, and fails in the same way if
it does not. The projects agree, evaluating them ends with the same fault or with none,
and they agree afterwards. -/
theorem loadFields_relists {fields fields' : Fields} (tree : FileTree) (current : Location)
    (base : Path) (h : Relists fields fields' ids ids') :
    (∃ failure, (loadFields tree current base fields).outcome = .error failure ∧
      (loadFields tree current base fields').outcome = .error failure) ∨
    ∃ p p', (loadFields tree current base fields).outcome = .ok p ∧
      (loadFields tree current base fields').outcome = .ok p' ∧ p.Agrees [] p' ∧
      (ended (Configuring.evaluate p')).1 = (ended (Configuring.evaluate p)).1 ∧
      (ended (Configuring.evaluate p)).2.Agrees [] (ended (Configuring.evaluate p')).2 := by
  unfold loadFields
  rw [h.directory_eq]
  cases directory tree current base fields with
  | error failure => exact .inl ⟨failure, rfl, rfl⟩
  | ok directory =>
      simp only
      unfold loadIn
      rw [h.ofFields_eq]
      cases hd : Draft.ofFields directory fields with
      | error f => exact .inl ⟨.fault f, rfl, rfl⟩
      | ok d =>
          have hfresh : (d.project tree).Configured [] := ⟨rfl, rfl, rfl, android_of_ofFields hd⟩
          have halike := configure_alike fields hfresh h.same
          simp only [Except.map]
          rw [h.plugins_of_ofFields hd, h.configure_eq,
            show Draft.project tree { d with plugins := ids' } = d.project tree from rfl,
            attempt_configure ids fields hfresh rfl, attempt_configure ids' fields hfresh rfl]
          cases (d.project tree).configQuestions.findSome? (d.project tree).denial with
          | some denied => exact .inl ⟨.interrupted (.denied denied), rfl, rfl⟩
          | none =>
          cases hp : configure ids fields (d.project tree) with
          | error f p =>
              cases hq : configure ids' fields (d.project tree) with
              | error g q =>
                  rw [hp, hq] at halike
                  obtain ⟨rfl, -⟩ := halike
                  exact .inl ⟨_, rfl, rfl⟩
              | ok _ q =>
                  rw [hp, hq] at halike
                  exact halike.elim
          | ok _ p =>
              cases hq : configure ids' fields (d.project tree) with
              | error g q =>
                  rw [hp, hq] at halike
                  exact halike.elim
              | ok _ q =>
                  rw [hp, hq] at halike
                  have hevaluated := Configuring.evaluate_alike halike.2
                  exact .inr ⟨p, q, rfl, rfl, halike.2, hevaluated.fault_eq,
                    hevaluated.ended_rel⟩

theorem loadFields_relists_library :
    let listing (ids : List String) : Fields := [("plugins", .list (ids.map .str))]
    let ids := ["com.android.library", "kotlin-android", "lifecycle-base"]
    let ids' := ["lifecycle-base", Plugin.analysis.id, "com.android.library", "lifecycle-base",
      "kotlin-android"]
    Relists (listing ids) (listing ids') ids ids' ∧
      ∃ p p' q q', (loadFields {} [] (.ofLocation []) (listing ids)).outcome = .ok p ∧
        (loadFields {} [] (.ofLocation []) (listing ids')).outcome = .ok p' ∧
        Configuring.evaluate p = .ok () q ∧ Configuring.evaluate p' = .ok () q' ∧
        q.Agrees [] q' ∧ q'.graph.dependencies? "check" = some ["detekt"] := by
  intro listing ids ids'
  have hrelists : Relists (listing ids) (listing ids') ids ids' := by
    refine ⟨fun key hkey => ?_, rfl, rfl, fun id hid => ?_, by decide +kernel⟩
    · have hne : (key == "plugins") = false := by simpa using hkey
      simp [listing, List.lookup_cons, hne]
    · simp only [Plugin.analysisIds, List.mem_cons, List.not_mem_nil, or_false, not_or] at hid
      simp only [ids, ids', List.mem_cons, List.not_mem_nil, or_false]
      tauto
  have hrun : (loadFields {} [] (.ofLocation []) (listing ids)).evaluates
      (fun _ q => q.graph.dependencies? "check" == some ["detekt"]) = true := by
    decide +kernel
  obtain ⟨p, q, hload, hq, htest⟩ := Loading.exists_of_evaluates hrun
  rcases loadFields_relists {} [] (.ofLocation []) hrelists with
    ⟨failure, hfails, -⟩ | ⟨p₁, p', hp₁, hp', -, hfault, hagrees⟩
  · rw [hload] at hfails
    cases hfails
  · obtain rfl : p = p₁ := Except.ok.inj (hload.symm.trans hp₁)
    refine ⟨hrelists, p, p', q, ?_⟩
    rw [hq] at hfault hagrees
    cases hq' : Configuring.evaluate p' with
    | error f q' =>
        rw [hq'] at hfault
        cases hfault
    | ok a q' =>
        rw [hq'] at hagrees
        refine ⟨q', hload, hp', hq, rfl, hagrees, ?_⟩
        rw [show q'.graph = q.graph from hagrees.graph]
        exact beq_iff_eq.1 htest

end Description

end AnalysisPlan
