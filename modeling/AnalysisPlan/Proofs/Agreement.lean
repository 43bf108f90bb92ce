import AnalysisPlan.Proofs.Evaluation
import AnalysisPlan.Proofs.Finalizing

/-!
# Projects that cannot be told apart by configuring them

Two projects agree if they are the same but for the identifiers that were marked, what
was asked and what was reported; the identifiers may differ in their order, and in those
of a given list also in whether they were marked at all. A step of configuring that looks
at none of this ends alike on both: with the same value or the same fault, and with
projects that agree again (`Alike`). Planning tasks is such a step, because what it
returns and what it does to the graph are known from its course; so evaluation ends alike
on projects that agree (`Configuring.evaluate_alike`).
-/

namespace AnalysisPlan

/-- Two computations ended alike: both returned the same value, in states related by
`R`, or both failed with the same fault, in states related by `E`. -/
def Alike {σ α : Type} (E R : σ → σ → Prop) :
    EStateM.Result Fault σ α → EStateM.Result Fault σ α → Prop
  | .ok a s, .ok b t => a = b ∧ R s t
  | .error f s, .error g t => f = g ∧ E s t
  | _, _ => False

namespace Alike

variable {σ α β : Type} {E R : σ → σ → Prop} {s t : σ}

theorem mono {E' R' : σ → σ → Prop} {x y : EStateM.Result Fault σ α} (h : Alike E R x y)
    (hE : ∀ s t, E s t → E' s t) (hR : ∀ s t, R s t → R' s t) : Alike E' R' x y := by
  cases x with
  | ok a s =>
      cases y with
      | ok b t => exact ⟨h.1, hR s t h.2⟩
      | error g t => exact h
  | error f s =>
      cases y with
      | ok b t => exact h
      | error g t => exact ⟨h.1, hE s t h.2⟩

theorem pure (a : α) (h : R s t) :
    Alike E R ((Pure.pure a : EStateM Fault σ α) s) ((Pure.pure a : EStateM Fault σ α) t) :=
  ⟨rfl, h⟩

theorem throw (f : Fault) (h : E s t) :
    Alike E R ((throwThe Fault f : EStateM Fault σ α) s)
      ((throwThe Fault f : EStateM Fault σ α) t) :=
  ⟨rfl, h⟩

theorem modify {f g : σ → σ} (h : R (f s) (g t)) :
    Alike E R ((modifyThe σ f : EStateM Fault σ Unit) s)
      ((modifyThe σ g : EStateM Fault σ Unit) t) :=
  ⟨rfl, h⟩

/-- What follows may rely on what is known of the first of the two computations where it
returned. -/
theorem bind_of_leaves {x y : EStateM Fault σ α} {k l : α → EStateM Fault σ β}
    {M : σ → σ → Prop} {m : α → σ → Prop} (hxy : Alike E M (x s) (y t))
    (hx : Leaves m (x s)) (hkl : ∀ a s' t', m a s' → M s' t' → Alike E R (k a s') (l a t')) :
    Alike E R ((x >>= k) s) ((y >>= l) t) := by
  change Alike E R (EStateM.bind x k s) (EStateM.bind y l t)
  unfold EStateM.bind
  cases hxs : x s with
  | ok a s' =>
      cases hyt : y t with
      | ok b t' =>
          rw [hxs, hyt] at hxy
          rw [hxs] at hx
          obtain ⟨rfl, hM⟩ := hxy
          exact hkl a s' t' hx hM
      | error g t' =>
          rw [hxs, hyt] at hxy
          exact hxy.elim
  | error f s' =>
      cases hyt : y t with
      | ok b t' =>
          rw [hxs, hyt] at hxy
          exact hxy.elim
      | error g t' =>
          rw [hxs, hyt] at hxy
          exact hxy

theorem bind {x y : EStateM Fault σ α} {k l : α → EStateM Fault σ β} {M : σ → σ → Prop}
    (hxy : Alike E M (x s) (y t))
    (hkl : ∀ a s' t', M s' t' → Alike E R (k a s') (l a t')) :
    Alike E R ((x >>= k) s) ((y >>= l) t) := by
  refine hxy.bind_of_leaves (m := fun _ _ => True) ?_ fun a s' t' _ => hkl a s' t'
  cases x s <;> trivial

theorem get_bind {k l : σ → EStateM Fault σ β} (h : Alike E R (k s s) (l t t)) :
    Alike E R ((getThe σ >>= k : EStateM Fault σ β) s)
      ((getThe σ >>= l : EStateM Fault σ β) t) := h

theorem fault_eq {x y : EStateM.Result Fault σ α} (h : Alike E R x y) :
    (ended y).1 = (ended x).1 := by
  cases x <;> cases y <;> first | exact h.elim | skip
  · rfl
  · exact congrArg some h.1.symm

theorem ended_rel {x y : EStateM.Result Fault σ α} (h : Alike R R x y) :
    R (ended x).2 (ended y).2 := by
  cases x <;> cases y <;> first | exact h.elim | exact h.2

/-- Computations that follow one course from one graph end alike. -/
theorem of_follows {graph : σ → TaskGraph} {g : TaskGraph} {moves : List Move} {a : α}
    {x y : EStateM.Result Fault σ α} (hx : Follows graph g moves (fun b _ => b = a) x)
    (hy : Follows graph g moves (fun b _ => b = a) y) :
    Alike (fun s t => graph t = graph s) (fun s t => graph t = graph s) x y := by
  have hends := hx.follow_eq.symm.trans hy.follow_eq
  cases x with
  | ok b s =>
      cases y with
      | ok c t => exact ⟨hx.2.trans hy.2.symm, (congrArg Prod.fst hends).symm⟩
      | error g t => cases congrArg Prod.snd hends
  | error f s =>
      cases y with
      | ok c t => cases congrArg Prod.snd hends
      | error g t =>
          exact ⟨Option.some.inj (congrArg Prod.snd hends), (congrArg Prod.fst hends).symm⟩

end Alike

/-- Two projects are the same but for what was asked and reported and for the identifiers
marked. Only those of a list may be marked in one of them and not in the other. -/
structure Project.Agrees (apart : List String) (p q : Project) : Prop where
  kept : q = { p with pluginIds := q.pluginIds, registry := q.registry }
  graph : q.graph = p.graph
  plugins : ∀ id ∉ apart, q.hasPlugin id = p.hasPlugin id

namespace Project.Agrees

variable {apart : List String} {p q : Project}

theorem mono {apart' : List String} (h : p.Agrees apart q) (hsub : apart ⊆ apart') :
    p.Agrees apart' q :=
  ⟨h.kept, h.graph, fun id hid => h.plugins id fun hmem => hid (hsub hmem)⟩

/-- Agreement is kept by a change that touches neither the registry nor the identifiers. -/
theorem map (h : p.Agrees apart q) {f : Project → Project}
    (hf : ∀ (s : Project) ids registry, f { s with pluginIds := ids, registry } =
      { f s with pluginIds := ids, registry }) : (f p).Agrees apart (f q) := by
  have hself : ∀ s, f s = { f s with pluginIds := s.pluginIds, registry := s.registry } :=
    fun s => hf s s.pluginIds s.registry
  have hids : ∀ s, (f s).pluginIds = s.pluginIds := fun s => by rw [hself s]
  have hregistry : ∀ s, (f s).registry = s.registry := fun s => by rw [hself s]
  refine ⟨?_, ?_, fun id hid => ?_⟩
  · rw [hids q, hregistry q, ← hf, ← h.kept]
  · rw [Project.graph, Project.graph, hregistry, hregistry]
    exact h.graph
  · rw [hasPlugin, hasPlugin, hids, hids]
    exact h.plugins id hid

end Project.Agrees

namespace Configuring

variable {α : Type} {apart : List String} {p q : Project} {E : Project → Project → Prop}

/-- A registration that looks only at the graph ends alike on projects that agree. -/
theorem registering_alike {x : Registration α} (h : p.Agrees apart q)
    (hx : Alike (fun r r' => r'.graph = r.graph) (fun r r' => r'.graph = r.graph)
      (x p.registry) (x q.registry)) :
    Alike (Project.Agrees apart) (Project.Agrees apart) (registering x p) (registering x q) := by
  have hmade : ∀ r r' : Registry, r'.graph = r.graph →
      Project.Agrees apart { p with registry := r } { q with registry := r' } :=
    fun r r' hgraph =>
      ⟨congrArg (fun s : Project => { s with registry := r' }) h.kept, hgraph, h.plugins⟩
  unfold registering
  cases hp : x p.registry with
  | ok a r =>
      cases hq : x q.registry with
      | ok b r' =>
          rw [hp, hq] at hx
          exact ⟨hx.1, hmade r r' hx.2⟩
      | error g r' =>
          rw [hp, hq] at hx
          exact hx.elim
  | error f r =>
      cases hq : x q.registry with
      | ok b r' =>
          rw [hp, hq] at hx
          exact hx.elim
      | error g r' =>
          rw [hp, hq] at hx
          exact ⟨hx.1, hmade r r' hx.2⟩

/-- A registration whose course and value are known from the graph ends alike on projects
that agree. -/
theorem registering_alike_of_follows {x : Registration α} {moves : List Move} {a : α}
    (h : p.Agrees apart q)
    (hx : ∀ r : Registry, Follows Registry.graph r.graph moves (fun b _ => b = a) (x r)) :
    Alike (Project.Agrees apart) (Project.Agrees apart) (registering x p) (registering x q) := by
  refine registering_alike h (.of_follows (hx p.registry) ?_)
  rw [← show q.registry.graph = p.registry.graph from h.graph]
  exact hx q.registry

theorem report_alike (event event' : LogEvent) (h : p.Agrees apart q) :
    Alike (Project.Agrees apart) (Project.Agrees apart) (report event p) (report event' q) :=
  ⟨rfl, congrArg (fun s : Project => { s with registry :=
    { q.registry with log := q.registry.log ++ [event'] } }) h.kept, h.graph, h.plugins⟩

theorem ask_alike (paths paths' : List String) (h : p.Agrees apart q) :
    Alike (Project.Agrees apart) (Project.Agrees apart) (registering (Registration.ask paths) p)
      (registering (Registration.ask paths') q) :=
  ⟨rfl, congrArg (fun s : Project => { s with registry :=
    { q.registry with asked := q.registry.asked ++ paths' } }) h.kept, h.graph, h.plugins⟩

/-- Whatever changes the graph by itself ends alike on projects that agree. -/
theorem changing_alike (f : TaskGraph → Except Fault TaskGraph) (h : p.Agrees apart q) :
    Alike (Project.Agrees apart) (Project.Agrees apart)
      (registering (Registration.change f) p) (registering (Registration.change f) q) := by
  refine registering_alike h ?_
  have hgraph : q.registry.graph = p.registry.graph := h.graph
  unfold Registration.change
  rw [hgraph]
  cases f p.registry.graph with
  | ok g => exact ⟨rfl, rfl⟩
  | error e => exact ⟨rfl, hgraph⟩

/-! ## Evaluation -/

theorem planProject_alike (h : p.Agrees [] q) :
    Alike (Project.Agrees []) (Project.Agrees []) (planProject p) (planProject q) := by
  have hjvm : q.hasPlugin Plugin.kotlinJvm = p.hasPlugin Plugin.kotlinJvm :=
    h.plugins _ List.not_mem_nil
  have hsame : q.analysisTask = p.analysisTask ∧ q.baselineTask = p.baselineTask ∧
      q.registrar = p.registrar ∧ q.sourceSets = p.sourceSets := by
    rw [h.kept]
    exact ⟨rfl, rfl, rfl, rfl⟩
  have hsets : ∀ s t : Project, s.Agrees [] t → Alike (Project.Agrees []) (Project.Agrees [])
      ((if p.hasPlugin Plugin.kotlinJvm then
        (do let _ ← registering (SourceSet.registerAll p.registrar p.sourceSets))
        else pure () : Configuring Unit) s)
      ((if p.hasPlugin Plugin.kotlinJvm then
        (do let _ ← registering (SourceSet.registerAll p.registrar p.sourceSets))
        else pure () : Configuring Unit) t) := by
    intro s t hst
    split
    · exact (registering_alike_of_follows hst
        (SourceSet.registerAll_follows p.registrar p.sourceSets)).bind fun _ _ _ => .pure _
    · exact .pure () hst
  unfold planProject
  refine Alike.get_bind ?_
  rw [hjvm, hsame.1, hsame.2.1, hsame.2.2.1, hsame.2.2.2, h.graph]
  refine (ask_alike _ _ h).bind fun _ p₀ q₀ h₀ => ?_
  refine (changing_alike _ h₀).bind fun _ p₁ q₁ h₁ => ?_
  refine (changing_alike _ h₁).bind fun _ p₂ q₂ h₂ => ?_
  refine (changing_alike _ h₂).bind fun _ p₃ q₃ h₃ => ?_
  split
  · exact (changing_alike _ h₃).bind fun _ p₄ q₄ h₄ => hsets p₄ q₄ h₄
  · exact hsets p₃ q₃ h₃

theorem resolveVariants_alike (source : VariantSource) (h : p.Agrees [] q) :
    Alike (Project.Agrees []) (Project.Agrees []) (resolveVariants source p)
      (resolveVariants source q) := by
  have hresolver : q.resolverFor source = p.resolverFor source := by
    rw [h.kept]
    rfl
  unfold resolveVariants
  refine Alike.get_bind ?_
  change Alike _ _
    ((registering (fun r => ((p.resolverFor source).resolve r).2) >>= _) p)
    ((registering (fun r => ((q.resolverFor source).resolve r).2) >>= _) q)
  rw [hresolver]
  refine (registering_alike_of_follows h fun r =>
    (p.resolverFor source).resolve_follows rfl r).bind fun resolution s t hst => ?_
  exact Alike.modify (hst.map (f := fun s => { s with variantTasks := some resolution })
    fun _ _ _ => rfl)

theorem planVariants_alike (h : p.Agrees [] q) :
    Alike (Project.Agrees []) (Project.Agrees []) (planVariants p) (planVariants q) := by
  have hsame : q.variantSource = p.variantSource ∧ q.name = p.name := by
    rw [h.kept]
    exact ⟨rfl, rfl⟩
  unfold planVariants
  refine Alike.get_bind ?_
  rw [h.plugins _ List.not_mem_nil, hsame.1, hsame.2]
  split
  · exact report_alike _ _ h
  · cases p.variantSource with
    | error f => exact .throw f h
    | ok source? =>
        cases source? with
        | none => exact .throw _ h
        | some source => exact resolveVariants_alike source h

theorem finalizeOne_alike (plugin : Plugin) (h : p.Agrees [] q) :
    Alike (Project.Agrees []) (Project.Agrees []) (finalizeOne plugin p)
      (finalizeOne plugin q) := by
  unfold finalizeOne
  refine (report_alike _ _ h).bind fun _ p₁ q₁ h₁ => ?_
  have hrecorded := h₁.map (f := fun s => { s with
    history := s.history ++ [PluginEvent.finalized plugin] }) fun _ _ _ => rfl
  refine (Alike.modify hrecorded).bind fun _ p₂ q₂ h₂ => ?_
  cases plugin with
  | analysis => exact planProject_alike h₂
  | variantAnalysis serial => exact planVariants_alike h₂
  | addon id key =>
      have haddon : q₂.addonOf (.addon id key) = p₂.addonOf (.addon id key) := by
        rw [h₂.kept]
        rfl
      refine Alike.get_bind ?_
      rw [haddon]
      cases (p₂.addonOf (.addon id key)).refusal with
      | none => exact .pure () h₂
      | some reason => exact .throw _ h₂

theorem finalizeEach_alike (plugins : List Plugin) (h : p.Agrees [] q) :
    Alike (Project.Agrees []) (Project.Agrees []) (finalizeEach plugins p)
      (finalizeEach plugins q) := by
  induction plugins generalizing p q with
  | nil => exact .pure () h
  | cons plugin plugins ih => exact (finalizeOne_alike plugin h).bind fun _ _ _ hst => ih hst

/-- Evaluation ends alike on projects that agree. -/
theorem evaluate_alike (h : p.Agrees [] q) :
    Alike (Project.Agrees []) (Project.Agrees []) (evaluate p) (evaluate q) := by
  have hsame : q.evaluated = p.evaluated ∧ q.name = p.name ∧ q.applied = p.applied := by
    rw [h.kept]
    exact ⟨rfl, rfl, rfl⟩
  cases hfresh : p.evaluated with
  | true =>
      rw [evaluate_of_evaluated hfresh, evaluate_of_evaluated (hsame.1.trans hfresh), hsame.2.1]
      exact ⟨rfl, h⟩
  | false =>
      rw [evaluate_of_open hfresh, evaluate_of_open (hsame.1.trans hfresh)]
      have hopened := h.map (f := fun s => { s with evaluated := true }) fun _ _ _ => rfl
      have heach : ∀ s t : Project, s.Agrees [] t → Alike (Project.Agrees [])
          (Project.Agrees []) (finalizeEach p.applied s) (finalizeEach q.applied t) := by
        rw [hsame.2.2]
        exact fun _ _ => finalizeEach_alike p.applied
      refine (heach _ _ hopened).bind fun _ s t hst => ?_
      exact Alike.get_bind (report_alike _ _ hst)

end Configuring

end AnalysisPlan
