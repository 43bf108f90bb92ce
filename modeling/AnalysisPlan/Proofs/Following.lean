import AnalysisPlan.Proofs.Course
import AnalysisPlan.SourceSet

/-!
# Computations that follow a course

`Follows graph g moves done` is what is to be known about how a computation ended
that started at the graph `g`: the graph that it left and the fault that it ended
with are those of the course, and `done` holds of what it returned. Computations
that follow courses one after the other follow the courses put together
(`Follows.bind`).

The steps of registration follow courses that are known beforehand. An umbrella
is added and connected in two steps; since nothing comes between them, they count
as the one move that adds a node with its first dependency
(`TaskGraph.follow_add_connect`).
-/

namespace AnalysisPlan

/-- The end of a computation accords with a course from the graph `g`. -/
def Follows {σ α : Type} (graph : σ → TaskGraph) (g : TaskGraph) (moves : List Move)
    (done : α → σ → Prop) : EStateM.Result Fault σ α → Prop
  | .ok a s => g.follow moves = (graph s, none) ∧ done a s
  | .error f s => g.follow moves = (graph s, some f)

def returned {σ α : Type} : EStateM.Result Fault σ α → Bool
  | .ok _ _ => true
  | .error _ _ => false

/-- How a computation ended: the fault, if it failed, and the state that it left. -/
def ended {σ α : Type} : EStateM.Result Fault σ α → Option Fault × σ
  | .ok _ s => (none, s)
  | .error f s => (some f, s)

theorem exists_ok_of_returned {σ α : Type} {result : EStateM.Result Fault σ α}
    {done : α → σ → Prop} (hok : returned result = true)
    (h : ∀ a s, result = .ok a s → done a s) : ∃ a s, result = .ok a s ∧ done a s := by
  cases result with
  | ok a s => exact ⟨a, s, rfl, h a s rfl⟩
  | error f s => cases hok

namespace Follows

variable {σ α β : Type} {graph : σ → TaskGraph} {g : TaskGraph} {moves xs ys : List Move}
  {mid : α → σ → Prop}

theorem mono {done done' : α → σ → Prop} {result : EStateM.Result Fault σ α}
    (h : Follows graph g moves done result) (hd : ∀ a s, done a s → done' a s) :
    Follows graph g moves done' result := by
  cases result with
  | ok a s => exact ⟨h.1, hd a s h.2⟩
  | error f s => exact h

theorem and_follows {done : α → σ → Prop} {result : EStateM.Result Fault σ α}
    (h : Follows graph g moves done result) :
    Follows graph g moves (fun a s => g.follow moves = (graph s, none) ∧ done a s)
      result := by
  cases result with
  | ok a s => exact ⟨h.1, h⟩
  | error f s => exact h

theorem returns_iff {done : α → σ → Prop} {result : EStateM.Result Fault σ α}
    (h : Follows graph g moves done result) :
    (∃ a s, result = .ok a s) ↔ (g.follow moves).2 = none := by
  cases result with
  | ok a s => simp [h.1]
  | error f s => simp [show g.follow moves = (graph s, some f) from h]

theorem follow_eq {done : α → σ → Prop} {result : EStateM.Result Fault σ α}
    (h : Follows graph g moves done result) :
    g.follow moves = (graph (ended result).2, (ended result).1) := by
  cases result with
  | ok a s => exact h.1
  | error f s => exact h

theorem congr {g' : TaskGraph} {moves' : List Move} {done : α → σ → Prop}
    {result : EStateM.Result Fault σ α} (h : Follows graph g moves done result)
    (he : g'.follow moves' = g.follow moves) : Follows graph g' moves' done result := by
  cases result with
  | ok a s => exact ⟨he.trans h.1, h.2⟩
  | error f s => exact he.trans h

theorem pure (a : α) (s : σ) :
    Follows graph (graph s) [] (fun b t => b = a ∧ t = s)
      ((Pure.pure a : EStateM Fault σ α) s) := ⟨rfl, rfl, rfl⟩

theorem throw (f : Fault) (s : σ) {done : α → σ → Prop} :
    Follows graph (graph s) [.refuse f] done
      ((throwThe Fault f : EStateM Fault σ α) s) := rfl

theorem modify {f : σ → σ} {s : σ} (h : graph (f s) = graph s) :
    Follows graph (graph s) [] (fun _ t => t = f s)
      ((modifyThe σ f : EStateM Fault σ Unit) s) :=
  ⟨Prod.ext h.symm rfl, rfl⟩

theorem get_bind {k : σ → EStateM Fault σ β} {s : σ} {done : β → σ → Prop}
    (h : Follows graph g ys done (k s s)) :
    Follows graph g ys done ((getThe σ >>= k : EStateM Fault σ β) s) := h

theorem bind {x : EStateM Fault σ α} {k : α → EStateM Fault σ β} {s : σ}
    {done : β → σ → Prop} (hx : Follows graph g xs mid (x s))
    (hk : ∀ a t, g.follow xs = (graph t, none) → mid a t →
      Follows graph (graph t) ys done (k a t)) :
    Follows graph g (xs ++ ys) done ((x >>= k) s) := by
  change Follows graph g (xs ++ ys) done (EStateM.bind x k s)
  unfold EStateM.bind
  cases hxs : x s with
  | ok a t =>
      rw [hxs] at hx
      exact (hk a t hx.1 hx.2).congr (TaskGraph.follow_append_of_completed hx.1 ys)
  | error f t =>
      rw [hxs] at hx
      exact TaskGraph.follow_append_of_ended hx ys

/-- A computation that comes after one that does nothing to the graph. -/
theorem quiet_bind {x : EStateM Fault σ α} {k : α → EStateM Fault σ β} {s : σ}
    {done : β → σ → Prop} (hx : Follows graph g [] mid (x s))
    (hk : ∀ a t, graph t = g → mid a t → Follows graph g ys done (k a t)) :
    Follows graph g ys done ((x >>= k) s) := by
  rw [← List.nil_append ys]
  refine hx.bind fun a t ht hm => ?_
  have hg : graph t = g := (congrArg Prod.fst ht).symm
  rw [hg]
  exact hk a t hg hm

/-- A computation that comes before one that does nothing to the graph. -/
theorem bind_quiet {x : EStateM Fault σ α} {k : α → EStateM Fault σ β} {s : σ}
    {done : β → σ → Prop} (hx : Follows graph g xs mid (x s))
    (hk : ∀ a t, g.follow xs = (graph t, none) → mid a t →
      Follows graph (graph t) [] done (k a t)) :
    Follows graph g xs done ((x >>= k) s) := by
  have h := hx.bind hk
  rwa [List.append_nil] at h

/-- A computation that comes after a refusal. -/
theorem refuse_bind {x : EStateM Fault σ α} {k : α → EStateM Fault σ β} {s : σ} {f : Fault}
    {done : β → σ → Prop} (hx : Follows graph g [.refuse f] mid (x s)) :
    Follows graph g (.refuse f :: ys) done ((x >>= k) s) := by
  refine hx.bind fun _ _ h _ => ?_
  cases h

end Follows

namespace TaskGraph

theorem addDependency_of_mem {g : TaskGraph} {name dependency : String}
    (hn : name ∈ g.names) (hd : dependency ∈ g.names) :
    g.addDependency name dependency = .ok (g.tie name dependency) := by
  simp [addDependency, has_iff.2 hn, has_iff.2 hd, tie]

/-- Adding a task and connecting it at once is adding it with its first
dependency. -/
theorem follow_add_connect (g : TaskGraph) (task : Task) (dependency : String) :
    g.follow [.add ⟨task, (∅ : NameSet).insert dependency⟩] =
      g.follow [.add ⟨task, ∅⟩, .connect task.name dependency] := by
  by_cases h : task.name ∈ g.names
  · rw [follow_add_of_mem _ h, follow_add_of_mem _ h]
  · rw [follow_add_of_not_mem _ h, follow_add_of_not_mem _ h, follow_connect]
    have hold : ∀ n ∈ g.nodes, needing task.name dependency n = n := by
      intro n hn
      have hne : n.task.name ≠ task.name := by
        intro e
        exact h (by rw [names_eq_nodes, ← e]; exact List.mem_map_of_mem hn)
      simp [needing, hne]
    simp [append, tie, List.map_congr_left hold, needing]

end TaskGraph

namespace Registration

variable {α : Type}

theorem report_follows (events : List LogEvent) (r : Registry) :
    Follows Registry.graph r.graph [] (fun _ _ => True) (report events r) :=
  ⟨rfl, trivial⟩

theorem ask_follows (paths : List String) (r : Registry) :
    Follows Registry.graph r.graph [] (fun _ _ => True) (ask paths r) :=
  ⟨rfl, trivial⟩

theorem inspect_follows (present : String → Bool) (paths : List String) (r : Registry) :
    Follows Registry.graph r.graph [] (fun _ _ => True) (inspect present paths r) :=
  ⟨rfl, trivial⟩

theorem require_ok_follows (a : α) (r : Registry) :
    Follows Registry.graph r.graph [] (fun b _ => b = a) (require (.ok a) r) :=
  ⟨rfl, rfl⟩

theorem require_error_follows (f : Fault) (r : Registry) {done : α → Registry → Prop} :
    Follows Registry.graph r.graph [.refuse f] done (require (.error f) r) := rfl

/-- The moves that refuse a unit without a name. -/
def unnamed (unitName : String) : List Move :=
  if unitName = "" then [.refuse .unnamedUnit] else []

theorem unnamed_follows (unitName : String) (r : Registry) :
    Follows Registry.graph r.graph (unnamed unitName)
      (fun name _ => unitName ≠ "" ∧ name = Task.nameFor unitName)
      (require (Task.nameFor? unitName) r) := by
  by_cases h : unitName = ""
  · rw [unnamed, if_pos h, h]
    exact require_error_follows _ r
  · rw [unnamed, if_neg h, Task.nameFor?_of_ne h]
    exact (require_ok_follows _ r).mono fun _ _ hn => ⟨h, hn⟩

theorem add_follows (task : Task) (r : Registry) :
    Follows Registry.graph r.graph [.add ⟨task, ∅⟩] (fun _ _ => True) (add task r) := by
  unfold add change TaskGraph.register
  by_cases h : task.name ∈ r.graph.names
  · simp [h, Follows, TaskGraph.follow]
  · simp [h, Follows, TaskGraph.follow, TaskGraph.append]

theorem connect_follows {name dependency : String} {r : Registry}
    (hn : name ∈ r.graph.names) (hd : dependency ∈ r.graph.names) :
    Follows Registry.graph r.graph [.connect name dependency] (fun _ _ => True)
      (connect name dependency r) := by
  simp only [connect, change, TaskGraph.addDependency_of_mem hn hd]
  exact ⟨rfl, trivial⟩

end Registration

/-- What registering a unit does to the graph. -/
def Registrar.moves (r : Registrar) (u : AnalysisUnit) : List Move :=
  Registration.unnamed u.name ++ [.add ⟨r.taskFor u, ∅⟩]

theorem Registrar.refuse_not_mem_moves_iff (r : Registrar) (u : AnalysisUnit) :
    (∀ f, .refuse f ∉ r.moves u) ↔ u.name ≠ "" := by
  unfold Registrar.moves Registration.unnamed
  by_cases h : u.name = "" <;> simp [h]

theorem Registrar.register_follows (r : Registrar) (u : AnalysisUnit) (registry : Registry) :
    Follows Registry.graph registry.graph (r.moves u) (fun task _ => task = r.taskFor u)
      (r.register u registry) := by
  unfold Registrar.register
  refine (Registration.unnamed_follows u.name registry).bind fun name r₁ _ _ => ?_
  refine (Registration.inspect_follows _ _ r₁).quiet_bind fun _ r₂ hr₂ _ => ?_
  rw [← hr₂]
  refine (Registration.add_follows _ r₂).bind_quiet fun _ r₃ _ _ => ?_
  refine (Registration.report_follows _ r₃).quiet_bind fun _ r₄ hr₄ _ => ?_
  rw [← hr₄]
  exact (Follows.pure _ r₄).mono fun _ _ h => h.1

namespace SourceSet

/-- The unit that a source set is analysed as once Kotlin is set up for it. -/
def unit (s : SourceSet) : AnalysisUnit where
  name := s.name
  sources := s.kotlinSources.getD []
  classpath := s.classesDirs
  leading := s.compileClasspath

/-- The refusal of a source set that Kotlin was never set up for. -/
def refusals (s : SourceSet) : List Move :=
  if s.kotlinSources = none then [.refuse (.noKotlinSources s.name)] else []

def course (r : Registrar) (sets : List SourceSet) : List Move :=
  sets.flatMap fun s => s.refusals ++ r.moves s.unit

theorem names_course (r : Registrar) (sets : List SourceSet) :
    Move.names (course r sets) = sets.map (Task.nameFor ·.name) := by
  induction sets with
  | nil => rfl
  | cons s sets ih =>
      have hunit : Move.names (s.refusals ++ r.moves s.unit) = [Task.nameFor s.name] := by
        unfold refusals Registrar.moves Registration.unnamed
        split <;> split <;> rfl
      rw [course, List.flatMap_cons, Move.names_append, hunit, List.map_cons]
      exact congrArg (_ :: ·) ih

theorem closed_course (r : Registrar) (sets : List SourceSet) :
    Move.Closed (course r sets) := by
  induction sets with
  | nil => trivial
  | cons s sets ih =>
      have hadd : Move.Closed [.add ⟨r.taskFor s.unit, ∅⟩] := trivial
      have hunit : Move.Closed (s.refusals ++ r.moves s.unit) := by
        rw [Registrar.moves, ← List.append_assoc]
        exact hadd.behind (by simp) _
      exact hunit.append ih

/-- Nothing of source sets is refused exactly if all have Kotlin sources and a
name. -/
theorem refuse_not_mem_course_iff (r : Registrar) (sets : List SourceSet) :
    (∀ f, .refuse f ∉ course r sets) ↔ ∀ s ∈ sets, s.kotlinSources ≠ none ∧ s.name ≠ "" := by
  have hone : ∀ s : SourceSet, (∀ f, .refuse f ∉ s.refusals ++ r.moves s.unit) ↔
      s.kotlinSources ≠ none ∧ s.name ≠ "" := by
    intro s
    have hsources : (∀ f, .refuse f ∉ s.refusals) ↔ s.kotlinSources ≠ none := by
      unfold refusals
      by_cases h : s.kotlinSources = none <;> simp [h]
    simp only [List.mem_append, not_or, forall_and, hsources, r.refuse_not_mem_moves_iff]
    rfl
  simp only [course, List.mem_flatMap, not_exists, not_and]
  constructor
  · intro h s hs
    exact (hone s).1 fun f => h f s hs
  · intro h f s hs
    exact (hone s).2 (h s hs) f

theorem register_follows (r : Registrar) (s : SourceSet) (registry : Registry) :
    Follows Registry.graph registry.graph (s.refusals ++ r.moves s.unit)
      (fun task _ => task = r.taskFor s.unit) (s.register r registry) := by
  have hunit : Follows Registry.graph registry.graph s.refusals (fun u _ => u = s.unit)
      (Registration.require s.unit? registry) := by
    cases hs : s.kotlinSources with
    | none =>
        rw [refusals, if_pos hs, unit?, hs]
        exact Registration.require_error_follows _ registry
    | some sources =>
        have hu : s.unit? = .ok s.unit := by simp [unit?, unit, hs]
        rw [refusals, if_neg (by simp [hs]), hu]
        exact Registration.require_ok_follows _ registry
  unfold register
  refine hunit.bind fun u r₁ _ hu => ?_
  rw [hu]
  exact r.register_follows s.unit r₁

theorem registerEach_follows (r : Registrar) (sets : List SourceSet) (registry : Registry) :
    Follows Registry.graph registry.graph (course r sets)
      (fun tasks _ => tasks = sets.map fun s => r.taskFor s.unit)
      (registerEach r sets registry) := by
  induction sets generalizing registry with
  | nil => exact (Follows.pure [] registry).mono fun _ _ h => h.1
  | cons s sets ih =>
      rw [registerEach_cons, course, List.flatMap_cons]
      refine (register_follows r s registry).bind fun task r₁ _ htask => ?_
      refine (ih r₁).bind_quiet fun tasks r₂ _ htasks => ?_
      refine (Follows.pure _ r₂).mono fun _ _ h => ?_
      rw [h.1, htask, htasks, List.map_cons]

theorem registerAll_follows (r : Registrar) (sets : List SourceSet) (registry : Registry) :
    Follows Registry.graph registry.graph (course r sets)
      (fun tasks _ => tasks = sets.map fun s => r.taskFor s.unit)
      (registerAll r sets registry) := by
  unfold registerAll
  refine (registerEach_follows r sets registry).bind_quiet fun tasks r₁ _ htasks => ?_
  refine (Registration.report_follows _ r₁).quiet_bind fun _ r₂ hr₂ _ => ?_
  rw [← hr₂]
  exact (Follows.pure _ r₂).mono fun _ _ h => h.1.trans htasks

end SourceSet

end AnalysisPlan
