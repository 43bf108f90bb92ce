import AnalysisPlan.Proofs.Following

/-!
# Where the registration of source sets stops

Source sets are registered one after the other, and the first that is blocked breaks the
registration off: it has no Kotlin sources or no name, or the name of its task is taken, in
the graph from the start or by a source set before it (`SourceSet.BlockedAt`). What was
registered until then stays.

A source set that is registered takes its name from those behind it, so a place in the list
is blocked in the graph as it was exactly if it is blocked, one place earlier, in the graph
with that task (`SourceSet.blockedAt_succ`). By induction over the list this settles where
the course of any list ends, and what the graph is there (`SourceSet.exists_firstBlocked`).
-/

namespace AnalysisPlan

namespace SourceSet

variable {r : Registrar} {g : TaskGraph} {s : SourceSet} {sets : List SourceSet} {k : Nat}

/-- A source set that cannot be registered where the given names are taken. -/
def Blocked (taken : List String) (s : SourceSet) : Prop :=
  s.kotlinSources = none ∨ s.name = "" ∨ Task.nameFor s.name ∈ taken

/-- The source set at a place of a list has no Kotlin sources or no name, or its task has
the name of a task that is there or of one before it in the list. -/
def BlockedAt (g : TaskGraph) (sets : List SourceSet) (place : Nat) : Prop :=
  ∃ s, sets[place]? = some s ∧
    (s.kotlinSources = none ∨ s.name = "" ∨ Task.nameFor s.name ∈ g.names ∨
      ∃ earlier ∈ sets.take place, Task.nameFor earlier.name = Task.nameFor s.name)

/-- The first place that is blocked, or the end of the list if none is. -/
structure FirstBlocked (g : TaskGraph) (sets : List SourceSet) (place : Nat) : Prop where
  le_length : place ≤ sets.length
  before : ∀ i < place, ¬ BlockedAt g sets i
  blocked : place < sets.length → BlockedAt g sets place

/-- The node of a source set: its task, which depends on nothing. -/
def node (r : Registrar) (s : SourceSet) : TaskNode := ⟨r.taskFor s.unit, ∅⟩

theorem blockedAt_zero : BlockedAt g (s :: sets) 0 ↔ s.Blocked g.names := by
  simp [BlockedAt, Blocked]

/-- Behind a source set, its task counts as one that is there. -/
theorem blockedAt_succ (r : Registrar) {place : Nat} :
    BlockedAt g (s :: sets) (place + 1) ↔ BlockedAt (g.append (s.node r)) sets place := by
  have htaken : ∀ t : SourceSet,
      (Task.nameFor t.name ∈ g.names ∨
        ∃ earlier ∈ (s :: sets).take (place + 1), Task.nameFor earlier.name = Task.nameFor t.name) ↔
      (Task.nameFor t.name ∈ (g.append (s.node r)).names ∨
        ∃ earlier ∈ sets.take place, Task.nameFor earlier.name = Task.nameFor t.name) := by
    intro t
    have hname : (s.node r).task.name = Task.nameFor s.name := rfl
    simp only [TaskGraph.names_append, hname, List.mem_append, List.take_succ_cons, List.mem_cons,
      List.not_mem_nil, false_or, exists_eq_or_imp, or_assoc, eq_comm (a := Task.nameFor s.name)]
  unfold BlockedAt
  simp only [List.getElem?_cons_succ, htaken]

theorem FirstBlocked.succ (hfree : ¬ s.Blocked g.names)
    (h : FirstBlocked (g.append (s.node r)) sets k) : FirstBlocked g (s :: sets) (k + 1) where
  le_length := Nat.succ_le_succ h.le_length
  before i hi := by
    cases i with
    | zero => exact hfree ∘ blockedAt_zero.1
    | succ i => exact h.before i (Nat.lt_of_succ_lt_succ hi) ∘ (blockedAt_succ r).1
  blocked hk := (blockedAt_succ r).2 (h.blocked (Nat.lt_of_succ_lt_succ hk))

/-- Some place is blocked exactly if the first one does not come after the list. -/
theorem FirstBlocked.exists_iff (h : FirstBlocked g sets k) :
    (∃ i, BlockedAt g sets i) ↔ k ≠ sets.length := by
  constructor
  · rintro ⟨i, s, hs, hi⟩ rfl
    exact h.before i (List.getElem?_eq_some_iff.1 hs).1 ⟨s, hs, hi⟩
  · intro hne
    exact ⟨k, h.blocked (Nat.lt_of_le_of_ne h.le_length hne)⟩

theorem follow_of_blocked (r : Registrar) (h : s.Blocked g.names) :
    ∃ f, g.follow (s.refusals ++ r.moves s.unit) = (g, some f) := by
  unfold refusals Registrar.moves Registration.unnamed
  by_cases hsources : s.kotlinSources = none
  · rw [if_pos hsources]
    exact ⟨_, rfl⟩
  rw [if_neg hsources, List.nil_append]
  by_cases hname : s.name = ""
  · rw [if_pos (show s.unit.name = "" from hname)]
    exact ⟨_, rfl⟩
  rw [if_neg (show s.unit.name ≠ "" from hname), List.nil_append]
  have htaken : Task.nameFor s.name ∈ g.names := (h.resolve_left hsources).resolve_left hname
  exact ⟨_, TaskGraph.follow_add_of_mem [] htaken⟩

theorem follow_of_not_blocked (r : Registrar) (h : ¬ s.Blocked g.names) :
    g.follow (s.refusals ++ r.moves s.unit) = (g.append (s.node r), none) := by
  obtain ⟨hsources, hnamed⟩ := not_or.1 h
  obtain ⟨hname, hfree⟩ := not_or.1 hnamed
  unfold refusals Registrar.moves Registration.unnamed
  rw [if_neg hsources, if_neg (show s.unit.name ≠ "" from hname), List.nil_append,
    List.nil_append]
  exact TaskGraph.follow_add_of_not_mem [] hfree

/-- The course of source sets leads to the graph with the tasks of those before the first
that is blocked, and is completed exactly if none is. -/
theorem exists_firstBlocked (r : Registrar) (g : TaskGraph) (sets : List SourceSet) :
    ∃ k, FirstBlocked g sets k ∧
      (g.follow (course r sets)).1.nodes = g.nodes ++ (sets.take k).map (node r) ∧
      ((g.follow (course r sets)).2 = none ↔ k = sets.length) := by
  induction sets generalizing g with
  | nil => exact ⟨0, ⟨Nat.le_refl 0, by simp, by simp⟩, by simp [course], by simp [course]⟩
  | cons s sets ih =>
      rw [course, List.flatMap_cons]
      by_cases hblocked : s.Blocked g.names
      · obtain ⟨f, hfollow⟩ := follow_of_blocked r hblocked
        rw [TaskGraph.follow_append_of_ended hfollow]
        exact ⟨0, ⟨Nat.zero_le _, by simp, fun _ => blockedAt_zero.2 hblocked⟩, by simp, by simp⟩
      · rw [TaskGraph.follow_append_of_completed (follow_of_not_blocked r hblocked)]
        obtain ⟨k, hfirst, hnodes, hended⟩ := ih (g.append (s.node r))
        refine ⟨k + 1, hfirst.succ hblocked, ?_, ?_⟩
        · rw [show sets.flatMap _ = course r sets from rfl, hnodes, List.take_succ_cons,
            List.map_cons, TaskGraph.append, List.append_assoc, List.singleton_append]
        · rw [show sets.flatMap _ = course r sets from rfl, hended, List.length_cons,
            Nat.succ_inj]

/-- Registering source sets fails exactly if some place of their list is blocked. However it
ends, the graph is the one from before with the tasks of the source sets before the first
blocked place behind the others, in the order of the list, and nothing depends on more or
less than it did. Where registering returns, it returns the tasks of all. -/
theorem registerAll_stops (r : Registrar) (sets : List SourceSet) (registry : Registry) :
    ((∃ fault after, registerAll r sets registry = .error fault after) ↔
      ∃ place, BlockedAt registry.graph sets place) ∧
    (∃ place, FirstBlocked registry.graph sets place ∧
      (ended (registerAll r sets registry)).2.graph.nodes =
        registry.graph.nodes ++
          (sets.take place).map fun s => ⟨r.taskFor s.unit, ∅⟩) ∧
    ∀ tasks after, registerAll r sets registry = .ok tasks after →
      tasks = sets.map fun s => r.taskFor s.unit := by
  obtain ⟨k, hfirst, hnodes, hended⟩ := exists_firstBlocked r registry.graph sets
  have hfollows := registerAll_follows r sets registry
  rw [hfollows.follow_eq] at hnodes hended
  refine ⟨?_, ⟨k, hfirst, hnodes⟩, fun tasks after hok => ?_⟩
  · rw [hfirst.exists_iff, ne_eq, ← hended]
    cases registerAll r sets registry with
    | ok tasks after => simp [ended]
    | error fault after => simp [ended]
  · rw [hok] at hfollows
    exact hfollows.2

end SourceSet

end AnalysisPlan
