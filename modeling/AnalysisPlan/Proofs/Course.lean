import AnalysisPlan.TaskGraph

/-!
# Courses of construction

What planning does to a task graph is a course: a list of moves, each of which
adds a node, lets a task depend on another, or breaks the course off with a
fault. Which moves a computation makes does not depend on the graph; the graph
only decides how far the course gets, for a node whose name is taken breaks it
off as well. So two computations are compared by comparing their courses, and
what holds of every graph on the way is read off the part that was taken.

`TaskGraph.follow g moves` is the graph that is reached from `g` and the fault
that ended the course, if one did. A connection is taken blindly; that it starts
at a task which is there is a property of the course (`Move.Grounded`).
-/

namespace AnalysisPlan

/-- A move in the construction of a task graph. -/
inductive Move where
  | add (node : TaskNode)
  | connect (name dependency : String)
  | refuse (fault : Fault)
deriving DecidableEq

namespace Move

def node? : Move → Option TaskNode
  | add n => some n
  | connect .. => none
  | refuse _ => none

def nodes (moves : List Move) : List TaskNode := moves.filterMap node?

def names (moves : List Move) : List String := (nodes moves).map (·.task.name)

def settleOne (n : TaskNode) : Move → TaskNode
  | add _ => n
  | connect name dependency => TaskGraph.needing name dependency n
  | refuse _ => n

/-- A node after a course was taken. -/
def settle (moves : List Move) (n : TaskNode) : TaskNode := moves.foldl settleOne n

/-- Every connection of a course starts at a task that is known or that the
course has added before. -/
def Grounded : List String → List Move → Prop
  | _, [] => True
  | known, add n :: moves => Grounded (n.task.name :: known) moves
  | known, connect name _ :: moves => name ∈ known ∧ Grounded known moves
  | known, refuse _ :: moves => Grounded known moves

/-- Every refusal of a course stands before a node that the course would add. -/
def Closed : List Move → Prop
  | [] => True
  | add _ :: moves => Closed moves
  | connect .. :: moves => Closed moves
  | refuse _ :: moves => names moves ≠ [] ∧ Closed moves

@[simp] theorem nodes_nil : nodes [] = [] := rfl

@[simp] theorem nodes_add (n : TaskNode) (moves : List Move) :
    nodes (add n :: moves) = n :: nodes moves := rfl

@[simp] theorem nodes_connect (name dependency : String) (moves : List Move) :
    nodes (connect name dependency :: moves) = nodes moves := rfl

@[simp] theorem nodes_refuse (f : Fault) (moves : List Move) :
    nodes (refuse f :: moves) = nodes moves := rfl

@[simp] theorem nodes_append (xs ys : List Move) :
    nodes (xs ++ ys) = nodes xs ++ nodes ys := by
  simp [nodes]

theorem mem_nodes {n : TaskNode} {moves : List Move} :
    n ∈ nodes moves ↔ add n ∈ moves := by
  induction moves with
  | nil => simp
  | cons m moves ih => cases m <;> simp [ih]

@[simp] theorem names_nil : names [] = [] := rfl

@[simp] theorem names_add (n : TaskNode) (moves : List Move) :
    names (add n :: moves) = n.task.name :: names moves := rfl

@[simp] theorem names_connect (name dependency : String) (moves : List Move) :
    names (connect name dependency :: moves) = names moves := rfl

@[simp] theorem names_refuse (f : Fault) (moves : List Move) :
    names (refuse f :: moves) = names moves := rfl

@[simp] theorem names_append (xs ys : List Move) :
    names (xs ++ ys) = names xs ++ names ys := by
  simp [names]

theorem names_isPrefix {xs ys : List Move} (h : xs <+: ys) : names xs <+: names ys := by
  obtain ⟨rest, rfl⟩ := h
  exact ⟨names rest, (names_append xs rest).symm⟩

@[simp] theorem settle_nil (n : TaskNode) : settle [] n = n := rfl

theorem settle_cons (m : Move) (moves : List Move) (n : TaskNode) :
    settle (m :: moves) n = settle moves (settleOne n m) := rfl

@[simp] theorem settleOne_task (n : TaskNode) (m : Move) :
    (settleOne n m).task = n.task := by
  cases m with
  | add _ => rfl
  | connect name dependency => exact TaskGraph.needing_task name dependency n
  | refuse _ => rfl

@[simp] theorem settle_task (moves : List Move) (n : TaskNode) :
    (settle moves n).task = n.task := by
  induction moves generalizing n with
  | nil => rfl
  | cons m moves ih => rw [settle_cons, ih, settleOne_task]

theorem mem_needs_settleOne {k : String} {n : TaskNode} {m : Move} :
    k ∈ (settleOne n m).needs ↔ k ∈ n.needs ∨ connect n.task.name k = m := by
  cases m with
  | add _ => simp [settleOne]
  | refuse _ => simp [settleOne]
  | connect name dependency =>
      by_cases h : n.task.name = name
      · simp [settleOne, TaskGraph.needing, h, or_comm]
      · simp [settleOne, TaskGraph.needing, h]

/-- A task depends on what it depended on before, and on what the course connects
it to. -/
theorem mem_needs_settle {k : String} {n : TaskNode} {moves : List Move} :
    k ∈ (settle moves n).needs ↔ k ∈ n.needs ∨ connect n.task.name k ∈ moves := by
  induction moves generalizing n with
  | nil => simp
  | cons m moves ih =>
      rw [settle_cons, ih, mem_needs_settleOne, settleOne_task, List.mem_cons, or_assoc]

/-- A task that the course does not connect to anything stays as it is. -/
theorem settle_of_not_connected {n : TaskNode} {moves : List Move}
    (h : ∀ k, connect n.task.name k ∉ moves) : settle moves n = n := by
  have htask : (settle moves n).task = n.task := settle_task moves n
  have hneeds : (settle moves n).needs = n.needs := by
    apply NameSet.ext_mem
    intro k
    rw [mem_needs_settle]
    exact or_iff_left (h k)
  cases hs : settle moves n
  simp_all

theorem grounded_add {known : List String} {n : TaskNode} {moves : List Move} :
    Grounded known (add n :: moves) ↔ Grounded (n.task.name :: known) moves := Iff.rfl

theorem grounded_refuse {known : List String} {f : Fault} {moves : List Move} :
    Grounded known (refuse f :: moves) ↔ Grounded known moves := Iff.rfl

theorem Grounded.mono {known known' : List String} {moves : List Move}
    (hk : ∀ name ∈ known, name ∈ known') (h : Grounded known moves) :
    Grounded known' moves := by
  induction moves generalizing known known' with
  | nil => trivial
  | cons m moves ih =>
      cases m with
      | add n =>
          refine ih (fun name hname => ?_) (grounded_add.1 h)
          rcases List.mem_cons.1 hname with rfl | hname
          · exact List.mem_cons_self
          · exact List.mem_cons_of_mem _ (hk name hname)
      | connect name dependency => exact ⟨hk name h.1, ih hk h.2⟩
      | refuse f => exact ih hk (grounded_refuse.1 h)

theorem grounded_of_known {known : List String} {moves : List Move}
    (h : ∀ name dependency, connect name dependency ∈ moves → name ∈ known) :
    Grounded known moves := by
  induction moves with
  | nil => trivial
  | cons m moves ih =>
      have hrest : Grounded known moves :=
        ih fun name dependency hm => h name dependency (List.mem_cons_of_mem _ hm)
      cases m with
      | add n => exact grounded_add.2 (hrest.mono fun _ hname => List.mem_cons_of_mem _ hname)
      | connect name dependency => exact ⟨h name dependency List.mem_cons_self, hrest⟩
      | refuse f => exact hrest

theorem Grounded.append {known : List String} {xs ys : List Move}
    (hx : Grounded known xs) (hy : Grounded (names xs ++ known) ys) :
    Grounded known (xs ++ ys) := by
  induction xs generalizing known with
  | nil => exact hy
  | cons m xs ih =>
      cases m with
      | add n =>
          refine ih (grounded_add.1 hx) (hy.mono fun name hname => ?_)
          simp only [names_add, List.cons_append, List.mem_cons, List.mem_append] at hname ⊢
          rcases hname with h | h | h <;> simp [h]
      | connect name dependency => exact ⟨hx.1, ih hx.2 hy⟩
      | refuse f => exact ih (grounded_refuse.1 hx) hy

theorem Grounded.of_append {known : List String} {xs ys : List Move}
    (h : Grounded known (xs ++ ys)) : Grounded known xs := by
  induction xs generalizing known with
  | nil => trivial
  | cons m xs ih =>
      cases m with
      | add n => exact grounded_add.2 (ih (grounded_add.1 h))
      | connect name dependency => exact ⟨h.1, ih h.2⟩
      | refuse f => exact grounded_refuse.2 (ih (grounded_refuse.1 h))

theorem Grounded.mem_of_connect {known : List String} {moves : List Move}
    {name dependency : String} (h : Grounded known moves)
    (hm : connect name dependency ∈ moves) : name ∈ known ∨ name ∈ names moves := by
  induction moves generalizing known with
  | nil => simp at hm
  | cons m moves ih =>
      cases m with
      | add n =>
          rcases ih (grounded_add.1 h) (by simpa using hm) with hk | hk
          · rcases List.mem_cons.1 hk with rfl | hk
            · exact .inr (by simp)
            · exact .inl hk
          · exact .inr (by simp [hk])
      | connect a b =>
          rcases List.mem_cons.1 hm with e | hm
          · cases e
            exact .inl h.1
          · exact ih h.2 hm
      | refuse f => exact ih (grounded_refuse.1 h) (by simpa using hm)

theorem Closed.append {xs ys : List Move} (hx : Closed xs) (hy : Closed ys) :
    Closed (xs ++ ys) := by
  induction xs with
  | nil => exact hy
  | cons m xs ih =>
      cases m with
      | add n => exact ih hx
      | connect name dependency => exact ih hx
      | refuse f =>
          refine ⟨fun (hnil : names (xs ++ ys) = []) => hx.1 ?_, ih hx.2⟩
          rw [names_append, List.append_eq_nil_iff] at hnil
          exact hnil.1

/-- Whatever comes before a course that adds a node. -/
theorem Closed.behind {ys : List Move} (hy : Closed ys) (hadd : names ys ≠ [])
    (xs : List Move) : Closed (xs ++ ys) := by
  induction xs with
  | nil => exact hy
  | cons m xs ih =>
      cases m with
      | add n => exact ih
      | connect name dependency => exact ih
      | refuse f =>
          refine ⟨fun (hnil : names (xs ++ ys) = []) => hadd ?_, ih⟩
          rw [names_append, List.append_eq_nil_iff] at hnil
          exact hnil.2

end Move

namespace TaskGraph

def append (g : TaskGraph) (n : TaskNode) : TaskGraph := ⟨g.nodes ++ [n]⟩

/-- The graph in which every task of a name depends on one more. -/
def tie (g : TaskGraph) (name dependency : String) : TaskGraph :=
  ⟨g.nodes.map (needing name dependency)⟩

/-- The graph that a course leads to, and the fault that ended it, if one did. -/
def follow : TaskGraph → List Move → TaskGraph × Option Fault
  | g, [] => (g, none)
  | g, .add n :: moves =>
    if n.task.name ∈ g.names then (g, some (.taskExists n.task.name))
    else follow (g.append n) moves
  | g, .connect name dependency :: moves => follow (g.tie name dependency) moves
  | g, .refuse f :: _ => (g, some f)

@[simp] theorem names_append (g : TaskGraph) (n : TaskNode) :
    (g.append n).names = g.names ++ [n.task.name] := by
  simp [append, names, tasks]

@[simp] theorem names_tie (g : TaskGraph) (name dependency : String) :
    (g.tie name dependency).names = g.names := by
  simp [tie, names, tasks, Function.comp_def]

theorem names_eq_nodes (g : TaskGraph) : g.names = g.nodes.map (·.task.name) := by
  simp [names, tasks]

@[simp] theorem follow_nil (g : TaskGraph) : g.follow [] = (g, none) := rfl

theorem follow_add_of_mem {g : TaskGraph} {n : TaskNode} (moves : List Move)
    (h : n.task.name ∈ g.names) :
    g.follow (.add n :: moves) = (g, some (.taskExists n.task.name)) := by
  simp [follow, h]

theorem follow_add_of_not_mem {g : TaskGraph} {n : TaskNode} (moves : List Move)
    (h : n.task.name ∉ g.names) :
    g.follow (.add n :: moves) = (g.append n).follow moves := by
  simp [follow, h]

@[simp] theorem follow_connect (g : TaskGraph) (name dependency : String)
    (moves : List Move) :
    g.follow (.connect name dependency :: moves) =
      (g.tie name dependency).follow moves := rfl

@[simp] theorem follow_refuse (g : TaskGraph) (f : Fault) (moves : List Move) :
    g.follow (.refuse f :: moves) = (g, some f) := rfl

theorem follow_append_of_completed {g g' : TaskGraph} {xs : List Move}
    (h : g.follow xs = (g', none)) (ys : List Move) :
    g.follow (xs ++ ys) = g'.follow ys := by
  induction xs generalizing g with
  | nil =>
      cases h
      rfl
  | cons m xs ih =>
      cases m with
      | add n =>
          by_cases hn : n.task.name ∈ g.names
          · rw [follow_add_of_mem xs hn] at h
            cases h
          · rw [follow_add_of_not_mem xs hn] at h
            rw [List.cons_append, follow_add_of_not_mem _ hn, ih h]
      | connect name dependency => exact ih h
      | refuse f => cases h

theorem follow_append_of_ended {g g' : TaskGraph} {f : Fault} {xs : List Move}
    (h : g.follow xs = (g', some f)) (ys : List Move) :
    g.follow (xs ++ ys) = (g', some f) := by
  induction xs generalizing g with
  | nil => cases h
  | cons m xs ih =>
      cases m with
      | add n =>
          by_cases hn : n.task.name ∈ g.names
          · rw [follow_add_of_mem xs hn] at h
            rw [List.cons_append, follow_add_of_mem _ hn, h]
          · rw [follow_add_of_not_mem xs hn] at h
            rw [List.cons_append, follow_add_of_not_mem _ hn, ih h]
      | connect name dependency => exact ih h
      | refuse _ => exact h

theorem exists_of_follow_append {g g' : TaskGraph} {xs ys : List Move}
    (h : g.follow (xs ++ ys) = (g', none)) :
    ∃ m, g.follow xs = (m, none) ∧ m.follow ys = (g', none) := by
  cases hxs : g.follow xs with
  | mk m ended =>
      cases ended with
      | none => exact ⟨m, rfl, by rw [← follow_append_of_completed hxs, h]⟩
      | some f =>
          rw [follow_append_of_ended hxs] at h
          cases h

/-- A course is completed exactly if it refuses nothing and adds tasks under
different names that are all new. -/
theorem follow_completes_iff {g : TaskGraph} {moves : List Move} :
    (g.follow moves).2 = none ↔
      (∀ f, .refuse f ∉ moves) ∧ (Move.names moves).Nodup ∧
        ∀ name ∈ Move.names moves, name ∉ g.names := by
  induction moves generalizing g with
  | nil => simp
  | cons m moves ih =>
      cases m with
      | add n =>
          by_cases hn : n.task.name ∈ g.names
          · rw [follow_add_of_mem moves hn]
            simp [hn]
          · rw [follow_add_of_not_mem moves hn, ih]
            simp only [List.mem_cons, Move.names_add, List.nodup_cons, names_append,
              List.mem_append, List.mem_nil_iff, or_false, reduceCtorEq, false_or, not_or]
            constructor
            · rintro ⟨hf, hd, hg⟩
              refine ⟨hf, ⟨fun hm => (hg _ hm).2 rfl, hd⟩, ?_⟩
              rintro name (rfl | hm)
              · exact hn
              · exact (hg name hm).1
            · rintro ⟨hf, ⟨hnm, hd⟩, hg⟩
              refine ⟨hf, hd, fun name hm => ⟨hg name (.inr hm), ?_⟩⟩
              rintro rfl
              exact hnm hm
      | connect name dependency => simp [ih]
      | refuse f =>
          simp only [follow_refuse, reduceCtorEq, false_iff]
          exact fun h => h.1 f List.mem_cons_self

/-- However a course ends, the part of it that was taken is a course that is
completed. -/
theorem exists_taken (g : TaskGraph) (moves : List Move) :
    ∃ taken, taken <+: moves ∧ g.follow taken = ((g.follow moves).1, none) ∧
      ((g.follow moves).2 = none → taken = moves) := by
  induction moves generalizing g with
  | nil => exact ⟨[], List.nil_prefix, rfl, fun _ => rfl⟩
  | cons m moves ih =>
      cases m with
      | add n =>
          by_cases hn : n.task.name ∈ g.names
          · rw [follow_add_of_mem moves hn]
            exact ⟨[], List.nil_prefix, rfl, fun h => by cases h⟩
          · obtain ⟨taken, hp, hf, hc⟩ := ih (g.append n)
            refine ⟨.add n :: taken, List.cons_prefix_cons.2 ⟨rfl, hp⟩, ?_⟩
            rw [follow_add_of_not_mem _ hn, follow_add_of_not_mem _ hn]
            exact ⟨hf, fun h => by rw [hc h]⟩
      | connect name dependency =>
          obtain ⟨taken, hp, hf, hc⟩ := ih (g.tie name dependency)
          exact ⟨.connect name dependency :: taken, List.cons_prefix_cons.2 ⟨rfl, hp⟩,
            hf, fun h => by rw [hc h]⟩
      | refuse f => exact ⟨[], List.nil_prefix, rfl, fun h => by cases h⟩

theorem names_of_completed {g g' : TaskGraph} {moves : List Move}
    (h : g.follow moves = (g', none)) : g'.names = g.names ++ Move.names moves := by
  induction moves generalizing g with
  | nil =>
      cases h
      simp
  | cons m moves ih =>
      cases m with
      | add n =>
          by_cases hn : n.task.name ∈ g.names
          · rw [follow_add_of_mem moves hn] at h
            cases h
          · rw [follow_add_of_not_mem moves hn] at h
            rw [ih h, names_append, Move.names_add, List.append_assoc]
            rfl
      | connect name dependency => rw [ih h, names_tie, Move.names_connect]
      | refuse f => cases h

/-- The names of the tasks appear in the order of the course. -/
theorem names_follow (g : TaskGraph) (moves : List Move) :
    ∃ taken, taken <+: Move.names moves ∧ (g.follow moves).1.names = g.names ++ taken := by
  obtain ⟨taken, hp, hf, -⟩ := exists_taken g moves
  exact ⟨Move.names taken, Move.names_isPrefix hp, names_of_completed hf⟩

/-- A closed course that is broken off has not added all its tasks. -/
theorem length_names_lt {g g' : TaskGraph} {moves : List Move} {f : Fault}
    (hc : Move.Closed moves) (h : g.follow moves = (g', some f)) :
    g'.names.length < g.names.length + (Move.names moves).length := by
  induction moves generalizing g with
  | nil => cases h
  | cons m moves ih =>
      cases m with
      | add n =>
          by_cases hn : n.task.name ∈ g.names
          · rw [follow_add_of_mem moves hn] at h
            cases h
            simp
          · rw [follow_add_of_not_mem moves hn] at h
            have hlt := ih hc h
            simp only [names_append, List.length_append, List.length_singleton] at hlt
            simp only [Move.names_add, List.length_cons]
            omega
      | connect name dependency =>
          have hlt := ih hc h
          rwa [names_tie] at hlt
      | refuse f =>
          cases h
          have hpos := List.length_pos_iff.2 hc.1
          simp only [Move.names_refuse]
          omega

/-- The nodes after a completed course: those that were there and those that it
adds, each with what the course connects it to. -/
theorem nodes_of_completed {g g' : TaskGraph} {moves : List Move}
    (hg : Move.Grounded g.names moves) (h : g.follow moves = (g', none)) :
    g'.nodes = (g.nodes ++ Move.nodes moves).map (Move.settle moves) := by
  induction moves generalizing g with
  | nil =>
      cases h
      simp [funext Move.settle_nil]
  | cons m moves ih =>
      cases m with
      | add n =>
          by_cases hn : n.task.name ∈ g.names
          · rw [follow_add_of_mem moves hn] at h
            cases h
          · rw [follow_add_of_not_mem moves hn] at h
            have hg' : Move.Grounded (g.append n).names moves :=
              Move.Grounded.mono (fun name hname => by simpa [or_comm] using hname) hg
            rw [ih hg' h, Move.nodes_add, append, List.append_assoc]
            rfl
      | connect name dependency =>
          have hg' : Move.Grounded (g.tie name dependency).names moves := by
            simpa using hg.2
          -- what is added later has another name than the task that is connected here
          have hnew : ∀ n ∈ Move.nodes moves, needing name dependency n = n := by
            intro n hn
            have hc := (follow_completes_iff.1 (congrArg Prod.snd h)).2.2
            have hname : n.task.name ∉ g.names :=
              hc n.task.name (List.mem_map_of_mem hn)
            have hne : n.task.name ≠ name := fun e => hname (e ▸ hg.1)
            simp [needing, hne]
          have hsettle : (Move.nodes moves).map (Move.settle moves) =
              (Move.nodes moves).map (Move.settle (.connect name dependency :: moves)) := by
            apply List.map_congr_left
            intro n hn
            rw [Move.settle_cons, Move.settleOne, hnew n hn]
          rw [ih hg' h, Move.nodes_connect, List.map_append, List.map_append, hsettle, tie,
            List.map_map]
          rfl
      | refuse f => cases h

/-- A course that connects only tasks of its own leaves the nodes that were there
as they are, however it ends. -/
theorem nodes_follow {g : TaskGraph} {moves : List Move} (hg : Move.Grounded [] moves) :
    ∃ taken, taken <+: moves ∧
      (g.follow moves).1.nodes =
        g.nodes ++ (Move.nodes taken).map (Move.settle taken) ∧
      ((g.follow moves).2 = none → taken = moves) := by
  obtain ⟨taken, ⟨rest, rfl⟩, hf, hc⟩ := exists_taken g moves
  have hgt : Move.Grounded [] taken := hg.of_append
  have hnodes := nodes_of_completed (hgt.mono (by simp)) hf
  refine ⟨taken, List.prefix_append taken rest, ?_, hc⟩
  have hold : ∀ n ∈ g.nodes, Move.settle taken n = n := by
    intro n hn
    apply Move.settle_of_not_connected
    intro k hk
    rcases hgt.mem_of_connect hk with hk | hk
    · simp at hk
    · have hnew := (follow_completes_iff.1 (congrArg Prod.snd hf)).2.2 n.task.name hk
      exact hnew (by rw [names_eq_nodes]; exact List.mem_map_of_mem hn)
  rw [hnodes, List.map_append, List.map_congr_left hold, List.map_id']

/-! ## Looking up what was added -/

theorem node?_of_old {g g' : TaskGraph} {added : List TaskNode} {name : String}
    (h : g'.nodes = g.nodes ++ added) (hname : name ∉ added.map (·.task.name)) :
    g'.node? name = g.node? name := by
  have hnone : added.find? (·.task.name == name) = none := by
    rw [List.find?_eq_none]
    intro n hn heq
    exact hname (List.mem_map.2 ⟨n, hn, by simpa using heq⟩)
  unfold node?
  rw [h, List.find?_append, hnone, Option.or_none]

theorem find?_of_nodup_names {nodes : List TaskNode} {n : TaskNode} (hn : n ∈ nodes)
    (h : (nodes.map (·.task.name)).Nodup) :
    nodes.find? (·.task.name == n.task.name) = some n := by
  induction nodes with
  | nil => cases hn
  | cons m nodes ih =>
      rw [List.map_cons, List.nodup_cons] at h
      rcases List.mem_cons.1 hn with rfl | hn
      · simp
      · have hne : m.task.name ≠ n.task.name := by
          intro heq
          exact h.1 (heq ▸ List.mem_map_of_mem hn)
        rw [List.find?_cons_of_neg (by simpa using hne), ih hn h.2]

theorem node?_of_mem {g : TaskGraph} {n : TaskNode} (h : g.names.Nodup) (hn : n ∈ g.nodes) :
    g.node? n.task.name = some n := by
  rw [names_eq_nodes] at h
  exact find?_of_nodup_names hn h

theorem mem_of_node? {g : TaskGraph} {name : String} {n : TaskNode}
    (h : g.node? name = some n) : n ∈ g.nodes ∧ n.task.name = name :=
  ⟨List.mem_of_find?_eq_some h, by simpa using List.find?_some h⟩

theorem eq_of_name_eq {g : TaskGraph} {n m : TaskNode} (h : g.names.Nodup)
    (hn : n ∈ g.nodes) (hm : m ∈ g.nodes) (hname : n.task.name = m.task.name) : n = m := by
  have hfound := node?_of_mem h hn
  rw [hname, node?_of_mem h hm] at hfound
  exact (Option.some.inj hfound).symm

theorem mem_tasks_of_mem {g : TaskGraph} {n : TaskNode} (hn : n ∈ g.nodes) :
    n.task ∈ g.tasks := List.mem_map_of_mem hn

theorem mem_names_of_mem {g : TaskGraph} {n : TaskNode} (hn : n ∈ g.nodes) :
    n.task.name ∈ g.names := List.mem_map_of_mem (mem_tasks_of_mem hn)

theorem node?_of_added {g g' : TaskGraph} {added : List TaskNode} {n : TaskNode}
    (h : g'.nodes = g.nodes ++ added) (hnodup : (added.map (·.task.name)).Nodup)
    (hnew : n.task.name ∉ g.names) (hn : n ∈ added) : g'.node? n.task.name = some n := by
  have hnone : g.nodes.find? (·.task.name == n.task.name) = none := by
    rw [List.find?_eq_none]
    intro m hm heq
    rw [names_eq_nodes] at hnew
    exact hnew (List.mem_map.2 ⟨m, hm, by simpa using heq⟩)
  unfold node?
  rw [h, List.find?_append, hnone, Option.none_or, find?_of_nodup_names hn hnodup]

end TaskGraph

end AnalysisPlan
