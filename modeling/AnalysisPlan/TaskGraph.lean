import AnalysisPlan.Fault
import AnalysisPlan.Task

/-!
# The task graph

Tasks in the order of their registration, each with the set of names it depends
on. A name is registered once, and a dependency connects two names that are
registered. What a task depends on is a set: the order and the number of times a
dependency was added cannot be told.
-/

namespace AnalysisPlan

/-- A task and the names it depends on. -/
structure TaskNode where
  task : Task
  needs : NameSet := ∅
deriving DecidableEq

/-- Tasks with their dependencies, in the order of registration. -/
structure TaskGraph where
  nodes : List TaskNode := []
deriving DecidableEq

namespace TaskGraph

def empty : TaskGraph := {}

instance : EmptyCollection TaskGraph := ⟨empty⟩

instance : Inhabited TaskGraph := ⟨∅⟩

def tasks (g : TaskGraph) : List Task := g.nodes.map (·.task)

def names (g : TaskGraph) : List String := g.tasks.map (·.name)

def size (g : TaskGraph) : Nat := g.nodes.length

def has (g : TaskGraph) (name : String) : Bool := g.names.contains name

def node? (g : TaskGraph) (name : String) : Option TaskNode :=
  g.nodes.find? fun n => n.task.name == name

def get? (g : TaskGraph) (name : String) : Option Task := (g.node? name).map (·.task)

def needs? (g : TaskGraph) (name : String) : Option NameSet := (g.node? name).map (·.needs)

/-- The names that a task depends on, in increasing order. -/
def dependencies? (g : TaskGraph) (name : String) : Option (List String) :=
  (g.needs? name).map (·.names)

/-- Adds a task behind the others. Its name must be new. -/
def register (g : TaskGraph) (task : Task) : Except Fault TaskGraph :=
  if g.has task.name then .error (.taskExists task.name)
  else .ok ⟨g.nodes ++ [⟨task, ∅⟩]⟩

/-- Lets a node depend on one more name, if it is the node of `name`. -/
def needing (name dependency : String) (n : TaskNode) : TaskNode :=
  if n.task.name = name then { n with needs := n.needs.insert dependency } else n

/-- Lets a task depend on another. Both names must be registered. -/
def addDependency (g : TaskGraph) (name dependency : String) : Except Fault TaskGraph :=
  if !g.has name then .error (.taskNotFound name)
  else if !g.has dependency then .error (.taskNotFound dependency)
  else .ok ⟨g.nodes.map (needing name dependency)⟩

@[simp] theorem has_iff {g : TaskGraph} {name : String} :
    g.has name = true ↔ name ∈ g.names := by
  simp [has]

theorem register_eq_ok_iff {g g' : TaskGraph} {task : Task} :
    g.register task = .ok g' ↔
      task.name ∉ g.names ∧ g' = ⟨g.nodes ++ [⟨task, ∅⟩]⟩ := by
  unfold register
  split
  · next h => simp [has_iff.1 h]
  · next h =>
    have : task.name ∉ g.names := fun hm => h (has_iff.2 hm)
    simp [this, eq_comm]

theorem register_eq_error_iff {g : TaskGraph} {task : Task} {f : Fault} :
    g.register task = .error f ↔ task.name ∈ g.names ∧ f = .taskExists task.name := by
  unfold register
  split
  · next h => simp [has_iff.1 h, eq_comm]
  · next h =>
    have : task.name ∉ g.names := fun hm => h (has_iff.2 hm)
    simp [this]

@[simp] theorem needing_task (name dependency : String) (n : TaskNode) :
    (needing name dependency n).task = n.task := by
  unfold needing
  split <;> rfl

end TaskGraph

end AnalysisPlan
