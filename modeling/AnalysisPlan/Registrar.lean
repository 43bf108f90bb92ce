import AnalysisPlan.Classpath
import AnalysisPlan.Log
import AnalysisPlan.TaskGraph

/-!
# Planning the analysis of units

A unit is something that is analysed on its own: a build variant or a source set.
The registrar turns it into a task with the settings of the project and puts the
task into the graph. Which task that is does not depend on the graph
(`Registrar.taskFor`); the graph only decides whether the name is free.

Registering runs on a registry: the graph, the paths asked for so far and the
log. A failure keeps what was asked and reported until then.
-/

namespace AnalysisPlan

/-- The graph under construction, with what was asked and reported so far. -/
structure Registry where
  graph : TaskGraph := ∅
  asked : List String := []
  log : List LogEvent := []
deriving DecidableEq

/-- A step of planning that may fail. -/
abbrev Registration := EStateM Fault Registry

namespace Registration

def report (events : List LogEvent) : Registration Unit := fun r =>
  .ok () { r with log := r.log ++ events }

def change (f : TaskGraph → Except Fault TaskGraph) : Registration Unit := fun r =>
  match f r.graph with
  | .ok g => .ok () { r with graph := g }
  | .error e => .error e r

/-- Takes the value of a computation that may fail. -/
def require {α : Type} (e : Except Fault α) : Registration α := fun r =>
  match e with
  | .ok a => .ok a r
  | .error f => .error f r

/-- Asks which of the paths are there. -/
def ask (paths : List String) : Registration Unit := fun r =>
  .ok () { r with asked := r.asked ++ paths }

/-- Asks which of the paths are there, and reports those that are not. -/
def inspect (present : String → Bool) (paths : List String) : Registration Unit := fun r =>
  .ok () { r with
    asked := r.asked ++ Classpath.asked present paths
    log := r.log ++ (Classpath.missing present paths).map .missingEntryDropped }

def add (task : Task) : Registration Unit := change (·.register task)

def connect (name dependency : String) : Registration Unit :=
  change (·.addDependency name dependency)

end Registration

/-- Something that is analysed on its own. -/
structure AnalysisUnit where
  name : String
  sources : List String := []
  classpath : List String := []
  extra : List String := []
  leading : List String := []
deriving Repr, DecidableEq

/-- What the tasks of a project's units have in common. -/
structure Registrar where
  present : String → Bool
  options : AnalysisOptions

namespace Registrar

def taskFor (r : Registrar) (u : AnalysisUnit) : Task where
  name := Task.nameFor u.name
  kind := .analysis
  group := Task.verificationGroup
  description := Task.descriptionFor u.name
  sources := u.sources
  includes := Task.defaultIncludes
  excludes := Task.defaultExcludes
  classpath := Classpath.assemble r.present u.leading u.classpath u.extra
  reports := some (.forUnit r.options.reportsDir u.name)
  settings := some r.options.settings
  toolConfigurations := [Task.analyserConfiguration, Task.additionsConfiguration]

/-- Registers the task for a unit. The unit must have a name, and the task's name
must be free. -/
def register (r : Registrar) (u : AnalysisUnit) : Registration Task := do
  let name ← Registration.require (Task.nameFor? u.name)
  Registration.inspect r.present u.classpath
  let task := r.taskFor u
  Registration.add task
  Registration.report [.taskRegistered name task.sources.length]
  return task

@[simp] theorem taskFor_name (r : Registrar) (u : AnalysisUnit) :
    (r.taskFor u).name = Task.nameFor u.name := rfl

@[simp] theorem taskFor_kind (r : Registrar) (u : AnalysisUnit) :
    (r.taskFor u).kind = .analysis := rfl

end Registrar

end AnalysisPlan
