import AnalysisPlan.Registrar

/-!
# Source sets

A source set of a project for the Java virtual machine. Each one becomes a task
of its own that no umbrella gathers. The compile class path counts as it was
declared and comes first; the directories of classes follow where they exist.
-/

namespace AnalysisPlan

/-- A named set of sources. The Kotlin sources are absent where Kotlin was never
set up for it. -/
structure SourceSet where
  name : String
  kotlinSources : Option (List String)
  compileClasspath : List String := []
  classesDirs : List String := []
deriving Repr, DecidableEq

namespace SourceSet

def unit? (s : SourceSet) : Except Fault AnalysisUnit :=
  match s.kotlinSources with
  | none => .error (.noKotlinSources s.name)
  | some sources => .ok
      { name := s.name
        sources
        classpath := s.classesDirs
        leading := s.compileClasspath }

def register (r : Registrar) (s : SourceSet) : Registration Task := do
  let u ← Registration.require s.unit?
  r.register u

def registerEach (r : Registrar) : List SourceSet → Registration (List Task)
  | [] => return []
  | s :: sets => do
    let task ← s.register r
    let tasks ← registerEach r sets
    return task :: tasks

def registerAll (r : Registrar) (sets : List SourceSet) : Registration (List Task) := do
  let tasks ← registerEach r sets
  Registration.report [.sourceSetsRegistered tasks.length]
  return tasks

theorem registerEach_cons (r : Registrar) (s : SourceSet) (sets : List SourceSet) :
    registerEach r (s :: sets) =
      (do
        let task ← s.register r
        let tasks ← registerEach r sets
        return task :: tasks) := rfl

end SourceSet

end AnalysisPlan
