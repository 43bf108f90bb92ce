import AnalysisPlan.Project.State

/-!
# Applying plugins

Marking an identifier as applied does nothing the second time. A plugin is
applied once for its identifier, also if the identifier was only marked before.
Applying a plugin may bring requests along, which are answered right after it and
before anything that was waiting.

The queue of requests is bounded: every plugin brings requests at most once, so
their number is at most that of all the requests that addons bring, one that the
variant plugin brings, and the one that is made.
-/

namespace AnalysisPlan

namespace Project

/-- The task that gathers all checks. -/
def checkTask : Task := .lifecycle "check" "Runs all checks." Task.verificationGroup

/-- The conventional configuration file of a project. -/
def defaultConfig (p : Project) : String :=
  joinPaths p.directories.project ["config/detekt", "detekt.yml"]

/-- What is asked about the conventional configuration file: nothing if another was
chosen. -/
def configQuestions (p : Project) : List String :=
  if p.options.config.isEmpty then [p.defaultConfig] else []

/-- Whether the conventional configuration file counts: it must be there, and no
other chosen. -/
def usesDefaultConfig (p : Project) : Bool :=
  p.options.config.isEmpty && p.present p.defaultConfig

/-- The options, completed where they are silent by the directory of the reports
and the conventional configuration file. -/
def completedOptions (p : Project) : AnalysisOptions :=
  { p.options with
    reportsDir :=
      if p.options.reportsDir = "" then joinPath p.directories.build "reports/detekt"
      else p.options.reportsDir
    config := if p.usesDefaultConfig then [p.defaultConfig] else p.options.config }

def additions : Configuration where
  name := Task.additionsConfiguration
  description := "The detektPlugins libraries to be used for this project."

def analyser : Configuration where
  name := Task.analyserConfiguration
  description := "The detekt dependencies to be used for this project."
  fallback := .analyser

end Project

namespace Configuring

def beforeEvaluation : Configuring Unit := do
  let p ← get
  if p.evaluated then throw (.pluginAfterEvaluation p.name)

/-- Marks an identifier as applied. The first mark of the lifecycle plugin brings
the task of all checks. -/
def mark (id : String) : Configuring Unit := do
  let p ← get
  if !p.hasPlugin id then
    set { p with pluginIds := p.pluginIds ++ [id] }
    report (.pluginApplied id p.name)
    if id = Plugin.lifecycleBase then
      registering (Registration.add Project.checkTask)

def applyId (id : String) : Configuring Unit := do
  beforeEvaluation
  mark id

def prepareAnalysis : Configuring Unit := do
  let p ← get
  registering (Registration.ask p.configQuestions)
  if p.usesDefaultConfig then report (.configFileFound p.defaultConfig)
  modify fun q => { q with options := p.completedOptions }
  change (·.createConfiguration Project.additions)
  change (·.createConfiguration Project.analyser)

/-- Applies one plugin and returns the requests that it brings along. -/
def applyOne (plugin : Plugin) : Configuring (List Request) := do
  applyId plugin.id
  let p ← get
  if p.hasApplied plugin.id then return []
  set { p with
    applied := p.applied ++ [plugin]
    history := p.history ++ [PluginEvent.applied plugin] }
  match plugin with
  | .analysis => do
    prepareAnalysis
    return []
  | .variantAnalysis _ => return [.apply .analysis]
  | .addon .. => return (p.addonOf plugin).brings

/-- Answers one request and returns those that it brings along. -/
def answer : Request → Configuring (List Request)
  | .mark id => do
    applyId id
    return []
  | .apply plugin => applyOne plugin

/-- Answers requests and those they bring along, at most `n` in all. -/
def answerQueue : Nat → List Request → Configuring Unit
  | _, [] => return ()
  | 0, _ :: _ => return ()
  | n + 1, request :: rest => do
    let brought ← answer request
    answerQueue n (brought ++ rest)

def queueBound (p : Project) : Nat := (p.shelf.map fun a => a.2.brings.length).foldr (· + ·) 2

def apply (request : Request) : Configuring Unit := do
  answerQueue (queueBound (← get)) [request]

def applyPlugin (plugin : Plugin) : Configuring Unit := apply (.apply plugin)

@[simp] theorem answerQueue_nil (n : Nat) : answerQueue n [] = pure () := by
  cases n <;> rfl

theorem answerQueue_succ_cons (n : Nat) (request : Request) (rest : List Request) :
    answerQueue (n + 1) (request :: rest) =
      (do let brought ← answer request; answerQueue n (brought ++ rest)) := rfl

end Configuring

end AnalysisPlan
