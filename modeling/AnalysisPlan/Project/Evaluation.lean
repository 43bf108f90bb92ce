import AnalysisPlan.Project.Plugins

/-!
# Evaluating a project

Evaluation settles a project: every plugin that was applied is finalized once, in
the order of application. The plain analysis plugin plans the tasks of the
project as a whole and those of its source sets, the variant plugin those of the
Android variants. A project is evaluated once, also if that failed.
-/

namespace AnalysisPlan

namespace Project

/-- Whether planning the variants gets as far as asking which of them to ignore. -/
def asksWhatToIgnore (p : Project) : Bool :=
  p.hasPlugin Plugin.kotlinAndroid &&
    match p.variantSource with
    | .ok (some _) => true
    | _ => false

def inputs (p : Project) : List String := p.options.input.filter p.present

def analysisTask (p : Project) : Task where
  name := Task.analysisName
  kind := .analysis
  group := Task.verificationGroup
  description := "Analyze your source code with detekt."
  sources := p.inputs
  includes := Task.defaultIncludes
  excludes := Task.defaultExcludes
  reports := some (.forUnit
    (match p.options.customReportsDir with
      | none => p.options.reportsDir
      | some dir => if dir = "" then p.options.reportsDir else dir)
    Task.analysisName)
  settings := some p.options.settings
  toolConfigurations := [Task.analyserConfiguration, Task.additionsConfiguration]

/-- The task that records the findings of a project as known. -/
def baselineTask (p : Project) : Task where
  name := Task.analysisName ++ "Baseline"
  kind := .baseline
  group := Task.verificationGroup
  description := "Creates a detekt baseline on the given --baseline path."
  sources := p.inputs
  includes := Task.defaultIncludes
  excludes := Task.defaultExcludes
  settings := some p.options.settings
  toolConfigurations := [Task.analyserConfiguration, Task.additionsConfiguration]

/-- The task that writes a configuration file to begin with. -/
def generateConfigTask : Task where
  name := Task.analysisName ++ "GenerateConfig"
  kind := .generateConfig
  group := Task.verificationGroup
  description := "Generate a detekt configuration file inside your project."
  toolConfigurations := [Task.analyserConfiguration]

end Project

namespace Configuring

/-- Plans the tasks of the project as a whole, and those of its source sets if it
is compiled for the Java virtual machine. -/
def planProject : Configuring Unit := do
  let p ← get
  registering (Registration.ask p.options.input)
  registering (Registration.add p.analysisTask)
  registering (Registration.add p.baselineTask)
  registering (Registration.add Project.generateConfigTask)
  if p.graph.has Project.checkTask.name then
    registering (Registration.connect Project.checkTask.name Task.analysisName)
  if p.hasPlugin Plugin.kotlinJvm then
    let _ ← registering (SourceSet.registerAll p.registrar p.sourceSets)

def resolveVariants (source : VariantSource) : Configuring Unit := do
  let p ← get
  let resolver : Resolver :=
    { registrar := p.registrar, rules := p.options.ignoreRules, sources := [source] }
  let resolution ← registering fun r => (resolver.resolve r).2
  modify fun q => { q with variantTasks := some resolution }

/-- Plans the tasks of the Android variants, if Kotlin is compiled for Android. -/
def planVariants : Configuring Unit := do
  let p ← get
  if !p.hasPlugin Plugin.kotlinAndroid then report .variantTasksOmitted
  else
    match p.variantSource with
    | .error f => throw f
    | .ok none => throw (.noVariantSource p.name)
    | .ok (some source) => resolveVariants source

def finalizeOne (plugin : Plugin) : Configuring Unit := do
  report (.pluginFinalizing plugin.id)
  modify fun p => { p with history := p.history ++ [PluginEvent.finalized plugin] }
  match plugin with
  | .analysis => planProject
  | .variantAnalysis _ => planVariants
  | .addon .. =>
    match ((← get).addonOf plugin).refusal with
    | none => return ()
    | some reason => throw (.pluginRefusal reason)

def finalizeEach : List Plugin → Configuring Unit
  | [] => return ()
  | plugin :: plugins => do
    finalizeOne plugin
    finalizeEach plugins

def evaluate : Configuring Unit := do
  let p ← get
  if p.evaluated then throw (.evaluatedTwice p.name)
  set { p with evaluated := true }
  finalizeEach p.applied
  report (.projectEvaluated p.name (← get).graph.size)

end Configuring

end AnalysisPlan
