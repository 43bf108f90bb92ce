import AnalysisPlan.Android.Variants
import AnalysisPlan.Configuration
import AnalysisPlan.SourceSet

/-!
# Projects under configuration

A project is configured first and evaluated once. Its state holds what was set,
the plugins, the dependency configurations in the order of their creation, and
the registry that the tasks go into.

A plugin is either one of the two analysis plugins or an addon. Addons have an
identifier and a key that tells apart addons of one identifier; the shelf says
what an addon asks for when it is applied and whether it refuses to be finalized.
What can be asked for is a plugin, or an identifier that is to be marked as applied
without any plugin behind it.

Some steps ask which paths are there. A step is described as if every question were
answered; where one is denied an answer, the step is cut off there
(`Configuring.attempt`). Until then it went as described, and what it would have done
afterwards does not count.
-/

namespace AnalysisPlan

/-- A plugin that can be applied to a project. The variant plugin carries a
number by which whoever applied it recognises it. -/
inductive Plugin where
  | analysis
  | variantAnalysis (serial : Nat)
  | addon (id : String) (key : Nat)
deriving Repr, DecidableEq

namespace Plugin

def id : Plugin → String
  | analysis => "io.gitlab.arturbosch.detekt"
  | variantAnalysis _ => "io.gitlab.arturbosch.detekt.android"
  | addon id _ => id

/-- The plugin that brings the task of all checks. -/
def lifecycleBase : String := "lifecycle-base"

/-- The plugin that compiles Kotlin for the Java virtual machine. -/
def kotlinJvm : String := "org.jetbrains.kotlin.jvm"

/-- The plugin that compiles Kotlin for Android. -/
def kotlinAndroid : String := "kotlin-android"

end Plugin

/-- What a project can be asked for: to mark an identifier as applied, or to apply a
plugin. -/
inductive Request where
  | mark (id : String)
  | apply (plugin : Plugin)
deriving Repr, DecidableEq

/-- What an addon does. -/
structure Addon where
  brings : List Request := []
  refusal : Option String := none
deriving Repr, DecidableEq

/-- What happened to a plugin. -/
inductive PluginEvent where
  | applied (plugin : Plugin)
  | finalized (plugin : Plugin)
deriving Repr, DecidableEq

/-- A project under configuration. -/
structure Project where
  name : String
  directories : Directories
  present : String → Bool
  denial : String → Option Denial := fun _ => none
  registry : Registry := {}
  options : AnalysisOptions := {}
  android : Option AndroidOptions := none
  sourceSets : List SourceSet := []
  pluginIds : List String := []
  applied : List Plugin := []
  shelf : List (Plugin × Addon) := []
  configurations : List Configuration := []
  evaluated : Bool := false
  variantTasks : Option Resolution := none
  history : List PluginEvent := []

/-- A step of configuring a project that may fail. -/
abbrev Configuring := EStateM Fault Project

def Configuring.registering {α : Type} (x : Registration α) : Configuring α := fun p =>
  match x p.registry with
  | .ok a r => .ok a { p with registry := r }
  | .error f r => .error f { p with registry := r }

def Configuring.report (event : LogEvent) : Configuring Unit :=
  registering (Registration.report [event])

namespace Configuring

variable {α : Type} {x : Configuring α} {p : Project}

def stateOf : EStateM.Result Fault Project α → Project
  | .ok _ q => q
  | .error _ q => q

/-- The questions that a project comes to ask. -/
def askedSince (p q : Project) : List String := q.registry.asked.drop p.registry.asked.length

/-- Takes a step, which is cut off at the first question that is denied an answer. -/
def attempt (x : Configuring α) (p : Project) : Except Denial (EStateM.Result Fault Project α) :=
  let result := x p
  match (askedSince p (stateOf result)).findSome? p.denial with
  | some d => .error d
  | none => .ok result

theorem attempt_eq_ok_iff {result : EStateM.Result Fault Project α} :
    attempt x p = .ok result ↔
      x p = result ∧ ∀ path ∈ askedSince p (stateOf (x p)), p.denial path = none := by
  rw [← List.findSome?_eq_none_iff]
  unfold attempt
  simp only
  cases (askedSince p (stateOf (x p))).findSome? p.denial <;> simp

end Configuring

namespace Project

/-- A project that nothing was done to. Without a build directory of its own it
builds into the directory `build`. -/
def fresh (name directory : String) (buildDirectory : Option String)
    (present : String → Bool) : Project where
  name
  directories :=
    { project := directory
      build :=
        match buildDirectory with
        | none => joinPath directory "build"
        | some dir => if dir = "" then joinPath directory "build" else dir }
  present

def graph (p : Project) : TaskGraph := p.registry.graph

def hasPlugin (p : Project) (id : String) : Bool := p.pluginIds.contains id

def hasApplied (p : Project) (id : String) : Bool := p.applied.any (·.id == id)

def addonOf (p : Project) (plugin : Plugin) : Addon := (p.shelf.lookup plugin).getD {}

def registrar (p : Project) : Registrar := ⟨p.present, p.options⟩

def variantSource (p : Project) : Except Fault (Option VariantSource) :=
  match p.android with
  | none => .ok none
  | some a =>
    match a.variantSource? p.directories with
    | some s => .ok (some s)
    | none => .error
        (.unsupportedAndroidKind p.name a.kind.name (AndroidKind.supported.map (·.name)))

/-- What resolving the variants gave to the variant plugin of the given number. -/
def resolutionOf (p : Project) (serial : Nat) : Option Resolution :=
  if .variantAnalysis serial ∈ p.applied then p.variantTasks else none

def configuration (p : Project) (name : String) : Except Fault Configuration :=
  match p.configurations.find? (·.name == name) with
  | some c => .ok c
  | none => .error (.configurationNotFound name)

/-- The names of the configurations, in the order of their creation. -/
def configurationNames (p : Project) : List String := p.configurations.map (·.name)

/-- Creates a configuration. Its name must be new. -/
def createConfiguration (p : Project) (c : Configuration) : Except Fault Project :=
  if c.name ∈ p.configurationNames then .error (.configurationExists c.name)
  else .ok { p with configurations := p.configurations ++ [c] }

/-- Declares coordinates in a configuration. It must be there. -/
def declareDependencies (p : Project) (name : String) (coordinates : List String) :
    Except Fault Project := do
  let _ ← p.configuration name
  return { p with
    configurations := p.configurations.map fun c =>
      if c.name = name then c.declare coordinates else c }

/-- The coordinates of a configuration as they are now. -/
def resolvedOf (p : Project) (c : Configuration) : List String :=
  c.resolved p.options.toolVersion

end Project

def Configuring.change (f : Project → Except Fault Project) : Configuring Unit := fun p =>
  match f p with
  | .ok q => .ok () q
  | .error e => .error e p

end AnalysisPlan
