import AnalysisPlan.Fault
import AnalysisPlan.Options
import AnalysisPlan.Path
import AnalysisPlan.Text.Casing

/-!
# Tasks

A task is a deferred unit of work: an analysis, one of its two companions, or a
lifecycle task that only gathers others. Tasks of analysed units are named after
the unit, with its first letter in upper case, while their reports are named
after the unit as it is.
-/

namespace AnalysisPlan

/-- The work a task does. -/
inductive TaskKind where
  | analysis
  | baseline
  | generateConfig
  | lifecycle
deriving Repr, DecidableEq

def TaskKind.name : TaskKind → String
  | analysis => "analysis"
  | baseline => "baseline"
  | generateConfig => "generate_config"
  | lifecycle => "lifecycle"

/-- Where the reports of an analysis go. -/
structure ReportPaths where
  xml : String
  html : String
  txt : String
deriving Repr, DecidableEq

def ReportPaths.forUnit (dir unitName : String) : ReportPaths where
  xml := joinPath dir (unitName ++ ".xml")
  html := joinPath dir (unitName ++ ".html")
  txt := joinPath dir (unitName ++ ".txt")

/-- A planned task. -/
structure Task where
  name : String
  kind : TaskKind
  group : String := ""
  description : String := ""
  sources : List String := []
  includes : List String := []
  excludes : List String := []
  classpath : List String := []
  reports : Option ReportPaths := none
  settings : Option AnalysisSettings := none
  toolConfigurations : List String := []
deriving Repr, DecidableEq

namespace Task

/-- The name of the plain analysis task, with which the others begin. -/
def analysisName : String := "detekt"

/-- The task that gathers the analyses of production variants. -/
def mainUmbrella : String := analysisName ++ "Main"

/-- The task that gathers the analyses of test variants. -/
def testUmbrella : String := analysisName ++ "Test"

def verificationGroup : String := "verification"

def analyserConfiguration : String := "detekt"

/-- The dependency configuration that holds additions to the analyser. -/
def additionsConfiguration : String := "detektPlugins"

def defaultIncludes : List String := ["**/*.kt", "**/*.kts"]

def defaultExcludes : List String := ["build/"]

def nameFor (unitName : String) : String := analysisName ++ Text.capitalize unitName

def nameFor? (unitName : String) : Except Fault String :=
  if unitName = "" then .error .unnamedUnit else .ok (nameFor unitName)

def descriptionFor (unitName : String) : String :=
  s!"EXPERIMENTAL & SLOW: Run detekt analysis for {unitName} classes with type resolution"

/-- A task that only gathers others. -/
def lifecycle (name description group : String) : Task where
  name
  kind := .lifecycle
  group
  description

@[simp] theorem nameFor?_empty : nameFor? "" = .error .unnamedUnit := rfl

theorem nameFor?_of_ne {unitName : String} (h : unitName ≠ "") :
    nameFor? unitName = .ok (nameFor unitName) := by
  simp [nameFor?, h]

end Task

end AnalysisPlan
