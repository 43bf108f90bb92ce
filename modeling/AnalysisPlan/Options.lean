import AnalysisPlan.Variant

/-!
# Analysis options

What a project configures about its analysis. The three lists of ignored names
belong to the planning of variants; the flags, the configuration files and the
baseline are settings that every analysis task carries as they were when the task
was planned.
-/

namespace AnalysisPlan

/-- The options of a project. -/
structure AnalysisOptions where
  toolVersion : Option String := none
  input : List String :=
    ["src/main/java", "src/test/java", "src/main/kotlin", "src/test/kotlin"]
  config : List String := []
  baseline : Option String := none
  reportsDir : String := ""
  customReportsDir : Option String := none
  debug : Bool := false
  parallel : Bool := false
  disableDefaultRuleSets : Bool := false
  buildUponDefaultConfig : Bool := false
  failFast : Bool := false
  autoCorrect : Bool := false
  ignoreFailures : Bool := false
  ignoredVariants : List String := []
  ignoredBuildTypes : List String := []
  ignoredFlavors : List String := []
deriving Repr, DecidableEq

/-- The options that an analysis task carries. -/
structure AnalysisSettings where
  debug : Bool := false
  parallel : Bool := false
  disableDefaultRuleSets : Bool := false
  buildUponDefaultConfig : Bool := false
  failFast : Bool := false
  autoCorrect : Bool := false
  ignoreFailures : Bool := false
  configFiles : List String := []
  baseline : Option String := none
deriving Repr, DecidableEq

namespace AnalysisOptions

def ignoreRules (options : AnalysisOptions) : IgnoreRules where
  variants := .ofList options.ignoredVariants
  buildTypes := .ofList options.ignoredBuildTypes
  flavors := .ofList options.ignoredFlavors

/-- The settings of the analysis tasks planned under the options. -/
def settings (options : AnalysisOptions) : AnalysisSettings where
  debug := options.debug
  parallel := options.parallel
  disableDefaultRuleSets := options.disableDefaultRuleSets
  buildUponDefaultConfig := options.buildUponDefaultConfig
  failFast := options.failFast
  autoCorrect := options.autoCorrect
  ignoreFailures := options.ignoreFailures
  configFiles := options.config
  baseline := options.baseline

/-- The options with more names to ignore. -/
def ignoring (options : AnalysisOptions) (variants buildTypes flavors : List String) :
    AnalysisOptions :=
  { options with
    ignoredVariants := options.ignoredVariants ++ variants
    ignoredBuildTypes := options.ignoredBuildTypes ++ buildTypes
    ignoredFlavors := options.ignoredFlavors ++ flavors }

end AnalysisOptions

end AnalysisPlan
