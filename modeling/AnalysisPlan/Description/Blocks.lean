import AnalysisPlan.Android.Options
import AnalysisPlan.Description.Fields
import AnalysisPlan.Options
import AnalysisPlan.SourceSet

/-!
# The blocks of a description

The block of the analysis knows sixteen options and accepts nothing else; its
options are read in the order in which they stand. The blocks of Android and of
source sets ignore what they do not know, and are read in an order of their own.
-/

namespace AnalysisPlan
namespace Description

/-- How an option of the analysis is set. -/
inductive Setter where
  | text (set : AnalysisOptions → String → AnalysisOptions)
  | texts (set : AnalysisOptions → List String → AnalysisOptions)
  | flag (set : AnalysisOptions → Bool → AnalysisOptions)

def setters : List (String × Setter) :=
  [("toolVersion", .text fun o s => { o with toolVersion := some s }),
   ("input", .texts fun o ss => { o with input := ss }),
   ("config", .texts fun o ss => { o with config := ss }),
   ("baseline", .text fun o s => { o with baseline := some s }),
   ("reportsDir", .text fun o s => { o with reportsDir := s }),
   ("customReportsDir", .text fun o s => { o with customReportsDir := some s }),
   ("debug", .flag fun o b => { o with debug := b }),
   ("parallel", .flag fun o b => { o with parallel := b }),
   ("disableDefaultRuleSets", .flag fun o b => { o with disableDefaultRuleSets := b }),
   ("buildUponDefaultConfig", .flag fun o b => { o with buildUponDefaultConfig := b }),
   ("failFast", .flag fun o b => { o with failFast := b }),
   ("autoCorrect", .flag fun o b => { o with autoCorrect := b }),
   ("ignoreFailures", .flag fun o b => { o with ignoreFailures := b }),
   ("ignoredVariants", .texts fun o ss => { o with ignoredVariants := ss }),
   ("ignoredBuildTypes", .texts fun o ss => { o with ignoredBuildTypes := ss }),
   ("ignoredFlavors", .texts fun o ss => { o with ignoredFlavors := ss })]

/-- Sets an option. The place is the one that a complaint names. -/
def Setter.apply (setter : Setter) (place : String) (options : AnalysisOptions)
    (v : Json.Value) : Except Fault AnalysisOptions :=
  match setter with
  | .text set => (shaped Shape.text place v).map (set options)
  | .flag set => (shaped Shape.flag place v).map (set options)
  | .texts set => do
    let items ← shaped Shape.list place v
    return set options (← Description.texts place items)

def setOption (options : AnalysisOptions) (key : String) (v : Json.Value) :
    Except Fault AnalysisOptions :=
  let place := "detekt." ++ key
  match setters.lookup key with
  | none => .error (.unknownOption place)
  | some setter => setter.apply place options v

def analysisOptions (block : Fields) : Except Fault AnalysisOptions :=
  block.foldlM (fun options field => setOption options field.1 field.2) {}

def flavor : Json.Value → Except Fault Flavor
  | .object fields => do
    let name ← required Shape.text fields "name"
    let dimension ← required Shape.text fields "dimension"
    return { name, dimension }
  | _ => .error .flavorNotAnObject

/-- The options of an Android block for a project of the given kind. -/
def androidBlock (kind : AndroidKind) (block : Fields) : Except Fault AndroidOptions := do
  let buildTypes ← optional Shape.list block "buildTypes"
  let productFlavors ← (← withDefault Shape.list block "productFlavors" []).mapM flavor
  let compileSdkVersion ← withDefault Shape.number block "compileSdkVersion" 29
  let buildTypes ← buildTypes.mapM (texts "android.buildTypes")
  let flavorDimensions ← textsField "android.flavorDimensions" block "flavorDimensions"
  let testBuildType ← withDefault Shape.text block "testBuildType" "debug"
  let sdkDir ← withDefault Shape.text block "sdkDir" ""
  let compileClasspath ← textsField "android.compileClasspath" block "compileClasspath"
  return {
    kind
    compileSdkVersion
    buildTypes
    flavorDimensions
    productFlavors
    testBuildType
    sdkDir
    compileClasspath }

/-- What a project that lists the given plugins says about Android. Without an
Android plugin there may be no block; with one, a block that says nothing is as
good as none. -/
def androidOptions (block : Json.Value) (plugins : List String) :
    Except Fault (Option AndroidOptions) :=
  match AndroidKind.ofPlugins? plugins with
  | none => if block.kind = .null then .ok none else .error .androidWithoutPlugin
  | some kind =>
    if block.isVacant then (androidBlock kind []).map some
    else
      match block with
      | .object fields => (androidBlock kind fields).map some
      | _ => .error .androidNotAnObject

/-- One source set. Without Kotlin sources, Kotlin was never set up for it. -/
def sourceSet : Json.Value → Except Fault SourceSet
  | .object fields => do
    let kotlin ← optional Shape.list fields "kotlin"
    let name ← required Shape.text fields "name"
    let kotlinSources ← kotlin.mapM (texts "sourceSets.kotlin")
    let compileClasspath ← textsField "sourceSets.compileClasspath" fields "compileClasspath"
    let classesDirs ← textsField "sourceSets.classesDirs" fields "classesDirs"
    return { name, kotlinSources, compileClasspath, classesDirs }
  | _ => .error .sourceSetNotAnObject

end Description
end AnalysisPlan
