import AnalysisPlan.Android.Flavors
import AnalysisPlan.Path
import AnalysisPlan.Resolver

/-!
# The variants of an Android project

There is a primary variant for every combination of flavors and every build type.
Projects of a tested kind have a unit test variant beside every primary one, and
beside those of one build type also a variant that is tested on a device. A test
variant sees what the variant it tests sees.
-/

namespace AnalysisPlan

/-- Where a project's sources and its products are. -/
structure Directories where
  project : String
  build : String
deriving Repr, DecidableEq

namespace Directories

def sourceDirs (d : Directories) (sourceSets : List String) : List String :=
  sourceSets.flatMap fun s =>
    [joinPaths d.project ["src", s, "java"], joinPaths d.project ["src", s, "kotlin"]]

def classDirs (d : Directories) (variant : String) : List String :=
  [joinPaths d.build ["tmp", "kotlin-classes", variant],
   joinPaths d.build ["intermediates", "javac", variant, "classes"]]

end Directories

namespace VariantKind

/-- What the names of a role's source sets begin with. -/
def sourceSetRole : VariantKind → String
  | production => ""
  | unitTest => "test"
  | androidTest => "androidTest"

def nameSuffix : VariantKind → String
  | production => ""
  | unitTest => "UnitTest"
  | androidTest => "AndroidTest"

end VariantKind

namespace AndroidOptions

def variantName (flavor buildType : String) : String :=
  if flavor = "" then buildType else flavor ++ Text.capitalize buildType

/-- The variant of a role. Its own classes come before those it can see. -/
def variantOf (d : Directories) (kind : VariantKind) (flavors : List Flavor)
    (buildType name : String) (visible : List String) : Variant where
  name
  buildType
  flavor := combinedName flavors
  sources := d.sourceDirs (sourceSetNames kind.sourceSetRole flavors buildType)
  classpath := d.classDirs name ++ visible
  kind

def testKinds (a : AndroidOptions) (buildType : String) : List VariantKind :=
  if buildType = a.testBuildType then [.androidTest, .unitTest] else [.unitTest]

/-- The primary variant of a combination of flavors and a build type. -/
def primaryVariant (a : AndroidOptions) (d : Directories) (tested : Bool)
    (flavors : List Flavor) (buildType : String) : PrimaryVariant :=
  let name := variantName (combinedName flavors) buildType
  let primary := variantOf d .production flavors buildType name a.compileClasspath
  { toVariant := primary
    secondaries :=
      if tested then
        (a.testKinds buildType).map fun kind =>
          variantOf d kind flavors buildType (name ++ kind.nameSuffix) primary.classpath
      else [] }

def variants (a : AndroidOptions) (d : Directories) (tested : Bool) :
    Except Fault (List PrimaryVariant) :=
  a.flavorCombinations.map fun combinations =>
    combinations.flatMap fun flavors =>
      a.effectiveBuildTypes.map (a.primaryVariant d tested flavors)

/-- The platform library behind the class paths of a project. The version is a number that
a description can hold, so it has no more digits than can be printed. -/
def bootClasspath (a : AndroidOptions) : List String :=
  if a.sdkDir = "" then []
  else [joinPaths a.sdkDir ["platforms", s!"android-{a.compileSdkVersion}", "android.jar"]]

def enumerationNotes (a : AndroidOptions) : Except Fault (List PrimaryVariant) → List LogEvent
  | .ok vs => [.variantsEnumerated vs.length a.kind.name]
  | .error _ => []

/-- The variants of a project as a source for the resolver, if its kind is one
that can be planned. A project that only tests has no test code of its own. -/
def variantSource? (a : AndroidOptions) (d : Directories) : Option VariantSource :=
  if a.kind = .other then none
  else
    let variants := a.variants d (a.kind != .test)
    some { boot := a.bootClasspath, variants, notes := a.enumerationNotes variants }

end AndroidOptions

end AnalysisPlan
