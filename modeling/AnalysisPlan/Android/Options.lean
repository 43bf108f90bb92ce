/-!
# Android options

What an Android project says about its variants. The kind of project follows from
the first Android plugin among those it lists.
-/

namespace AnalysisPlan

/-- The kinds of Android projects. Those of the last kind have no variants that
could be planned. -/
inductive AndroidKind where
  | application
  | library
  | test
  | other
deriving Repr, DecidableEq

namespace AndroidKind

def name : AndroidKind → String
  | application => "com.android.application"
  | library => "com.android.library"
  | test => "com.android.test"
  | other => "other"

def supported : List AndroidKind := [application, library, test]

def ofPlugin? (plugin : String) : Option AndroidKind :=
  supported.find? fun k => k.name == plugin

/-- The kind of project that the first Android plugin makes. -/
def ofPlugins? (plugins : List String) : Option AndroidKind := plugins.findSome? ofPlugin?

theorem ofPlugin?_name {k : AndroidKind} (h : k ≠ .other) : ofPlugin? k.name = some k := by
  cases k with
  | application => rfl
  | library => rfl
  | test => rfl
  | other => exact absurd rfl h

end AndroidKind

/-- A flavor and the dimension it belongs to. -/
structure Flavor where
  name : String
  dimension : String
deriving Repr, DecidableEq

/-- What an Android project says about its variants. -/
structure AndroidOptions where
  kind : AndroidKind
  compileSdkVersion : Int := 29
  buildTypes : Option (List String) := none
  flavorDimensions : List String := []
  productFlavors : List Flavor := []
  testBuildType : String := "debug"
  sdkDir : String := ""
  compileClasspath : List String := []
deriving Repr, DecidableEq

namespace AndroidOptions

/-- The build types of a project: those it declares, or those of its kind. -/
def effectiveBuildTypes (a : AndroidOptions) : List String :=
  match a.buildTypes with
  | some types => types
  | none => if a.kind = .test then ["debug"] else ["debug", "release"]

end AndroidOptions

end AnalysisPlan
