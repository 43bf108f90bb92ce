import AnalysisPlan.FileTree
import AnalysisPlan.Json.Reader
import AnalysisPlan.Text.Quoted
import AnalysisPlan.Text.Utf8

/-!
# Configuration faults

Everything that makes a configuration unacceptable, as a cause with the names it
concerns. The wording is a function of the cause and is given in one place.
-/

namespace AnalysisPlan

/-- Why a configuration is not accepted. -/
inductive Fault where
  | unnamedUnit
  | taskExists (task : String)
  | taskNotFound (task : String)
  | noKotlinSources (sourceSet : String)
  | sourceAfterResolution
  | resolvedTwice
  | namesDifferOnlyByCase (earlier later : String)
  | noVariantSource (project : String)
  | undeclaredDimension (flavor dimension : String)
  | emptyDimension (dimension : String)
  | unsupportedAndroidKind (project kind : String) (supported : List String)
  | pluginAfterEvaluation (project : String)
  | evaluatedTwice (project : String)
  | configurationExists (configuration : String)
  | configurationNotFound (configuration : String)
  | pluginRefusal (reason : String)
  | unreadable (file : String) (refusal : Refusal)
  | notUtf8 (file : String) (fault : Text.Utf8Fault)
  | notJson (file : String) (malformation : Json.Malformation)
  | notAnObject (file : String)
  | wrongKind (key : String) (expected found : Json.Kind)
  | notText (place : String) (found : Json.Kind)
  | missingOption (key : String)
  | unknownOption (key : String)
  | androidWithoutPlugin
  | androidNotAnObject
  | flavorNotAnObject
  | sourceSetNotAnObject
  | coordinatesNotAList (configuration : String)
deriving Repr, DecidableEq

def Fault.message : Fault → String
  | unnamedUnit =>
    "Cannot derive a detekt task name from an empty variant or source set name"
  | taskExists task =>
    s!"Cannot add task '{task}' as a task with that name already exists."
  | taskNotFound task => s!"Task with name '{task}' not found."
  | noKotlinSources sourceSet =>
    s!"Kotlin source set not found for source set '{sourceSet}'. " ++
      "Please report on detekt's issue tracker"
  | sourceAfterResolution => "Variant sources cannot be added after resolution has run"
  | resolvedTwice => "Variant resolution already ran for this configuration pass"
  | namesDifferOnlyByCase earlier later =>
    s!"Variants '{earlier}' and '{later}' map to detekt task names that differ only by case"
  | noVariantSource project =>
    s!"Project '{project}' applies kotlin-android but has no " ++
      "Android application, library or test extension to read variants from"
  | undeclaredDimension flavor dimension =>
    s!"Flavor '{flavor}' is associated with flavor dimension " ++
      s!"'{dimension}' but it was not declared"
  | emptyDimension dimension =>
    s!"No flavor is associated with flavor dimension '{dimension}'"
  | unsupportedAndroidKind project kind supported =>
    s!"Android extension of project '{project}' is of unsupported kind '{kind}'; " ++
      "expected one of " ++ String.intercalate ", " supported
  | pluginAfterEvaluation project =>
    s!"Cannot apply plugins to project '{project}' after it was evaluated"
  | evaluatedTwice project => s!"Project '{project}' has already been evaluated"
  | configurationExists configuration =>
    s!"Cannot add a configuration with name '{configuration}' as a " ++
      "configuration with that name already exists."
  | configurationNotFound configuration =>
    s!"Configuration with name '{configuration}' not found."
  | pluginRefusal reason => reason
  | unreadable file refusal =>
    s!"{file}: cannot read the project description ({refusal.message})"
  | notUtf8 file fault =>
    s!"{file}: not valid UTF-8 ({fault.complaint.message} at byte {fault.offset})"
  | notJson file malformation => s!"{file}: invalid JSON ({malformation.message})"
  | notAnObject file => s!"{file}: the project description must be a JSON object"
  | wrongKind key expected found => s!"{key}: expected {expected.name}, got {found.name}"
  | notText place found => s!"{place}: expected strings, got {found.name}"
  | missingOption key => s!"{key}: required option is missing"
  | unknownOption key => s!"{key}: unknown option"
  | androidWithoutPlugin => "android: block present but no Android plugin is applied"
  | androidNotAnObject => "android: expected an object"
  | flavorNotAnObject => "android.productFlavors: expected objects with name and dimension"
  | sourceSetNotAnObject => "sourceSets: expected objects"
  | coordinatesNotAList configuration =>
    s!"dependencies.{configuration}: expected a list of coordinates"

/-- What breaks off what is done to a project without saying anything about its
configuration: a path with a null character or into a loop of links, a question about a
path that is denied, or a text beyond the limits of reading. What becomes of a text with
half of a pair in it is left open. -/
inductive Interruption where
  | nullCharacter
  | linkLoop (path : String)
  | denied (d : Denial)
  | integerTooLong (digits : Nat)
  | nestedTooDeeply (container : Json.Container)
  | halfPair
deriving Repr, DecidableEq

/-- What the system says about a refused path. -/
def Refusal.complaint (r : Refusal) (path : String) : String :=
  s!"[Errno {r.number}] {r.message}: {Text.quoted path}"

def Interruption.message : Interruption → String
  | nullCharacter => "embedded null byte"
  | linkLoop path => s!"Symlink loop from {Text.quoted path}"
  | denied d => d.refusal.complaint d.path
  | integerTooLong digits => Text.tooManyDigits digits
  | nestedTooDeeply container =>
    s!"maximum recursion depth exceeded while decoding a JSON {container.name} " ++
      "from a unicode string"
  | halfPair => "a text holds half of a pair"

/-- Why a project description could not be loaded. A file that is not there and an
interruption are not faults of the configuration. -/
inductive LoadFailure where
  | missingFile (path : String)
  | interrupted (i : Interruption)
  | fault (f : Fault)
deriving Repr, DecidableEq

def LoadFailure.message : LoadFailure → String
  | missingFile path => Refusal.missing.complaint path
  | interrupted i => i.message
  | fault f => f.message

end AnalysisPlan
