import AnalysisPlan.Description.Blocks
import AnalysisPlan.Project.Evaluation

/-!
# Loading a project description

A description is a JSON object in a file. It is read in two stages: a draft of
all that can be read on its own, and the configuration of a project made from it,
in which plugins are applied before dependencies are declared. Loading leaves the
project configured and not evaluated, so its options can still be changed.

Relative directories are read from the directory of the file; the project sees
the files there are from its own directory. Links are not followed when a directory is
told from its path; a path into a loop of links breaks loading off, and so do a null
character in the path of the file or of the project directory and a question about a
path that is denied.
-/

namespace AnalysisPlan
namespace Description

/-- What a description says before anything is applied. -/
structure Draft where
  name : String
  directory : Location
  buildDirectory : Option String
  plugins : List String
  options : AnalysisOptions
  android : Option AndroidOptions
  sourceSets : List SourceSet

namespace Draft

def ofFields (directory : Location) (fields : Fields) : Except Fault Draft := do
  let buildDir ← withDefault Shape.text fields "buildDir" ""
  let name ← withDefault Shape.text fields "name" (directory.getLast?.getD "")
  let plugins ← textsField "plugins" fields "plugins"
  let options ← analysisOptions (← withDefault Shape.object fields "detekt" [])
  let android ← androidOptions ((fields.lookup "android").getD .null) plugins
  let sourceSets ← (← withDefault Shape.list fields "sourceSets" []).mapM sourceSet
  return {
    name
    directory
    buildDirectory :=
      if buildDir = "" then none
      else some ((Path.ofLocation directory).append (Path.ofText buildDir)).text
    plugins
    options
    android
    sourceSets }

def project (tree : FileTree) (d : Draft) : Project :=
  { Project.fresh d.name (locationText d.directory) d.buildDirectory
      (tree.present d.directory) with
    denial := tree.denial d.directory
    options := d.options
    android := d.android
    sourceSets := d.sourceSets }

end Draft

def applyIds : List String → Configuring Unit
  | [] => return ()
  | id :: ids => do
    Configuring.applyId id
    applyIds ids

def declareField (configuration : String) (v : Json.Value) : Configuring Unit :=
  match v with
  | .list items =>
    match texts ("dependencies." ++ configuration) items with
    | .ok coordinates => Configuring.change (·.declareDependencies configuration coordinates)
    | .error f => throw f
  | _ => throw (.coordinatesNotAList configuration)

def declareEach : Fields → Configuring Unit
  | [] => return ()
  | (configuration, v) :: fields => do
    declareField configuration v
    declareEach fields

/-- Configures the project of a draft: the listed plugins, the variant plugin, and
the dependencies. -/
def configure (plugins : List String) (fields : Fields) : Configuring Unit := do
  applyIds plugins
  Configuring.applyPlugin (.variantAnalysis 0)
  match withDefault Shape.object fields "dependencies" [] with
  | .ok dependencies => declareEach dependencies
  | .error f => throw f
  let p ← get
  Configuring.report (.projectLoaded p.name p.directories.project)

/-- How loading ended, and what was reported on the way, unless it was broken off. -/
structure Loading where
  log : List LogEvent := []
  outcome : Except LoadFailure Project

/-- The path of the project directory. A relative one is read from the base. -/
def directoryPath (base : Path) (fields : Fields) : Except Fault Path := do
  return base.append (Path.ofText (← withDefault Shape.text fields "projectDir" "."))

/-- The project directory. It need not be there. -/
def directory (tree : FileTree) (current : Location) (base : Path) (fields : Fields) :
    Except LoadFailure Location :=
  match directoryPath base fields with
  | .error f => .error (.fault f)
  | .ok path =>
    let l := path.resolve current
    if path.hasNull then .error (.interrupted .nullCharacter)
    else if tree.refuses [] (.ofLocation l) = some .linkLoop then
      .error (.interrupted (.linkLoop (locationText l)))
    else .ok l

def loadIn (tree : FileTree) (directory : Location) (fields : Fields) : Loading :=
  match Draft.ofFields directory fields with
  | .error f => { outcome := .error (.fault f) }
  | .ok draft =>
    match Configuring.attempt (configure draft.plugins fields) (draft.project tree) with
    | .error d => { outcome := .error (.interrupted (.denied d)) }
    | .ok (.ok _ p) => { log := p.registry.log, outcome := .ok p }
    | .ok (.error f p) => { log := p.registry.log, outcome := .error (.fault f) }

def loadFields (tree : FileTree) (current : Location) (base : Path) (fields : Fields) : Loading :=
  match directory tree current base fields with
  | .error failure => { outcome := .error failure }
  | .ok directory => loadIn tree directory fields

def document (nesting : Nat) (file : String) (text : List Char) : Except LoadFailure Fields :=
  match Json.read text nesting with
  | .error (.malformed m) => .error (.fault (.notJson file m))
  | .error (.integerTooLong digits) => .error (.interrupted (.integerTooLong digits))
  | .error (.nestedTooDeeply container) => .error (.interrupted (.nestedTooDeeply container))
  | .error .halfPair => .error (.interrupted .halfPair)
  | .ok (.object fields) => .ok fields
  | .ok _ => .error (.fault (.notAnObject file))

def readFile (tree : FileTree) (current : Location) (path : Path) : Except LoadFailure Fields :=
  if path.hasNull then .error (.interrupted .nullCharacter)
  else
    match tree.read current path with
    | .error .missing => .error (.missingFile path.text)
    | .error refusal => .error (.fault (.unreadable path.text refusal))
    | .ok bytes =>
      match Text.decodeUtf8 bytes with
      | .error fault => .error (.fault (.notUtf8 path.text fault))
      | .ok chars => document tree.nesting path.text (Text.unifyNewlines chars)

def load (tree : FileTree) (current : Location) (path : Path) : Loading :=
  match readFile tree current path with
  | .error failure => { outcome := .error failure }
  | .ok fields =>
    loadFields tree current (.ofLocation (path.resolve current).dropLast) fields

end Description
end AnalysisPlan
