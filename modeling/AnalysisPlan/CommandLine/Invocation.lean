import AnalysisPlan.CommandLine.Grammar

/-!
# Invocations

What a command line asks for. The words of a command are read by a grammar of its
own after the command was found; words that are left over, of the command or
before it, make the whole line unacceptable.
-/

namespace AnalysisPlan
namespace CommandLine

def programName : String := "detekt-tasks"

/-- The description file that is read if none is named. -/
def defaultProjectFile : String := "detekt-project.json"

/-- Names to ignore, given on the command line, and whether a switch that asks for
one came without it. -/
structure IgnoredNames where
  variants : List String := []
  buildTypes : List String := []
  flavors : List String := []
  nameMissing : Bool := false
deriving Repr, DecidableEq

/-- A description file, and what to ignore in it. -/
structure Target where
  file : String := defaultProjectFile
  ignored : IgnoredNames := {}
deriving Repr, DecidableEq

/-- What can be asked for. The task to describe may have been left without a
name. -/
inductive Command where
  | plan (target : Target) (asDocument : Bool)
  | describe (target : Target) (task : Option String)
  | configurations (target : Target)
deriving Repr, DecidableEq

def Command.target : Command → Target
  | plan target _ => target
  | describe target _ => target
  | configurations target => target

/-- What a command line asks for. -/
structure Invocation where
  verbose : Bool := false
  quiet : Bool := false
  logFile : Option String := none
  command : Option Command := none
deriving Repr, DecidableEq

def commandNames : List String := ["plan", "describe", "configurations"]

def helpSwitch : Switch := ⟨["-h", "--help"], .help⟩

/-- The switches that all commands share. -/
def targetSwitches : List Switch :=
  [helpSwitch, ⟨["--ignore-variant"], .value⟩, ⟨["--ignore-build-type"], .value⟩,
   ⟨["--ignore-flavor"], .value⟩]

def mainGrammar : Grammar where
  switches :=
    [helpSwitch, ⟨["--verbose"], .flag⟩, ⟨["--quiet"], .flag⟩, ⟨["--log-file"], .value⟩]
  slots := [⟨"command", .rest⟩]

def commandGrammar (command : String) : Grammar where
  switches := targetSwitches ++ if command = "plan" then [⟨["--json"], .flag⟩] else []
  slots := ⟨"project", .optional⟩ :: if command = "describe" then [⟨"task", .single⟩] else []

/-- Why a command line asks for nothing that can be done. The subject is the
command concerned, if it is one. -/
inductive Refused where
  | help (subject : Option String)
  | usage (subject : Option String) (fault : UsageFault)
deriving Repr, DecidableEq

/-- Why reading the words of a subject ended. -/
def refuse (subject : Option String) : Halt → Refused
  | .help => .help subject
  | .fault f => .usage subject f

/-- The names to ignore among what was given for the three switches. -/
def ignoredNames (variants buildTypes flavors : List (Option String)) : IgnoredNames where
  variants := variants.filterMap id
  buildTypes := buildTypes.filterMap id
  flavors := flavors.filterMap id
  nameMissing := (variants ++ buildTypes ++ flavors).contains none

def targetOf (r : Reading) : Target where
  file := (r.wordsIn "project").head?.getD defaultProjectFile
  ignored := ignoredNames (r.valuesOf "--ignore-variant") (r.valuesOf "--ignore-build-type")
    (r.valuesOf "--ignore-flavor")

def commandOf (name : String) (r : Reading) : Command :=
  if name = "plan" then .plan (targetOf r) (r.hasFlag "--json")
  else if name = "describe" then .describe (targetOf r) (r.wordsIn "task").head?
  else .configurations (targetOf r)

/-- Reads a command and its words. Left-over words are returned. -/
def readCommand : List String → Except Refused (Option Command × List String)
  | [] => .ok (none, [])
  | name :: args =>
    if name ∈ commandNames then
      match (commandGrammar name).read args with
      | .error h => .error (refuse (some name) h)
      | .ok r => .ok (some (commandOf name r), r.extras)
    else .error (.usage none (.invalidChoice "command" name commandNames))

def invocation (args : List String) : Except Refused Invocation :=
  match mainGrammar.read args with
  | .error h => .error (refuse none h)
  | .ok r => do
    let (command, extras) ← readCommand (r.wordsIn "command")
    match r.extras ++ extras with
    | [] => return {
        verbose := r.hasFlag "--verbose"
        quiet := r.hasFlag "--quiet"
        logFile := (r.valuesOf "--log-file").getLast?.getD none
        command }
    | words => .error (.usage none (.unrecognized words))

end CommandLine
end AnalysisPlan
