import AnalysisPlan.CommandLine.Invocation
import AnalysisPlan.Console.Message
import AnalysisPlan.Description.Loading
import AnalysisPlan.Json.Writer
import AnalysisPlan.PlanDocument

/-!
# What a command reports

Every command loads the description it is given, adds what the command line says
about ignoring, and evaluates the project once. The report is a transcript: what
is said and what is logged, in the order in which it comes up, and how it ends.

Most reports end with a status. An interruption, of loading or of evaluating, is not
answered for by any message, and neither is a name that was left out on the command
line: the report breaks off where the name is first needed.
-/

namespace AnalysisPlan
namespace CommandLine

open Console (Message Cell)

/-- A part of a report. -/
inductive Entry where
  | say (message : Message)
  | note (event : LogEvent)
deriving DecidableEq

namespace Entry

def message? : Entry → Option Message
  | say m => some m
  | note _ => none

def event? : Entry → Option LogEvent
  | say _ => none
  | note e => some e

end Entry

/-- How a report ends. -/
inductive Ending where
  | exit (status : Nat)
  | interrupted (i : Interruption)
  | nameMissing
deriving Repr, DecidableEq

/-- What a command reports. -/
structure Report where
  entries : List Entry
  ending : Ending
deriving DecidableEq

namespace Report

def messages (r : Report) : List Message := r.entries.filterMap Entry.message?

def log (r : Report) : List LogEvent := r.entries.filterMap Entry.event?

end Report

/-- The beginning of a report: an evaluated project, or how the report ends without
one. -/
structure Preparation where
  entries : List Entry
  outcome : Except Ending Project

def ignoring (ignored : IgnoredNames) (p : Project) : Project :=
  { p with
    options := p.options.ignoring ignored.variants ignored.buildTypes ignored.flavors }

@[simp] theorem ignoring_nothing (p : Project) : ignoring {} p = p := by
  simp [ignoring, AnalysisOptions.ignoring]

def complaint : LoadFailure → List Entry
  | .missingFile path => [.say (.error s!"Project description not found: {path}")]
  | .interrupted _ => []
  | .fault f => [.note (.configurationFailed f.message), .say (.error f.message)]

def endingOf : LoadFailure → Ending
  | .interrupted i => .interrupted i
  | _ => .exit 1

/-- Messages about the steps, which are left out of reports that are a document. -/
def announced (showSteps : Bool) (messages : List Message) : List Entry :=
  if showSteps then messages.map .say else []

/-- The log of what was done to a project after it was as before. -/
def logSince (before after : Project) : List Entry :=
  (after.registry.log.drop before.registry.log.length).map .note

/-- Evaluates a loaded project. Its variants are planned first. -/
def evaluated (showSteps nameMissing : Bool) (p : Project) : Preparation :=
  let steps := announced showSteps
    [.stepDetail ("plugins: " ++ String.intercalate ", " p.pluginIds),
     .step 2 2 "Evaluating project"]
  if nameMissing && p.asksWhatToIgnore then
    { entries := steps ++ [.note (.pluginFinalizing (Plugin.variantAnalysis 0).id)]
      outcome := .error .nameMissing }
  else
    match Configuring.attempt Configuring.evaluate p with
    | .error d => { entries := steps, outcome := .error (.interrupted (.denied d)) }
    | .ok (.error f q) =>
      { entries := steps ++ logSince p q ++ complaint (.fault f)
        outcome := .error (endingOf (.fault f)) }
    | .ok (.ok _ q) =>
      { entries := steps ++ logSince p q ++
          announced showSteps [.stepDetail s!"{q.graph.size} tasks registered"]
        outcome := .ok q }

def prepare (tree : FileTree) (current : Location) (target : Target) (showSteps : Bool) :
    Preparation :=
  let loading := Description.load tree current (Path.ofText target.file)
  let loaded := announced showSteps [.step 1 2 s!"Configuring project from {target.file}"] ++
    loading.log.map .note
  match loading.outcome with
  | .error failure =>
    { entries := loaded ++ complaint failure, outcome := .error (endingOf failure) }
  | .ok p =>
    let rest := evaluated showSteps target.ignored.nameMissing (ignoring target.ignored p)
    { rest with entries := loaded ++ rest.entries }

def conclude (prepared : Preparation) (say : Project → List Message × Ending) : Report :=
  match prepared.outcome with
  | .error ending => { entries := prepared.entries, ending }
  | .ok p =>
    { entries := prepared.entries ++ (say p).1.map .say
      ending := (say p).2 }

/-- The text, or two dashes for an empty one. -/
def orDashes (s : String) : String := if s = "" then "--" else s

/-- Names with commas between them, or two dashes if there are none. -/
def listed (names : List String) : String := orDashes (String.intercalate ", " names)

def planRow (t : Task) : List Cell :=
  [.text t.name, .text t.kind.name, .text (toString t.sources.length),
   .text (toString t.classpath.length), .text ((t.reports.map (·.xml)).getD "--")]

def umbrellaMessage (g : TaskGraph) (u : Umbrella) : Message :=
  match g.dependencies? u.name with
  | some names => .umbrella u.name names
  | none => .warning s!"{u.name}: not created (no surviving variants)"

def planMessages (p : Project) : List Message :=
  let tasks := p.graph.tasks
  let analyses := (tasks.filter (·.kind == .analysis)).length
  [.table ["Task", "Kind", "Sources", "Classpath", "XML report"]
     ((tasks.filter (·.kind != .lifecycle)).map planRow) "detekt tasks",
   umbrellaMessage p.graph .main,
   umbrellaMessage p.graph .test,
   .success s!"{analyses} analysis tasks planned for {p.name}"]

def similarNames (g : TaskGraph) (text : String) : List String :=
  g.names.filter fun n =>
    Text.occursIn (Text.lowerCase text).toList (Text.lowerCase n).toList

def unknownTask (p : Project) (name : String) : List Message :=
  .error s!"No task named '{name}' in project {p.name}" ::
    match similarNames p.graph name with
    | [] => []
    | names => [.info ("Did you mean: " ++ String.intercalate ", " names)]

def properties (t : Task) (dependencies : List String) : List (String × String) :=
  [("Kind", t.kind.name),
   ("Group", orDashes t.group),
   ("Description", orDashes t.description),
   ("Sources", toString t.sources.length),
   ("Classpath", toString t.classpath.length),
   ("Includes", listed t.includes),
   ("Excludes", listed t.excludes),
   ("Tool classpath", listed t.toolConfigurations),
   ("Depends on", listed dependencies)] ++
  match t.reports with
  | none => []
  | some r => [("XML report", r.xml), ("HTML report", r.html), ("TXT report", r.txt)]

/-- A table with one column, or nothing if it has no rows. -/
def columnTable (header : String) (entries : List String) : List Message :=
  if entries.isEmpty then []
  else [.table [header] (entries.map fun e => [Cell.text e]) ""]

def taskMessages (t : Task) (dependencies : List String) : List Message :=
  .pairs (properties t dependencies) t.name ::
    columnTable "Source location" t.sources ++ columnTable "Classpath entry" t.classpath

def describeTask (p : Project) (name : String) : List Message × Ending :=
  match p.graph.get? name with
  | none => (unknownTask p name, .exit 1)
  | some t => (taskMessages t ((p.graph.dependencies? name).getD []), .exit 0)

def configurationRow (p : Project) (c : Configuration) : List Cell :=
  [.text c.name, .text (if c.declared.isEmpty then "default" else "declared"),
   .text (listed (p.resolvedOf c))]

def configurationMessages (p : Project) : List Message :=
  [.table ["Configuration", "Source", "Dependencies"]
     (p.configurations.map (configurationRow p)) p.name]

def Command.report (tree : FileTree) (current : Location) : Command → Report
  | .plan target true =>
    conclude (prepare tree current target false) fun p =>
      ([.raw (Json.write p.document)], .exit 0)
  | .plan target false =>
    conclude (prepare tree current target true) fun p => (planMessages p, .exit 0)
  | .describe target (some task) =>
    conclude (prepare tree current target false) fun p => describeTask p task
  | .describe target none =>
    conclude (prepare tree current target false) fun _ => ([], .nameMissing)
  | .configurations target =>
    conclude (prepare tree current target false) fun p => (configurationMessages p, .exit 0)

end CommandLine
end AnalysisPlan
