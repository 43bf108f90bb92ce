import AnalysisPlan.Json.Value
import AnalysisPlan.Project.State
import AnalysisPlan.Resolver

/-!
# The plan as a document

The tasks of a project as a JSON value: every field of every task, in the order of
registration, and under the name of each umbrella that is there the tasks that it
gathers. What is absent is null.
-/

namespace AnalysisPlan

def textsDocument (texts : List String) : Json.Value := .list (texts.map .str)

def textDocument? : Option String → Json.Value
  | none => .null
  | some s => .str s

def ReportPaths.document (r : ReportPaths) : Json.Value :=
  .object [("xml", .str r.xml), ("html", .str r.html), ("txt", .str r.txt)]

def AnalysisSettings.document (s : AnalysisSettings) : Json.Value :=
  .object
    [("debug", .bool s.debug),
     ("parallel", .bool s.parallel),
     ("disable_default_rule_sets", .bool s.disableDefaultRuleSets),
     ("build_upon_default_config", .bool s.buildUponDefaultConfig),
     ("fail_fast", .bool s.failFast),
     ("auto_correct", .bool s.autoCorrect),
     ("ignore_failures", .bool s.ignoreFailures),
     ("config_files", textsDocument s.configFiles),
     ("baseline", textDocument? s.baseline)]

def Task.document (t : Task) : Json.Value :=
  .object
    [("name", .str t.name),
     ("kind", .str t.kind.name),
     ("group", .str t.group),
     ("description", .str t.description),
     ("sources", textsDocument t.sources),
     ("includes", textsDocument t.includes),
     ("excludes", textsDocument t.excludes),
     ("classpath", textsDocument t.classpath),
     ("reports", (t.reports.map ReportPaths.document).getD .null),
     ("settings", (t.settings.map AnalysisSettings.document).getD .null),
     ("tool_configurations", textsDocument t.toolConfigurations)]

/-- The umbrellas of a graph, each with the tasks that it gathers. -/
def TaskGraph.umbrellas (g : TaskGraph) : List (String × List String) :=
  [Umbrella.main, Umbrella.test].filterMap fun u =>
    (g.dependencies? u.name).map fun names => (u.name, names)

def Project.document (p : Project) : Json.Value :=
  .object
    [("project", .str p.name),
     ("tasks", .list (p.graph.tasks.map Task.document)),
     ("umbrellas", .object (p.graph.umbrellas.map fun u => (u.1, textsDocument u.2)))]

end AnalysisPlan
