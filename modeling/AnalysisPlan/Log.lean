/-!
# The log

What planning reports about its own course. Every report is an event; the
channel it appears on, its level and its text are functions of the event, so a
log is a list of events and nothing in it depends on how it is shown.
-/

namespace AnalysisPlan

/-- How much a log entry matters. -/
inductive LogLevel where
  | debug
  | info
  | warning
  | error
deriving Repr, DecidableEq

namespace LogLevel

def name : LogLevel → String
  | debug => "DEBUG"
  | info => "INFO"
  | warning => "WARNING"
  | error => "ERROR"

/-- The place of a level in their order. -/
def rank : LogLevel → Nat
  | debug => 10
  | info => 20
  | warning => 30
  | error => 40

end LogLevel

/-- What can be reported. -/
inductive LogEvent where
  | missingEntryDropped (path : String)
  | taskRegistered (task : String) (sources : Nat)
  | sourceSetsRegistered (count : Nat)
  | variantSkipped (variant : String) (secondaries : Nat)
  | secondarySkipped (variant : String)
  | umbrellaCreated (task : String)
  | variantsResolved (main test : Nat)
  | variantsEnumerated (count : Nat) (kind : String)
  | configFileFound (path : String)
  | variantTasksOmitted
  | pluginApplied (plugin project : String)
  | pluginFinalizing (plugin : String)
  | projectEvaluated (project : String) (tasks : Nat)
  | projectLoaded (project directory : String)
  | configurationFailed (reason : String)
deriving Repr, DecidableEq

namespace LogEvent

/-- The channel an event appears on. -/
def channel : LogEvent → String
  | missingEntryDropped _ => "detekt_tasks.registrar"
  | taskRegistered .. => "detekt_tasks.registrar"
  | sourceSetsRegistered _ => "detekt_tasks.source_sets"
  | variantSkipped .. => "detekt_tasks.variant_resolver"
  | secondarySkipped _ => "detekt_tasks.variant_resolver"
  | umbrellaCreated _ => "detekt_tasks.variant_resolver"
  | variantsResolved .. => "detekt_tasks.variant_resolver"
  | variantsEnumerated .. => "detekt_tasks.android_variants"
  | configFileFound _ => "detekt_tasks.plugin"
  | variantTasksOmitted => "detekt_tasks.plugin"
  | pluginApplied .. => "detekt_tasks.build_project"
  | pluginFinalizing _ => "detekt_tasks.build_project"
  | projectEvaluated .. => "detekt_tasks.build_project"
  | projectLoaded .. => "detekt_tasks.project_loader"
  | configurationFailed _ => "detekt_tasks"

def level : LogEvent → LogLevel
  | missingEntryDropped _ => .debug
  | taskRegistered .. => .debug
  | sourceSetsRegistered _ => .info
  | variantSkipped .. => .debug
  | secondarySkipped _ => .debug
  | umbrellaCreated _ => .debug
  | variantsResolved .. => .info
  | variantsEnumerated .. => .debug
  | configFileFound _ => .info
  | variantTasksOmitted => .info
  | pluginApplied .. => .debug
  | pluginFinalizing _ => .debug
  | projectEvaluated .. => .info
  | projectLoaded .. => .info
  | configurationFailed _ => .error

def message : LogEvent → String
  | missingEntryDropped path => s!"Dropping missing classpath entry {path}"
  | taskRegistered task sources => s!"Registered {task} ({sources} sources)"
  | sourceSetsRegistered count => s!"Registered {count} source-set tasks"
  | variantSkipped variant secondaries =>
    s!"Skipping variant {variant} and its {secondaries} secondary variants"
  | secondarySkipped variant => s!"Skipping secondary variant {variant}"
  | umbrellaCreated task => s!"Created umbrella task {task}"
  | variantsResolved main test =>
    s!"Variant resolution complete: {main} main tasks, {test} test tasks"
  | variantsEnumerated count kind => s!"Enumerated {count} {kind} variants"
  | configFileFound path => s!"Using default config file {path}"
  | variantTasksOmitted => "kotlin-android not applied; no variant tasks registered"
  | pluginApplied plugin project => s!"Applied plugin {plugin} to {project}"
  | pluginFinalizing plugin => s!"Finalizing plugin {plugin}"
  | projectEvaluated project tasks => s!"Evaluated project {project}: {tasks} tasks"
  | projectLoaded project directory => s!"Loaded project {project} from {directory}"
  | configurationFailed reason => s!"Configuration failed: {reason}"

def line (e : LogEvent) : String := s!"{e.channel} {e.level.name} {e.message}\n"

end LogEvent

/-- The lines of a log from the given level up. -/
def logText (least : LogLevel) (log : List LogEvent) : String :=
  String.join ((log.filter fun e => least.rank ≤ e.level.rank).map LogEvent.line)

end AnalysisPlan
