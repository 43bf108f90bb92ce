import AnalysisPlan.CommandLine.Help
import AnalysisPlan.CommandLine.Report
import AnalysisPlan.Console.Rich

/-!
# Running a command line

From the words of a command line to what is written and the status of the end.
Messages go to the output, the log to the error output or to a file. Which events
are logged depends on the switches: all with `--verbose`, else only errors with
`--quiet`, else what is informative if there is a file for it, and warnings if
there is none.

Some things end a run without a status: a console that there is not, a message
that cannot be shown, an interruption, and a name that was left out.
-/

namespace AnalysisPlan
namespace CommandLine

open Console (Message Backend UnknownBackend)
open Console.Rich (DisplayFault)

/-- What a run can see of its surroundings. -/
structure Surroundings where
  tree : FileTree
  current : Location
  console : String
  columns : Nat

/-- What a run leaves behind. -/
structure Output where
  status : Nat
  out : String := ""
  err : String := ""
  logFile : Option (String × String) := none
deriving Repr, DecidableEq

/-- Why a run ends without a status. -/
inductive Breakdown where
  | unknownConsole (u : UnknownBackend)
  | display (f : DisplayFault)
  | interrupted (i : Interruption)
  | nameMissing
deriving Repr, DecidableEq

def Breakdown.message : Breakdown → String
  | unknownConsole u => u.message
  | display f => f.message
  | interrupted i => i.message
  | nameMissing => "unhashable type: 'list'"

/-- The least level that is logged. -/
def Invocation.logLevel (i : Invocation) : LogLevel :=
  if i.verbose then .debug
  else if i.quiet then .error
  else if i.logFile.any (· ≠ "") then .info
  else .warning

/-- The full path of a log file. Where it leads is not looked at. -/
def logPath (current : Location) (file : String) : String :=
  let p := Path.ofText file
  Path.text
    { start := if p.start = .doubleRoot then .doubleRoot else .root
      names := p.resolve current }

/-- Adds a log to an output: to the file that was asked for, or to the error
output. -/
def withLog (current : Location) (i : Invocation) (log : List LogEvent) (o : Output) : Output :=
  let text := logText i.logLevel log
  match i.logFile with
  | none => { o with err := o.err ++ text }
  | some file =>
    if file = "" then { o with err := o.err ++ text }
    else { o with logFile := some (logPath current file, text) }

/-- The text of messages, as far as they can be written. -/
def writeAll (backend : Backend) (columns : Nat) : List Message → Except DisplayFault String
  | [] => .ok ""
  | m :: ms => do
    let text ← backend.write columns m
    return text ++ (← writeAll backend columns ms)

/-- What is logged until a message cannot be shown. -/
def logShown (backend : Backend) (columns : Nat) : List Entry → List LogEvent
  | [] => []
  | .note event :: entries => event :: logShown backend columns entries
  | .say m :: entries =>
    match backend.write columns m with
    | .ok _ => logShown backend columns entries
    | .error _ => []

def subjectName : Option String → String
  | none => programName
  | some command => programName ++ " " ++ command

def Refused.output (columns : Nat) : Refused → Output
  | .help subject => { status := 0, out := (helpPage subject).text columns }
  | .usage subject fault =>
    { status := 2, err := s!"{subjectName subject}: error: {fault.message}\n" }

def Invocation.run (s : Surroundings) (backend : Backend) (i : Invocation) :
    Except Breakdown Output :=
  match i.command with
  | none => .ok (withLog s.current i [] { status := 1, out := (helpPage none).text s.columns })
  | some command =>
    let report := command.report s.tree s.current
    match writeAll backend s.columns report.messages, report.ending with
    | .error f, _ => .error (.display f)
    | .ok _, .interrupted i => .error (.interrupted i)
    | .ok _, .nameMissing => .error .nameMissing
    | .ok out, .exit status => .ok (withLog s.current i report.log { status, out })

def run (s : Surroundings) (args : List String) : Except Breakdown Output :=
  match invocation args with
  | .error r => .ok (r.output s.columns)
  | .ok i =>
    match Backend.ofName s.console with
    | .error u => .error (.unknownConsole u)
    | .ok backend => i.run s backend

end CommandLine
end AnalysisPlan
