import AnalysisPlan.CommandLine.Run

/-!
# Opening the log

A log that was asked for in a file is opened after the console was chosen and before the
command begins, also if no command was named. Whether it can be opened depends on what
the program is run on, so that is left open here: `refused` says why the file of a path
cannot be opened, if it cannot. Nothing answers for such a refusal, or for a null
character in the path, and the program ends with it.

An opened log is among the files that the command finds, empty if it was not there
before. Nothing is written to it until the description was read.
-/

namespace AnalysisPlan
namespace CommandLine

open Console (Backend)

/-- Why a program ends without a status. -/
inductive Escape where
  | logFile (path : String) (refusal : Refusal)
  | breakdown (b : Breakdown)
deriving Repr, DecidableEq

def Escape.message : Escape → String
  | logFile path refusal => refusal.complaint path
  | breakdown b => b.message

/-- The full path of the file that the log was asked for in. An empty name asks for
none. -/
def Invocation.logTarget (current : Location) (i : Invocation) : Option String :=
  match i.logFile with
  | none => none
  | some file => if file = "" then none else some (logPath current file)

/-- Why the log of an invocation cannot be opened. -/
def Invocation.logEscape (refused : String → Option Refusal) (current : Location)
    (i : Invocation) : Option Escape :=
  (i.logTarget current).bind fun path =>
    if '\x00' ∈ path.toList then some (.breakdown (.interrupted .nullCharacter))
    else (refused path).map (.logFile path)

def Invocation.opened (current : Location) (tree : FileTree) (i : Invocation) : FileTree :=
  match i.logFile with
  | none => tree
  | some file => if file = "" then tree else tree.opening ((Path.ofText file).resolve current)

/-- Runs a command line where some files may be refused to the log. -/
def launch (refused : String → Option Refusal) (s : Surroundings) (args : List String) :
    Except Escape Output :=
  match invocation args with
  | .error r => .ok (r.output s.columns)
  | .ok i =>
    match Backend.ofName s.console with
    | .error u => .error (.breakdown (.unknownConsole u))
    | .ok backend =>
      match i.logEscape refused s.current with
      | some escape => .error escape
      | none =>
        (i.run { s with tree := i.opened s.current s.tree } backend).mapError .breakdown

/-- Where the log is not refused, the program ends as a run on the files that there are
then. -/
theorem launch_eq_run {refused : String → Option Refusal} {s : Surroundings}
    {args : List String} {i : Invocation} (hargs : invocation args = .ok i)
    (hopened : i.logEscape refused s.current = none) :
    launch refused s args =
      (run { s with tree := i.opened s.current s.tree } args).mapError .breakdown := by
  simp only [launch, run, hargs, hopened]
  cases Backend.ofName s.console <;> rfl

end CommandLine

end AnalysisPlan
