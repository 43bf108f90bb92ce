import AnalysisPlan.CommandLine.Launch

/-!
# The program

Runs a command line. What comes in on the standard input is the description, under
the name that the command line gives it; apart from it the program sees an empty
directory. A log that was asked for in a file goes to the error output, behind the
name of the file, so no file is ever refused to it.
-/

namespace AnalysisPlan

/-- The location that the program sees itself in. -/
def workLocation : Location := ["work"]

def describedFile (args : List String) : String :=
  match CommandLine.invocation args with
  | .ok { command := some command, .. } => command.target.file
  | _ => CommandLine.defaultProjectFile

/-- The surroundings of a run on the given description. -/
def surroundings (args : List String) (description : String) : CommandLine.Surroundings where
  tree :=
    { files := [((Path.ofText (describedFile args)).resolve workLocation,
        description.toUTF8.toList)]
      directories := [workLocation] }
  current := workLocation
  console := "auto"
  columns := 80

end AnalysisPlan

/-- Runs the command line on the description from the standard input. -/
def main (args : List String) : IO UInt32 := do
  let input ← IO.getStdin
  let lines ← input.lines
  let description := String.intercalate "\n" lines.toList
  let surroundings := AnalysisPlan.surroundings args description
  match AnalysisPlan.CommandLine.launch (fun _ => none) surroundings args with
  | .error escape =>
    IO.eprintln escape.message
    return 1
  | .ok output =>
    IO.print output.out
    IO.eprint output.err
    match output.logFile with
    | none => pure ()
    | some (file, text) => IO.eprint (file ++ ":\n" ++ text)
    return output.status.toUInt32
