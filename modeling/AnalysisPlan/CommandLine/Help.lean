import AnalysisPlan.CommandLine.Invocation
import AnalysisPlan.Console.Paragraph

/-!
# Help

The pages that explain the command line and its commands. A page shows how a
command line is made up, what it is for, and what each argument and switch means.
Names and switches are those of the grammar.

A page keeps two cells free at the right of the screen. The texts about arguments
and switches begin in one column, which is nearer to the left on a narrow screen; a
label that does not end two cells before that column has a line of its own.
-/

namespace AnalysisPlan
namespace CommandLine

/-- An entry of a page: what it is about and what is to be known about it. -/
structure HelpEntry where
  indent : Nat
  label : String
  text : String
deriving Repr, DecidableEq

/-- A page: the parts of a command line behind its name, what it is for, and the
entries about arguments and switches. -/
structure HelpPage where
  name : String
  switchParts : List String
  slotParts : List String
  purpose : String
  arguments : List HelpEntry
  options : List HelpEntry
deriving Repr, DecidableEq

def Switch.placeholder (s : Switch) : String :=
  String.ofList ((s.name.toList.dropWhile (· == '-')).map fun c =>
    if c = '-' then '_' else c.toUpper)

def Switch.withValue (s : Switch) (name : String) : String :=
  if s.effect = .value then name ++ " " ++ s.placeholder else name

def Switch.part (s : Switch) : String := "[" ++ s.withValue (s.names.head?.getD "") ++ "]"

def Switch.about (s : Switch) : String :=
  match s.name with
  | "--help" => "show this help message and exit"
  | "--verbose" => "Enable debug logging"
  | "--quiet" => "Only show errors"
  | "--log-file" => "Write the log to this file"
  | "--ignore-variant" => "Variant to skip (repeatable)"
  | "--ignore-build-type" => "Build type to skip (repeatable)"
  | "--ignore-flavor" => "Flavor to skip (repeatable)"
  | "--json" => "Print the plan as JSON"
  | _ => ""

def Switch.entry (s : Switch) : HelpEntry :=
  ⟨2, String.intercalate ", " (s.names.map s.withValue), s.about⟩

def commandChoice : String := "\x7b" ++ String.intercalate "," commandNames ++ "\x7d"

def commandAbout (command : String) : String :=
  match command with
  | "plan" => "Show the planned detekt tasks"
  | "describe" => "Show one task in detail"
  | "configurations" => "Show resolved dependency configurations"
  | _ => ""

def Slot.parts (s : Slot) : List String :=
  match s.capacity with
  | .optional => ["[" ++ s.name ++ "]"]
  | .single => [s.name]
  | .rest => [commandChoice, "..."]

def Slot.about (s : Slot) : String :=
  match s.name with
  | "project" => s!"Project description (default: {defaultProjectFile})"
  | "task" => "Task name, e.g. detektDebug"
  | _ => ""

/-- The entries about a slot: one, and if a command fills it, one for each. -/
def Slot.entries (s : Slot) : List HelpEntry :=
  match s.capacity with
  | .rest => ⟨2, commandChoice, ""⟩ :: commandNames.map fun c => ⟨4, c, commandAbout c⟩
  | _ => [⟨2, s.name, s.about⟩]

def Grammar.page (g : Grammar) (name purpose : String) : HelpPage where
  name := name
  switchParts := g.switches.map (·.part)
  slotParts := g.slots.flatMap (·.parts)
  purpose := purpose
  arguments := g.slots.flatMap (·.entries)
  options := g.switches.map (·.entry)

/-- The page about a subject, which is a command or the whole program. -/
def helpPage : Option String → HelpPage
  | none => mainGrammar.page programName s!"{programName} -- variant-aware detekt task planner"
  | some command => (commandGrammar command).page (programName ++ " " ++ command) ""

def blanks (n : Nat) : String := String.ofList (List.replicate n ' ')

/-- The characters that a page of a screen with `columns` cells has in a line. A
screen without cells counts as one of the usual size. -/
def helpWidth (columns : Nat) : Nat := (if columns = 0 then 80 else columns) - 2

/-- Lines of parts: those of the line at hand, whose next part begins at `used`, and
those that follow, which begin at `indent`. -/
def packParts (width indent : Nat) : List String → Nat → List String → List String
  | line, _, [] => if line.isEmpty then [] else [String.intercalate " " line]
  | line, used, part :: parts =>
    if !line.isEmpty && width < used + part.length then
      String.intercalate " " line ::
        packParts width indent [part] (indent + part.length + 1) parts
    else packParts width indent (line ++ [part]) (used + part.length + 1) parts

/-- What begins the first line of a page. -/
def usageMark : String := "usage: "

namespace HelpPage

/-- The lines that show how a command line is made up. The parts stand on one line
if they fit. Otherwise the slots begin a line, and the lines stand behind the name,
unless it takes more than three quarters of the width: then they stand below it. -/
def usageLines (p : HelpPage) (width : Nat) : List String :=
  let start := (usageMark ++ p.name).length
  let whole := usageMark ++ String.intercalate " " (p.name :: p.switchParts ++ p.slotParts)
  let below (indent : Nat) (lines : List String) := lines.map (blanks indent ++ ·)
  if whole.length ≤ width then [whole]
  else if 4 * start ≤ 3 * width then
    let slots := packParts width (start + 1) [] (start + 1) p.slotParts
    match packParts width (start + 1) [p.name] (start + 1) p.switchParts with
    | [] => below (start + 1) slots
    | first :: others => (usageMark ++ first) :: below (start + 1) (others ++ slots)
  else
    let indent := usageMark.length
    let pack := packParts width indent [] indent
    match pack (p.switchParts ++ p.slotParts) with
    | [line] => (usageMark ++ p.name) :: below indent [line]
    | _ => (usageMark ++ p.name) :: below indent (pack p.switchParts ++ pack p.slotParts)

end HelpPage

/-- The column in which the texts of entries begin. -/
def textColumn (width : Nat) : Nat := min 24 (max (width - 20) 4)

/-- A paragraph on a page, in lines of eleven characters at least. -/
def helpText (width : Nat) (text : String) : List String :=
  (Console.Paragraph.lines (max width 11) text.toList).map String.ofList

def HelpEntry.lines (width : Nat) (e : HelpEntry) : List String :=
  let column := textColumn width
  let label := blanks e.indent ++ e.label
  if e.text = "" then [label]
  else
    match helpText (width - column) e.text with
    | [] => [label]
    | first :: others =>
      let below := others.map (blanks column ++ ·)
      if label.length + 2 ≤ column then
        (String.ofList (Text.padEnd column ' ' label.toList) ++ first) :: below
      else label :: (blanks column ++ first) :: below

/-- The lines of a page on a screen with `columns` cells. -/
def HelpPage.lines (p : HelpPage) (columns : Nat) : List String :=
  let width := helpWidth columns
  p.usageLines width ++ [""] ++
    (if p.purpose = "" then [] else helpText width p.purpose ++ [""]) ++
    ["positional arguments:"] ++ p.arguments.flatMap (·.lines width) ++ [""] ++
    ["options:"] ++ p.options.flatMap (·.lines width)

def HelpPage.text (p : HelpPage) (columns : Nat) : String :=
  String.join ((p.lines columns).map (· ++ "\n"))

end CommandLine
end AnalysisPlan
