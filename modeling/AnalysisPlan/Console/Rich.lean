import AnalysisPlan.Console.Grid
import AnalysisPlan.Console.Markup
import AnalysisPlan.Console.Message
import AnalysisPlan.Console.Plain

/-!
# The rich console

Messages with markup, laid out for a screen of some width. Nothing but the text
and its layout is left of what the markup says. The frame that a message puts
around a text is markup itself, so a text that ends in a backslash takes the mark
behind it for its own.

Entries of tables are read column by column, and a title after them, so of
several faults in a table the first in that order counts. Before that, a table
with a number in it is refused as a whole: its entries must be texts. The numbers of
steps are printed before anything is read. How the texts
look is looked at last, in the order in which they are shown, and only where they are.
-/

namespace AnalysisPlan
namespace Console
namespace Rich

open Markup (MarkupFault)

/-- Why a message cannot be shown. -/
inductive DisplayFault where
  | markup (f : MarkupFault)
  | numberInTable
  | overlongNumber
deriving Repr, DecidableEq

def DisplayFault.message : DisplayFault → String
  | markup f => f.message
  | numberInTable =>
    "unable to render int; a string or other renderable object is required"
  | overlongNumber => Text.overlongMessage

def block (lines : List (List Char)) : List Char := lines.flatMap (· ++ ['\n'])

/-- The lines of something with markup. A screen without cells has no lines. -/
def paragraph (columns : Nat) (markup : String) : Except MarkupFault (List (List Char)) := do
  let text ← Markup.read markup.toList
  if columns = 0 then return []
  Markup.checkLooks
    (text.shown .fold columns fun line => Wrap.fit .fold columns (Wrap.dropExcess columns line))
  return Wrap.wrap columns text.chars

/-- What stands before the lines of a branch. -/
def branchMarks (isLast : Bool) : List Char × List Char :=
  if isLast then ("└── ".toList, "    ".toList) else ("├── ".toList, "│   ".toList)

def branch (isLast : Bool) : List (List Char) → List (List Char)
  | [] => []
  | first :: others =>
    ((branchMarks isLast).1 ++ first) :: others.map ((branchMarks isLast).2 ++ ·)

def branches : List (List (List Char)) → List (List Char)
  | [] => []
  | [b] => branch true b
  | b :: bs => branch false b ++ branches bs

/-- The lines of a name with what hangs below it. What has no room beside the marks of
a branch is not looked at. -/
def tree (columns : Nat) (name : String) (dependencies : List String) :
    Except MarkupFault (List (List Char)) := do
  let root ← paragraph columns s!"[task]{name}[/]"
  if columns ≤ 4 then return root
  let below ←
    (if dependencies.isEmpty then ["[dim](no dependencies)[/]"] else dependencies).mapM
      (paragraph (columns - 4))
  return root ++ branches below

/-- The lines of a grid below its title, cut where the screen ends. A grid without columns
is an empty line. One without rows or headers has no lines; its title then stands in the
middle of the screen. -/
def titled (screen : Nat) (title : String) (grid : List Column) :
    Except MarkupFault (List (List Char)) := do
  if grid.isEmpty then return [[]]
  let width := Grid.width screen grid
  let title ← if title = "" then pure none else some <$> Markup.read title.toList
  Markup.checkLooks
    (title.toList.flatMap (Grid.titleStretches width) ++ Grid.stretches screen grid)
  return (title.toList.flatMap (Grid.titleLines width) ++ Grid.lines screen grid).map
    (Wrap.fit .fold screen)

/-- Reads the text of an entry. Where columns have no room for any text, it is not even
looked at. -/
def entry (room : Nat) (markup : List Char) : Except MarkupFault Marked :=
  if room ≤ 2 then .ok ⟨[], []⟩ else Markup.read markup

/-- The columns of a table. Rows may have more entries than there are headers. -/
def tableColumns (screen : Nat) (headers : List String) (rows : List (List Cell)) :
    Except MarkupFault (List Column) :=
  let count := (rows.map List.length).foldl max headers.length
  let entry := entry (screen - (count - 1))
  (List.range count).mapM fun i => do
    let header ← entry (headers[i]?.getD "").toList
    let entries ← rows.mapM fun row => entry ((row[i]?.map Cell.chars).getD [])
    return { header := some header, entries }

def pairColumns (screen : Nat) (pairs : List (String × String)) :
    Except MarkupFault (List Column) := do
  let entry := entry (screen - 1)
  let keys ← pairs.mapM fun e => entry e.1.toList
  let values ← pairs.mapM fun e => entry e.2.toList
  return [{ alignment := .right, entries := keys }, { entries := values }]

/-- The lines of a message whose tables hold texts only. -/
def lines (columns : Nat) : Message → Except MarkupFault (List (List Char))
  | .info text => paragraph columns s!"  {text}"
  | .success text => paragraph columns s!"  ✓ {text}"
  | .warning text => paragraph columns s!"  ⚠ {text}"
  | .error text => paragraph columns s!"  ✗ {text}"
  | .raw text => .ok (Wrap.unbroken columns (Wrap.visible text.toList))
  | .step current total description =>
    paragraph columns s!"\n  [step.num]\\[{current}/{total}][/] {description}"
  | .stepDetail text => paragraph columns s!"    [dim]{text}[/]"
  | .umbrella name dependencies => do
    return [] :: (← tree columns name dependencies)
  | .table headers rows title => do
    titled columns title (← tableColumns columns headers rows)
  | .pairs entries title => do
    titled columns title (← pairColumns columns entries)

/-- The text of a message. A screen without cells shows nothing; what is no single text
is then not even looked at. -/
def write (columns : Nat) (m : Message) : Except DisplayFault String :=
  if m.hasNumber then .error .numberInTable
  else if m.countsOverlong then .error .overlongNumber
  else if columns = 0 ∧ !m.isText then .ok ""
  else
    match lines columns m with
    | .ok ls => .ok (String.ofList (block ls))
    | .error f => .error (.markup f)

end Rich

/-- The text of a message on a backend with a screen of the given width. -/
def Backend.write (b : Backend) (columns : Nat) (m : Message) :
    Except Rich.DisplayFault String :=
  match b with
  | .plain => if Plain.printable m then .ok (Plain.write m) else .error .overlongNumber
  | .rich => Rich.write columns m

end Console
end AnalysisPlan
