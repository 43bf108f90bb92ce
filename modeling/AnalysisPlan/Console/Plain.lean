import AnalysisPlan.Console.Message
import AnalysisPlan.Text.Pieces

/-!
# The plain console

Messages as plain lines. In a table a column is as wide as its longest entry or
its header, counted in characters; every line below the title is as long as the
others. Entries without a header are left out.

A number that is shown must not have too many digits (`Plain.printable`).
-/

namespace AnalysisPlan
namespace Console
namespace Plain

def line (s : List Char) : List Char := s ++ ['\n']

def entry (row : List (List Char)) (column : Nat) : List Char := row[column]?.getD []

def columnWidth (rows : List (List (List Char))) (column : Nat) : Nat :=
  (rows.map fun row => (entry row column).length).foldl max 0

def columnWidths (headers : List (List Char)) (rows : List (List (List Char))) : List Nat :=
  (List.range headers.length).map (columnWidth (headers :: rows))

def gap : List Char := [' ', ' ']

def tableLine (columns : List (List Char)) : List Char :=
  gap ++ gap.intercalate columns

/-- A row, filled up to the widths of its columns. -/
def rowLine (widths : List Nat) (row : List (List Char)) : List Char :=
  tableLine (widths.mapIdx fun i w => Text.padEnd w ' ' (entry row i))

def rulerLine (widths : List Nat) : List Char :=
  tableLine (widths.map fun w => List.replicate w '-')

def tableLines (headers : List (List Char)) (rows : List (List (List Char))) :
    List (List Char) :=
  let widths := columnWidths headers rows
  rowLine widths headers :: rulerLine widths :: rows.map (rowLine widths)

def titleLines (title : String) : List (List Char) :=
  if title = "" then [] else [[], "  ".toList ++ title.toList ++ [':']]

/-- The lines of pairs. The keys end in one column. -/
def pairLines (entries : List (String × String)) : List (List Char) :=
  let size := (entries.map fun e => e.1.toList.length).foldl max 0
  entries.map fun e => gap ++ Text.padStart size ' ' e.1.toList ++ ": ".toList ++ e.2.toList

def lines : Message → List (List Char)
  | .info text => ["  ".toList ++ text.toList]
  | .success text => ["  [ok] ".toList ++ text.toList]
  | .warning text => ["  [warn] ".toList ++ text.toList]
  | .error text => ["  [error] ".toList ++ text.toList]
  | .raw text => [text.toList]
  | .step current total description =>
    [[], s!"  [{current}/{total}] {description}".toList]
  | .stepDetail text => ["    ".toList ++ text.toList]
  | .umbrella name dependencies =>
    [] :: ("  ".toList ++ name.toList) ::
      if dependencies.isEmpty then ["    (no dependencies)".toList]
      else dependencies.map fun d => "    - ".toList ++ d.toList
  | .table headers rows title =>
    titleLines title ++
      if headers.isEmpty && rows.isEmpty then []
      else tableLines (headers.map (·.toList)) (rows.map fun row => row.map (·.chars))
  | .pairs entries title => titleLines title ++ pairLines entries

/-- Whether all numbers that are shown of a message can be printed. Entries without a header
are not shown. -/
def printable : Message → Bool
  | .table headers rows _ => rows.all fun row => (row.take headers.length).all (!·.isOverlong)
  | m => !m.countsOverlong

def write (m : Message) : String := String.ofList ((lines m).flatMap line)

@[simp] theorem length_columnWidths (headers : List (List Char))
    (rows : List (List (List Char))) :
    (columnWidths headers rows).length = headers.length := by
  simp [columnWidths]

end Plain
end Console
end AnalysisPlan
