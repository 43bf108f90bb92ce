import AnalysisPlan.Text.Pieces

/-!
# Paths

A path is a starting point and the names along it; empty names and `.` never
count, while `..` is kept, since dropping it would change what the path means
where a name on the way is not a directory. Two slashes at the front are a
starting point of their own.

A `Location` is a place in the tree of directories: the names from the root down,
none of them empty, `.` or `..`. Resolving a path against the current directory
gives its location without looking at what is there.

`joinPath` puts two texts together as path texts and normalises nothing; it is
what destinations under a configured directory are built with.
-/

namespace AnalysisPlan

/-- Two path texts put together. An absolute second one replaces the first. -/
def joinPath (dir name : String) : String :=
  if name.toList.head? = some '/' then name
  else if dir.toList = [] ∨ dir.toList.getLast? = some '/' then dir ++ name
  else dir ++ "/" ++ name

def joinPaths (dir : String) (names : List String) : String := names.foldl joinPath dir

/-- A place in the tree of directories, from the root down. -/
abbrev Location := List String

/-- Where a path starts. -/
inductive PathStart where
  | current
  | root
  | doubleRoot
deriving Repr, DecidableEq

/-- A starting point and the names along the way. -/
structure Path where
  start : PathStart
  names : List String
deriving Repr, DecidableEq

namespace Path

/-- The names between the slashes of a path text, without empty ones and `.`. -/
def namesOf (text : List Char) : List String :=
  ((Text.split '/' text).map String.ofList).filter fun n => n != "" && n != "."

def ofText (text : String) : Path :=
  match text.toList with
  | '/' :: '/' :: '/' :: rest => ⟨.root, namesOf rest⟩
  | '/' :: '/' :: rest => ⟨.doubleRoot, namesOf rest⟩
  | '/' :: rest => ⟨.root, namesOf rest⟩
  | chars => ⟨.current, namesOf chars⟩

def startText : PathStart → String
  | .current => ""
  | .root => "/"
  | .doubleRoot => "//"

/-- The text of a path. The current directory itself is `.`. -/
def text (p : Path) : String :=
  if p.start = .current ∧ p.names = [] then "."
  else startText p.start ++ String.intercalate "/" p.names

def hasNull (p : Path) : Bool := p.names.any (·.toList.contains '\x00')

/-- The path followed by another one; an absolute one replaces it. -/
def append (p q : Path) : Path :=
  if q.start = .current then ⟨p.start, p.names ++ q.names⟩ else q

def ofLocation (l : Location) : Path := ⟨.root, l⟩

/-- One name further: `..` leads to the parent, and the root is its own parent. -/
def step (l : Location) (name : String) : Location :=
  if name = ".." then l.dropLast else l ++ [name]

/-- The location a path leads to from the current directory. -/
def resolve (current : Location) (p : Path) : Location :=
  p.names.foldl step (if p.start = .current then current else [])

end Path

def locationText (l : Location) : String := (Path.ofLocation l).text

end AnalysisPlan
