import AnalysisPlan.Json.Reader
import AnalysisPlan.Path

/-!
# A tree of files

Files with their contents, and directories. A directory is there if it is listed
or if something is below it, and the root always is. Looking a path up walks its
names one by one: a name that is not there ends the walk, so does going on
through a file, and `..` leads to the parent of the directory reached so far.
A path with a null character leads nowhere.

What a system makes of a path depends on more than its files: a name may be too
long for it, a directory closed, or a link lead back to itself. That is left to the
system, which may refuse any path (`FileTree.refuses`). Some refusals mean that
nothing is there. To a question whether a path is there, any other refusal is no
answer, and the question is denied (`FileTree.denial`). How deep the containers of a
text may stand inside each other depends on the system as well.
-/

namespace AnalysisPlan

/-- Why a system refuses a path. -/
inductive Refusal where
  | missing
  | notADirectory
  | isADirectory
  | nameTooLong
  | permissionDenied
  | linkLoop
  | other (number : Nat) (words : String)
deriving Repr, DecidableEq

namespace Refusal

def message : Refusal → String
  | missing => "No such file or directory"
  | notADirectory => "Not a directory"
  | isADirectory => "Is a directory"
  | nameTooLong => "File name too long"
  | permissionDenied => "Permission denied"
  | linkLoop => "Too many levels of symbolic links"
  | other _ words => words

/-- The number that the system gives to a refusal. -/
def number : Refusal → Nat
  | missing => 2
  | permissionDenied => 13
  | notADirectory => 20
  | isADirectory => 21
  | nameTooLong => 36
  | linkLoop => 40
  | other number _ => number

/-- Whether a refused path counts as one with nothing there. The number 9 is that of a
file that was closed. -/
def meansAbsent (r : Refusal) : Bool := [2, 9, 20, 40].contains r.number

end Refusal

/-- A question about a path that got no answer. -/
structure Denial where
  path : String
  refusal : Refusal
deriving Repr, DecidableEq

/-- What stands at a location. -/
inductive FileNode where
  | file (bytes : List UInt8)
  | directory
deriving Repr, DecidableEq

/-- Files with their contents, directories that may be empty, and what else the system
decides: the paths that it refuses from a directory, and how deep the containers of a
text may be nested. -/
structure FileTree where
  files : List (Location × List UInt8) := []
  directories : List Location := []
  refuses : Location → Path → Option Refusal := fun _ _ => none
  nesting : Nat := Json.usualNesting

namespace FileTree

def nodeAt? (tree : FileTree) (l : Location) : Option FileNode :=
  match tree.files.lookup l with
  | some bytes => some (.file bytes)
  | none =>
    if l = [] ∨ tree.directories.any (l.isPrefixOf ·) ∨
        tree.files.any (fun f => l.isPrefixOf f.1) then
      some .directory
    else none

def walk (tree : FileTree) : Location → List String → Except Refusal FileNode
  | _, [] => .ok .directory
  | l, name :: names =>
    if name = ".." then walk tree l.dropLast names
    else
      match tree.nodeAt? (l ++ [name]) with
      | none => .error .missing
      | some .directory => walk tree (l ++ [name]) names
      | some (.file bytes) => if names = [] then .ok (.file bytes) else .error .notADirectory

/-- What a path leads to from the current directory. -/
def find (tree : FileTree) (current : Location) (p : Path) : Except Refusal FileNode :=
  if p.hasNull then .error .missing
  else
    match tree.refuses current p with
    | some refusal => .error refusal
    | none => tree.walk (if p.start = .current then current else []) p.names

def contains (tree : FileTree) (current : Location) (p : Path) : Bool :=
  match tree.find current p with
  | .ok _ => true
  | .error _ => false

/-- The bytes of the file a path leads to. -/
def read (tree : FileTree) (current : Location) (p : Path) : Except Refusal (List UInt8) :=
  match tree.find current p with
  | .ok (.file bytes) => .ok bytes
  | .ok .directory => .error .isADirectory
  | .error refusal => .error refusal

/-- Whether a path text names something, relative ones being read from `base`. -/
def present (tree : FileTree) (base : Location) (path : String) : Bool :=
  tree.contains [] ((Path.ofLocation base).append (Path.ofText path))

/-- Why the question whether a path text names something gets no answer, if it gets
none. -/
def denial (tree : FileTree) (base : Location) (path : String) : Option Denial :=
  let p := (Path.ofLocation base).append (Path.ofText path)
  match tree.find [] p with
  | .ok _ => none
  | .error refusal => if refusal.meansAbsent then none else some ⟨p.text, refusal⟩

/-- The tree after a file was opened to write behind what it holds. A file that was not
there is empty then. -/
def opening (tree : FileTree) (l : Location) : FileTree :=
  match tree.nodeAt? l with
  | some _ => tree
  | none => { tree with files := (l, []) :: tree.files }

end FileTree

end AnalysisPlan
