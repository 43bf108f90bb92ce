import AnalysisPlan.Expression.Grammar.Mistakes

/-!
# Reading by a grammar

Tokens are read by the rules of a grammar: of the alternatives of a rule the first one
counts whose parts can be taken one behind the other, and what it took is not taken back
later. A rule that may begin with itself takes more and more, as long as it can begin with
what it took before. What some rules took at a place is remembered.

The tokens are looked at one by one. Where there are none any more, the fault that ended
them comes up as soon as one is looked for, and not before; how many were looked at is
known at the end.
-/

namespace AnalysisPlan
namespace Expression

/-- Why a reading breaks off: there is no token where one is looked for, or what was read
is at fault. -/
inductive Halt where
  | token (f : Fault)
  | fault (f : Fault)
deriving Repr, DecidableEq

/-- What a rule took at a place: its tree, if it took something, and the place behind. -/
structure Remembered where
  name : RuleName
  tree : Option Tree
  place : Nat
deriving Repr

/-- The state of a reading: the place of the next token, how many tokens were looked at,
and what is remembered of each place. -/
structure Progress where
  place : Nat := 0
  seen : Nat := 0
  remembered : Array (List Remembered)

/-- What is read: the tokens, the fault of looking for one more, how faults are told, the
meaning of quoted texts side by side, and whether mistakes are looked for. -/
structure Source where
  tokens : Array Token
  ending : Fault
  told : Fault → Fault
  quotation : List Token → Except Fault Expr
  findsMistakes : Bool

/-- A reading, which keeps its state also where it breaks off. -/
abbrev Reading := ReaderT Source (EStateM Halt Progress)

namespace Reading

def place : Reading Nat := return (← get).place

def goTo (place : Nat) : Reading Unit := modify fun p => { p with place }

/-- Looks at the next token. -/
def peek : Reading Token := do
  let p ← get
  match (← read).tokens[p.place]? with
  | some t =>
    set { p with seen := max p.seen (p.place + 1) }
    return t
  | none => throw (.token (← read).ending)

/-- Takes the next token if it passes a test. -/
def takeIf (test : Token → Bool) : Reading (Option Tree) := do
  let t ← peek
  if test t then
    modify fun p => { p with place := p.place + 1 }
    return some (.token t)
  else return none

/-- Goes back to where it began after a reading that took nothing. -/
def orBack (r : Reading (Option Tree)) : Reading (Option Tree) := do
  let start ← place
  match ← r with
  | some t => return some t
  | none =>
    goTo start
    return none

/-- Looks whether something could be taken. -/
def succeeds (r : Reading (Option Tree)) : Reading Bool := do
  let start ← place
  let taken ← r
  goTo start
  return taken.isSome

/-- Takes something as often as it can be taken, at most `n` times. -/
def repeated (r : Reading (Option Tree)) : Nat → Reading (List Tree)
  | 0 => return []
  | n + 1 => do
    match ← orBack r with
    | some t => return t :: (← repeated r n)
    | none => return []

/-- A bound for how often something can be tried to be taken one behind the other. -/
def bound : Reading Nat := return (← read).tokens.size + 1

def behindComma (r : Reading (Option Tree)) : Reading (Option Tree) := do
  match ← takeIf fun t => t.kind == .mark && t.chars == [','] with
  | some _ => r
  | none => return none

/-- What several things one behind the other make up, if each of them can be taken. -/
def listOf (rs : Reading (Option (List Tree))) : Reading (Option Tree) :=
  return (← rs).map .list

/-- Takes quoted texts side by side. -/
def takeQuoted : Reading (Option Tree) := do
  let ts ← repeated (takeIf (·.kind == .quoted)) (← bound)
  if ts.isEmpty then return none
  let tokens := ts.filterMap fun t => match t with | .token t => some t | _ => none
  match (← read).quotation tokens with
  | .ok e => return some (.expr e)
  | .error f => throw (.fault f)

mutual

/-- Takes a part, given how rules are read. -/
def part (rule : RuleName → Reading (Option Tree)) : RulePart → Reading (Option Tree)
  | .mark s => takeIf fun t => t.kind == .mark && t.chars == s.toList
  | .kind k => takeIf (·.kind == k)
  | .softKeyword => takeIf fun t => t.kind == .name && beginsSoftKeyword t.chars
  | .quoted => takeQuoted
  | .named r => rule r
  | .optional p => return some ((← orBack (part rule p)).getD .nothing)
  | .many p => return some (.list (← repeated (part rule p) (← bound)))
  | .several p => do
    let ts ← repeated (part rule p) (← bound)
    return if ts.isEmpty then none else some (.list ts)
  | .separated p => do
    match ← part rule p with
    | none => return none
    | some first =>
      return some (.list (first :: (← repeated (behindComma (part rule p)) (← bound))))
  | .choice ps => choice rule ps
  | .row ps => listOf (return (← parts rule ps).2)
  | .ahead p => return if ← succeeds (part rule p) then some .nothing else none
  | .notAhead p => return if ← succeeds (part rule p) then none else some .nothing
  | .inBrackets => do
    let last := (← read).tokens[(← place) - 1]?
    return if last.any (·.depth != 0) then some .nothing else none
  | .cut => return some .nothing

/-- Takes the first of some parts that can be taken. -/
def choice (rule : RuleName → Reading (Option Tree)) : List RulePart → Reading (Option Tree)
  | [] => return none
  | p :: ps => do
    match ← orBack (part rule p) with
    | some t => return some t
    | none => choice rule ps

/-- Takes some parts one behind the other. Tells whether it came to a cut. -/
def parts (rule : RuleName → Reading (Option Tree)) :
    List RulePart → Reading (Bool × Option (List Tree))
  | [] => return (false, some [])
  | p :: ps => do
    match ← part rule p with
    | none => return (false, none)
    | some t =>
      let (isCut, ts) ← parts rule ps
      return (isCut || p matches .cut, ts.map (t :: ·))

end

/-- Takes the first of some alternatives whose parts can be taken. -/
def firstOf (rule : RuleName → Reading (Option Tree)) :
    List Branch → Reading (Option Tree)
  | [] => return none
  | b :: bs => do
    if b.isGuarded && !(← read).findsMistakes then firstOf rule bs
    else
      let start ← place
      match ← parts rule b.parts with
      | (_, some ts) =>
        match b.make ts with
        | .tree t => return some t
        | .nothing => return none
        | .fault f => throw (.fault ((← read).told (.grammar f)))
      | (isCut, none) =>
        goTo start
        if isCut then return none else firstOf rule bs

def remembered? (name : RuleName) : Reading (Option Remembered) := do
  let _ ← peek
  let p ← get
  return (p.remembered[p.place]?.getD []).find? (·.name = name)

/-- Remembers what a rule took at a place up to where the reading is now. -/
def remember (name : RuleName) (start : Nat) (tree : Option Tree) : Reading Unit :=
  modify fun p =>
    { p with
      remembered := p.remembered.modify start fun known =>
        ⟨name, tree, p.place⟩ :: known.filter (·.name ≠ name) }

/-- Takes what a rule took before, or else what is read now, and remembers it. -/
def remembering (name : RuleName) (r : Reading (Option Tree)) : Reading (Option Tree) := do
  match ← remembered? name with
  | some known =>
    goTo known.place
    return known.tree
  | none =>
    let start ← place
    let taken ← r
    remember name start taken
    return taken

/-- Takes more and more from a place on, with what was taken before being remembered, as
long as it gets longer. -/
def growing (name : RuleName) (r : Reading (Option Tree)) (start : Nat) :
    Nat → Option Tree → Nat → Reading (Option Tree)
  | 0, best, stop => do
    goTo stop
    return best
  | n + 1, best, stop => do
    remember name start best
    goTo start
    let taken ← r
    let now ← place
    if taken.isSome ∧ stop < now then growing name r start n taken now
    else
      goTo stop
      return best

/-- Takes what a rule takes that may begin with itself. -/
def leftRecursive (name : RuleName) (r : Reading (Option Tree)) : Reading (Option Tree) := do
  match ← remembered? name with
  | some known =>
    goTo known.place
    return known.tree
  | none =>
    let start ← place
    growing name r start ((← bound) + 1) none start

/-- Takes what a rule takes. Rules may be `n` deep within each other. -/
def rule : Nat → RuleName → Reading (Option Tree)
  | 0, _ => throw (.token (.grammar .nestedTooDeeply))
  | n + 1, name =>
    let plain := firstOf (rule n) name.alternatives
    if name.isLeftRecursive then leftRecursive name plain
    else if name.isRemembered then remembering name plain
    else if name.isPlain then
      withReader (fun s => { s with findsMistakes := false }) plain
    else plain

def maxDepth : Nat := 6000

end Reading
end Expression
end AnalysisPlan
