import AnalysisPlan.Expression.Number

/-!
# Expressions

What the tokens of an expression make up. Of an expression that is no literal only as
much is kept as messages about it need: the name of its form, and which part of it it is
that cannot be given a value.
-/

namespace AnalysisPlan
namespace Expression

/-- A constant. Of texts and bytes only the kind counts. -/
inductive Constant where
  | number (n : Number)
  | text
  | bytes
  | nothing
  | truth (b : Bool)
  | ellipsis
deriving Repr, DecidableEq

def Constant.formName : Constant → String
  | nothing => "None"
  | truth true => "True"
  | truth false => "False"
  | ellipsis => "ellipsis"
  | _ => "literal"

/-- The forms of expressions of which nothing else counts. -/
inductive Form where
  | operation
  | member
  | function
  | conditional
  | named
  | yielded
  | awaited
  | generator
  | setComprehension
  | dictComprehension
  | template
deriving Repr, DecidableEq

def Form.name : Form → String
  | operation => "expression"
  | member => "attribute"
  | function => "lambda"
  | conditional => "conditional expression"
  | named => "named expression"
  | yielded => "yield expression"
  | awaited => "await expression"
  | generator => "generator expression"
  | setComprehension => "set comprehension"
  | dictComprehension => "dict comprehension"
  | template => "f-string expression"

/-- An expression. A dictionary has keys and values by turns, and in place of a key
nothing where another dictionary is unpacked. A call is bare if it has no arguments. -/
inductive Expr where
  | constant (c : Constant)
  | name (s : String)
  | tuple (elements : List Expr)
  | set (elements : List Expr)
  | dict (keysAndValues : List Expr)
  | call (function : Expr) (isBare : Bool)
  | signed (negative : Bool) (e : Expr)
  | sum (negative : Bool) (left right : Expr)
  | comparison (left : Expr) (isMembership : Bool)
  | starred (e : Expr)
  | other (form : Form)
  | nothing
deriving Repr

namespace Expr

def formName : Expr → String
  | constant c => c.formName
  | name _ => "name"
  | tuple _ => "tuple"
  | set _ => "set display"
  | dict _ => "dict literal"
  | call _ _ => "function call"
  | signed _ _ => "expression"
  | sum _ _ _ => "expression"
  | comparison _ _ => "comparison"
  | starred _ => "starred"
  | other form => form.name
  | nothing => "nothing"

mutual

/-- The first part of an expression that cannot be given a value by a loop. A membership
test is a target with what the loop runs over. -/
def unfitTarget? : Expr → Option Expr
  | tuple elements => firstUnfitTarget? elements
  | starred e => unfitTarget? e
  | comparison left isMembership => if isMembership then unfitTarget? left else none
  | name _ => none
  | other .member => none
  | e => some e

/-- The first part of some expressions that cannot be given a value by a loop. -/
def firstUnfitTarget? : List Expr → Option Expr
  | [] => none
  | e :: rest => (unfitTarget? e).or (firstUnfitTarget? rest)

end

end Expr

/-- The arguments of a call: how many have no name, how many have one, and whether names
are unpacked among them. -/
structure Arguments where
  unnamed : Nat
  named : Nat
  unpacks : Bool
deriving Repr, DecidableEq

/-- What a part of the grammar makes of the tokens it takes. -/
inductive Tree where
  | nothing
  | token (t : Token)
  | expr (e : Expr)
  | list (ts : List Tree)
  | argument (isNamed unpacks : Bool)
  | arguments (a : Arguments)
deriving Repr

namespace Tree

def toExpr : Tree → Expr
  | expr e => e
  | _ => .nothing

def toList : Tree → List Tree
  | list ts => ts
  | _ => []

def chars : Tree → List Char
  | token t => t.chars
  | _ => []

end Tree
end Expression
end AnalysisPlan
