import AnalysisPlan.Expression.Basic

/-!
# Parts of a grammar

A grammar as data. A rule has alternatives, which are tried in order, and an alternative
has parts, which follow each other; what the parts take is made into one tree. There are
rules for expressions and rules for common mistakes. Mistakes are looked for only after a
text was found to be no expression, unless a rule names a mistake outright.
-/

namespace AnalysisPlan
namespace Expression

/-- The rules for expressions. -/
inductive Rule where
  | whole
  | field
  | expressions
  | expression
  | yieldExpression
  | starExpressions
  | starExpression
  | starNamedExpressions
  | starNamedExpression
  | assignment
  | namedExpression
  | disjunction
  | conjunction
  | inversion
  | comparison
  | comparisonPair
  | bitwiseOr
  | bitwiseXor
  | bitwiseAnd
  | shift
  | sum
  | term
  | factor
  | power
  | awaited
  | primary
  | atom
  | quotations
  | group
  | tuple
  | set
  | dict
  | pairs
  | pairOrUnpacking
  | pair
  | lambda
  | parameters
  | parameterList
  | slashPlain
  | slashDefault
  | starParameters
  | doubleStarParameter
  | plainParameter
  | defaultParameter
  | eitherParameter
  | parameterName
  | defaultValue
  | clauses
  | clause
  | generator
  | setComprehension
  | dictComprehension
  | arguments
  | argumentList
  | keywordArguments
  | starred
  | keywordOrStarred
  | keywordOrDoubleStarred
  | targets
  | target
  | targetAtom
  | targetWord
  | targetTuple
  | targetPrimary
  | behindTarget
deriving Repr, DecidableEq

/-- The rules for mistakes. -/
inductive Mistake where
  | expression
  | plainExpression
  | legacyCall
  | named
  | group
  | pairs
  | pair
  | comprehension
  | dictComprehension
  | loopTarget
  | arguments
  | keywordArgument
  | parameters
  | defaults
  | defaultValue
  | starParameters
  | doubleStarParameter
deriving Repr, DecidableEq

/-- The name of a rule. -/
inductive RuleName where
  | rule (r : Rule)
  | mistake (m : Mistake)
deriving Repr, DecidableEq

/-- A part of a rule. Some parts take no tokens: a look ahead, the question whether the
last token stands in brackets, and a cut, behind which no other alternative is tried. -/
inductive RulePart where
  | mark (s : String)
  | kind (k : TokenKind)
  | softKeyword
  | quoted
  | named (r : RuleName)
  | optional (p : RulePart)
  | many (p : RulePart)
  | several (p : RulePart)
  | separated (p : RulePart)
  | choice (ps : List RulePart)
  | row (ps : List RulePart)
  | ahead (p : RulePart)
  | notAhead (p : RulePart)
  | inBrackets
  | cut
deriving Repr

/-- What an alternative makes of what its parts took: a tree, or nothing, and then its
rule has failed, or a fault. -/
inductive Meaning where
  | tree (t : Tree)
  | nothing
  | fault (f : GrammarFault)
deriving Repr

/-- An alternative of a rule. A guarded one is tried only where mistakes are looked for. -/
structure Branch where
  parts : List RulePart
  make : List Tree → Meaning
  isGuarded : Bool := false

namespace RulePart

def rule (r : Rule) : RulePart := named (.rule r)

def mistake (m : Mistake) : RulePart := named (.mistake m)

def anyMark (marks : List String) : RulePart := choice (marks.map mark)

def behindComma (p : RulePart) : RulePart := row [mark ",", p]

end RulePart

namespace Branch

/-- What one part takes, as it is. -/
def pass (p : RulePart) : Branch where
  parts := [p]
  make ts := .tree (ts.headD .nothing)

def taking (place : Nat) (parts : List RulePart) : Branch where
  parts
  make ts := .tree (ts[place]?.getD .nothing)

def expr (parts : List RulePart) (make : List Tree → Expr) : Branch where
  parts
  make ts := .tree (.expr (make ts))

/-- Parts that make up an expression of which only the form counts. -/
def form (parts : List RulePart) (f : Form) : Branch := expr parts fun _ => .other f

def skip (parts : List RulePart) : Branch where
  parts
  make _ := .tree .nothing

/-- A mistake that may have been made. -/
def guarded (m : Mistake) : Branch where
  parts := [.mistake m]
  make ts := .tree (ts.headD .nothing)
  isGuarded := true

def fault (parts : List RulePart) (f : GrammarFault) : Branch where
  parts
  make _ := .fault f

end Branch

def treeAt (ts : List Tree) (place : Nat) : Tree := ts[place]?.getD .nothing

def exprAt (ts : List Tree) (place : Nat) : Expr := (treeAt ts place).toExpr

/-- The expressions of a list that stands at a place of some trees. -/
def exprsAt (ts : List Tree) (place : Nat) : List Expr :=
  (treeAt ts place).toList.map Tree.toExpr

/-- The expressions behind commas of a list that stands at a place of some trees. -/
def exprsBehindCommas (ts : List Tree) (place : Nat) : List Expr :=
  (treeAt ts place).toList.map fun t => exprAt t.toList 1

end Expression
end AnalysisPlan
