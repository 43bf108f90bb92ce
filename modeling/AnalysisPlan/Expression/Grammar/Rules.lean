import AnalysisPlan.Expression.Grammar.RulePart

/-!
# The grammar of expressions

The alternatives of the rules for expressions, from operators that bind loosely to those
that bind tightly, and then what stands in brackets. Square brackets cannot stand where
these expressions are written, so nothing is said of lists and subscripts.
-/

namespace AnalysisPlan
namespace Expression
namespace Rule

open RulePart (mark kind rule optional many several separated choice row ahead notAhead
  behindComma anyMark)
open Branch (pass taking expr form skip guarded)

def unnamed : RulePart := row [rule expression, notAhead (mark ":=")]

def nameable : RulePart := choice [rule assignment, unnamed]

/-- An expression, or the first one that a choice between two took. -/
def ungrouped : Tree → Tree
  | .list (t :: _) => t
  | t => t

def binary (left : Rule) (operator : String) (right : Rule) : Branch :=
  form [rule left, mark operator, rule right] .operation

/-- Operands of one rule joined by a word. -/
def chain (operand : Rule) (word : String) : List Branch :=
  [form [rule operand, several (row [mark word, rule operand])] .operation,
   pass (rule operand)]

/-- Expressions of one rule separated by commas. One of them without a comma stands for
itself. -/
def listOf (element : Rule) : List Branch :=
  [expr [rule element, several (behindComma (rule element)), optional (mark ",")] fun ts =>
     .tuple (exprAt ts 0 :: exprsBehindCommas ts 1),
   expr [rule element, mark ","] fun ts => .tuple [exprAt ts 0],
   pass (rule element)]

def compared (operator : List String) : Branch :=
  taking 0 (operator.map mark ++ [rule bitwiseOr])

def loop (words : List String) : Branch :=
  skip (words.map mark ++
    [rule targets, mark "in", .cut, rule disjunction,
     many (row [mark "if", rule disjunction])])

/-- The dictionary of the pairs that stand at a place of some trees. -/
def dictAt (ts : List Tree) (place : Nat) : Expr :=
  .dict ((treeAt ts place).toList.flatMap fun pair => exprsAt [pair] 0)

/-- The arguments of a call, of which some have no name, and the others are given. -/
def callArguments (count : Nat) (others : List Tree) : Tree :=
  let isNamed : Tree → Bool := fun t => match t with | .argument b _ => b | _ => false
  let unpacks : Tree → Bool := fun t => match t with | .argument _ b => b | _ => false
  .arguments
    { unnamed := count + others.countP (!isNamed ·), named := others.countP isNamed,
      unpacks := others.any unpacks }

def called : List RulePart := [mark "(", optional (rule arguments), mark ")"]

/-- The alternatives of a rule for expressions. -/
def alternatives : Rule → List Branch
  | whole =>
    [taking 0 [rule expressions, many (kind .lineEnd), kind .textEnd]]
  | field => [pass (rule starExpressions)]
  | expressions => listOf expression
  | expression =>
    [guarded .expression, guarded .legacyCall,
     form [rule disjunction, mark "if", rule disjunction, mark "else", rule expression]
       .conditional,
     pass (rule disjunction), pass (rule lambda)]
  | yieldExpression =>
    [form [mark "yield", mark "from", rule expression] .yielded,
     form [mark "yield", optional (rule starExpressions)] .yielded]
  | starExpressions => listOf starExpression
  | starExpression =>
    [expr [mark "*", rule bitwiseOr] fun ts => .starred (exprAt ts 1),
     pass (rule expression)]
  | starNamedExpressions =>
    [taking 0 [separated (rule starNamedExpression), optional (mark ",")]]
  | starNamedExpression =>
    [expr [mark "*", rule bitwiseOr] fun ts => .starred (exprAt ts 1),
     pass (rule namedExpression)]
  | assignment => [form [kind .name, mark ":=", .cut, rule expression] .named]
  | namedExpression =>
    [pass (rule assignment), guarded .named,
     taking 0 [rule expression, notAhead (mark ":=")]]
  | disjunction => chain conjunction "or"
  | conjunction => chain inversion "and"
  | inversion =>
    [form [mark "not", rule inversion] .operation, pass (rule comparison)]
  | comparison =>
    [expr [rule bitwiseOr, several (rule comparisonPair)] fun ts =>
       .comparison (exprAt ts 0) ((treeAt (treeAt ts 1).toList 0).chars == ['i', 'n']),
     pass (rule bitwiseOr)]
  | comparisonPair =>
    [compared ["=="], compared ["!="], compared ["<="], compared ["<"], compared [">="],
     compared [">"], compared ["not", "in"], compared ["in"], compared ["is", "not"],
     compared ["is"]]
  | bitwiseOr => [binary bitwiseOr "|" bitwiseXor, pass (rule bitwiseXor)]
  | bitwiseXor => [binary bitwiseXor "^" bitwiseAnd, pass (rule bitwiseAnd)]
  | bitwiseAnd => [binary bitwiseAnd "&" shift, pass (rule shift)]
  | shift => [binary shift "<<" sum, binary shift ">>" sum, pass (rule sum)]
  | sum =>
    [expr [rule sum, mark "+", rule term] fun ts => .sum false (exprAt ts 0) (exprAt ts 2),
     expr [rule sum, mark "-", rule term] fun ts => .sum true (exprAt ts 0) (exprAt ts 2),
     pass (rule term)]
  | term =>
    [binary term "*" factor, binary term "/" factor, binary term "//" factor,
     binary term "%" factor, binary term "@" factor, pass (rule factor)]
  | factor =>
    [expr [mark "+", rule factor] fun ts => .signed false (exprAt ts 1),
     expr [mark "-", rule factor] fun ts => .signed true (exprAt ts 1),
     form [mark "~", rule factor] .operation,
     pass (rule power)]
  | power =>
    [form [rule awaited, mark "**", rule factor] .operation, pass (rule awaited)]
  | awaited => [form [mark "await", rule primary] .awaited, pass (rule primary)]
  | primary =>
    [form [rule primary, mark ".", kind .name] .member,
     expr [rule primary, rule generator] fun ts => .call (exprAt ts 0) false,
     expr (rule primary :: called) fun ts =>
       .call (exprAt ts 0) (match treeAt ts 2 with | .nothing => true | _ => false),
     pass (rule atom)]
  | atom =>
    [expr [kind .name] fun ts => .name (String.ofList (treeAt ts 0).chars),
     expr [mark "True"] fun _ => .constant (.truth true),
     expr [mark "False"] fun _ => .constant (.truth false),
     expr [mark "None"] fun _ => .constant .nothing,
     taking 1 [ahead (kind .quoted), rule quotations],
     { parts := [kind .number],
       make := fun ts =>
         match Number.ofSpelling (treeAt ts 0).chars with
         | .ok n => .tree (.expr (.constant (.number n)))
         | .error f => .fault f },
     taking 1 [ahead (mark "("), choice [rule tuple, rule group, rule generator]],
     taking 1 [ahead (mark "\x7b"),
       choice [rule dict, rule set, rule dictComprehension, rule setComprehension]],
     expr [mark "..."] fun _ => .constant .ellipsis]
  | quotations => [pass .quoted]
  | group =>
    [taking 1 [mark "(", choice [rule yieldExpression, rule namedExpression], mark ")"],
     guarded .group]
  | tuple =>
    [expr [mark "(", optional (row [rule starNamedExpression, mark ",",
             optional (rule starNamedExpressions)]), mark ")"] fun ts =>
       match treeAt ts 1 with
       | .list elements => .tuple (exprAt elements 0 :: exprsAt elements 2)
       | _ => .tuple []]
  | set =>
    [expr [mark "\x7b", rule starNamedExpressions, mark "\x7d"] fun ts =>
       .set (exprsAt ts 1)]
  | dict =>
    [expr [mark "\x7b", optional (rule pairs), mark "\x7d"] fun ts => dictAt ts 1,
     skip [mark "\x7b", .mistake .pairs, mark "\x7d"]]
  | pairs => [taking 0 [separated (rule pairOrUnpacking), optional (mark ",")]]
  | pairOrUnpacking =>
    [{ parts := [mark "**", rule bitwiseOr],
       make := fun ts => .tree (.list [.nothing, treeAt ts 1]) },
     pass (rule pair)]
  | pair =>
    [{ parts := [rule expression, mark ":", rule expression],
       make := fun ts => .tree (.list [treeAt ts 0, treeAt ts 2]) }]
  | lambda =>
    [form [mark "lambda", optional (rule parameters), mark ":", rule expression] .function]
  | parameters => [guarded .parameters, pass (rule parameterList)]
  | parameterList =>
    [skip [rule slashPlain, many (rule plainParameter), many (rule defaultParameter),
       optional (rule starParameters)],
     skip [rule slashDefault, many (rule defaultParameter), optional (rule starParameters)],
     skip [several (rule plainParameter), many (rule defaultParameter),
       optional (rule starParameters)],
     skip [several (rule defaultParameter), optional (rule starParameters)],
     skip [rule starParameters]]
  | slashPlain =>
    [skip [several (rule plainParameter), mark "/", mark ","],
     skip [several (rule plainParameter), mark "/", ahead (mark ":")]]
  | slashDefault =>
    [skip [many (rule plainParameter), several (rule defaultParameter), mark "/", mark ","],
     skip [many (rule plainParameter), several (rule defaultParameter), mark "/",
       ahead (mark ":")]]
  | starParameters =>
    [guarded .starParameters,
     skip [mark "*", rule plainParameter, many (rule eitherParameter),
       optional (rule doubleStarParameter)],
     skip [mark "*", mark ",", several (rule eitherParameter),
       optional (rule doubleStarParameter)],
     skip [rule doubleStarParameter]]
  | doubleStarParameter =>
    [guarded .doubleStarParameter, skip [mark "**", rule plainParameter]]
  | plainParameter =>
    [skip [rule parameterName, mark ","], skip [rule parameterName, ahead (mark ":")]]
  | defaultParameter =>
    [skip [rule parameterName, rule defaultValue, mark ","],
     skip [rule parameterName, rule defaultValue, ahead (mark ":")]]
  | eitherParameter =>
    [skip [rule parameterName, optional (rule defaultValue), mark ","],
     skip [rule parameterName, optional (rule defaultValue), ahead (mark ":")]]
  | parameterName => [skip [kind .name]]
  | defaultValue => [skip [mark "=", rule expression], guarded .defaultValue]
  | clauses => [skip [several (rule clause)]]
  | clause => [loop ["async", "for"], loop ["for"], guarded .loopTarget]
  | generator =>
    [form [mark "(", nameable, rule clauses, mark ")"] .generator, guarded .comprehension]
  | setComprehension =>
    [form [mark "\x7b", rule namedExpression, rule clauses, mark "\x7d"] .setComprehension,
     guarded .comprehension]
  | dictComprehension =>
    [form [mark "\x7b", rule pair, rule clauses, mark "\x7d"] .dictComprehension,
     guarded .dictComprehension]
  | arguments =>
    [taking 0 [rule argumentList, optional (mark ","), ahead (mark ")")],
     guarded .arguments]
  | argumentList =>
    [{ parts :=
         [separated (choice
            [rule starred, row [nameable, notAhead (mark "=")]]),
          optional (behindComma (rule keywordArguments))],
       make := fun ts =>
         .tree (callArguments (treeAt ts 0).toList.length
           (treeAt (treeAt ts 1).toList 1).toList) },
     { parts := [rule keywordArguments],
       make := fun ts => .tree (callArguments 0 (treeAt ts 0).toList) }]
  | keywordArguments =>
    [{ parts := [separated (rule keywordOrStarred), mark ",",
         separated (rule keywordOrDoubleStarred)],
       make := fun ts => .tree (.list ((treeAt ts 0).toList ++ (treeAt ts 2).toList)) },
     pass (separated (rule keywordOrStarred)),
     pass (separated (rule keywordOrDoubleStarred))]
  | starred => [expr [mark "*", rule expression] fun ts => .starred (exprAt ts 1)]
  | keywordOrStarred =>
    [guarded .keywordArgument,
     { parts := [kind .name, mark "=", rule expression],
       make := fun _ => .tree (.argument true false) },
     { parts := [rule starred], make := fun _ => .tree (.argument false false) }]
  | keywordOrDoubleStarred =>
    [guarded .keywordArgument,
     { parts := [kind .name, mark "=", rule expression],
       make := fun _ => .tree (.argument true false) },
     { parts := [mark "**", rule expression],
       make := fun _ => .tree (.argument true true) }]
  | targets =>
    [skip [rule target, notAhead (mark ",")],
     skip [rule target, many (behindComma (rule target)), optional (mark ",")]]
  | target =>
    [skip [mark "*", row [notAhead (mark "*"), rule target]],
     pass (rule targetAtom)]
  | targetAtom =>
    [skip [rule targetPrimary, mark ".", kind .name, notAhead (rule behindTarget)],
     pass (rule targetWord)]
  | targetWord =>
    [skip [kind .name], skip [mark "(", rule targetAtom, mark ")"],
     skip [mark "(", optional (rule targetTuple), mark ")"]]
  | targetTuple =>
    [skip [rule target, several (behindComma (rule target)), optional (mark ",")],
     skip [rule target, mark ","]]
  | targetPrimary =>
    [skip [rule targetPrimary, mark ".", kind .name, ahead (rule behindTarget)],
     skip [rule targetPrimary, rule generator, ahead (rule behindTarget)],
     skip (rule targetPrimary :: called ++ [ahead (rule behindTarget)]),
     skip [rule atom, ahead (rule behindTarget)]]
  | behindTarget => [pass (anyMark ["(", "["]), pass (mark ".")]

/-- Whether a rule may begin with itself. -/
def isLeftRecursive : Rule → Bool
  | bitwiseOr => true
  | bitwiseXor => true
  | bitwiseAnd => true
  | shift => true
  | sum => true
  | term => true
  | primary => true
  | targetPrimary => true
  | _ => false

/-- Whether it is remembered what a rule took at a place. -/
def isRemembered : Rule → Bool
  | expression => true
  | starExpression => true
  | disjunction => true
  | conjunction => true
  | inversion => true
  | factor => true
  | awaited => true
  | quotations => true
  | arguments => true
  | target => true
  | targetAtom => true
  | _ => false

end Rule
end Expression
end AnalysisPlan
