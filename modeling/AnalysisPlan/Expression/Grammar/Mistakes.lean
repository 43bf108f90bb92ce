import AnalysisPlan.Expression.Grammar.Rules

/-!
# Common mistakes

The alternatives of the rules for mistakes. Where a text is no expression, a mistake that
it may have been written with says more than that it is none. A rule for a mistake either
finds it or takes nothing, but for two rules that help others.
-/

namespace AnalysisPlan
namespace Expression
namespace Mistake

open RulePart (mark kind rule mistake optional many several separated choice row ahead notAhead
  behindComma anyMark)
open Branch (pass skip fault)

/-- What can be called without parentheses in old programs. -/
def legacyCalls : List String := ["print", "exec"]

def legacyCall? : Expr → Option String
  | .name s => if s ∈ legacyCalls then some s else none
  | _ => none

def openings : RulePart := anyMark ["[", "\x7b"]

/-- A single or a double equals sign in front of a name is none of an assignment. -/
def noEquals : RulePart := notAhead (anyMark ["=", ":="])

def valueMistakes : List Branch :=
  [fault [rule .expression, mark ":", mark "*", rule .bitwiseOr] .starAsValue,
   fault [rule .expression, mark ":", ahead (anyMark ["\x7d", ","])] .valueMissing]

def positionalFault (a : Arguments) : GrammarFault :=
  if a.unpacks then .positionalAfterUnpacking else .positionalAfterKeyword

def argumentsAt (ts : List Tree) (place : Nat) : Arguments :=
  match treeAt ts place with
  | .arguments a => a
  | _ => ⟨0, 0, false⟩

def slashList : RulePart := choice [rule .slashPlain, rule .slashDefault]

def commaOrPlain : RulePart := choice [mark ",", rule .plainParameter]

/-- The alternatives of a rule for mistakes. -/
def alternatives : Mistake → List Branch
  | expression =>
    [{ parts := [notAhead (choice [row [kind .name, kind .quoted], .softKeyword]),
         rule .disjunction, mistake .plainExpression, .inBrackets],
       make := fun ts =>
         match legacyCall? (exprAt ts 1) with
         | some _ => .nothing
         | none => .fault .commaMissing },
     fault [rule .disjunction, mark "if", rule .disjunction,
       notAhead (anyMark ["else", ":"])] .elseMissing]
  | plainExpression =>
    [.form [rule .disjunction, mark "if", rule .disjunction, mark "else",
       rule .expression] .conditional,
     pass (rule .disjunction), pass (rule .lambda)]
  | legacyCall =>
    [{ parts := [kind .name, notAhead (mark "("), rule .starExpressions],
       make := fun ts =>
         match legacyCall? (.name (String.ofList (treeAt ts 0).chars)) with
         | some f => .fault (.parenthesesMissing f)
         | none => .nothing }]
  | named =>
    [{ parts := [rule .expression, mark ":=", rule .expression],
       make := fun ts => .fault (.namingOf (exprAt ts 0).formName) },
     fault [kind .name, mark "=", rule .bitwiseOr, noEquals] .equalsSign,
     { parts := [notAhead (choice [rule .tuple, rule .generator,
           anyMark ["True", "None", "False"]]),
         rule .bitwiseOr, mark "=", rule .bitwiseOr, noEquals],
       make := fun ts => .fault (.assignmentHere (exprAt ts 1).formName) }]
  | group =>
    [fault [mark "(", rule .starred, mark ")"] .starInGroup,
     fault [mark "(", mark "**", rule .expression, mark ")"] .doubleStarInGroup]
  | pairs =>
    skip [separated (rule .pairOrUnpacking), mark ",", mistake .pair] :: valueMistakes
  | pair => fault [rule .expression, notAhead (mark ":")] .colonMissing :: valueMistakes
  | comprehension =>
    [fault [anyMark ["[", "(", "\x7b"], rule .starred, rule .clauses]
       .unpackingInComprehension,
     fault [openings, rule .starNamedExpression, mark ",", rule .starNamedExpressions,
       rule .clauses] .bareComprehensionTarget,
     fault [openings, rule .starNamedExpression, mark ",", rule .clauses]
       .bareComprehensionTarget]
  | dictComprehension =>
    [fault [mark "\x7b", mark "**", rule .bitwiseOr, rule .clauses, mark "\x7d"]
       .pairsInComprehension]
  | loopTarget =>
    [{ parts := [optional (mark "async"), mark "for", rule .starExpressions],
       make := fun ts =>
         match (exprAt ts 2).unfitTarget? with
         | some e => .fault (.assignmentTo e.formName)
         | none => .nothing }]
  | arguments =>
    [fault [rule .argumentList, mark ",", mark "*"] .unpackingAfterKeywords,
     fault [rule .expression, rule .clauses, mark ",",
       optional (choice [rule .argumentList, row [rule .expression, rule .clauses]])]
       .bareGenerator,
     fault [kind .name, mark "=", rule .expression, rule .clauses] .equalsSign,
     { parts := [rule .argumentList, rule .clauses],
       make := fun ts =>
         if (argumentsAt ts 0).unnamed ≤ 1 then .nothing else .fault .bareGenerator },
     fault [rule .argumentList, mark ",", rule .expression, rule .clauses] .bareGenerator,
     { parts := [rule .argumentList, mark ",", rule .argumentList],
       make := fun ts => .fault (positionalFault (argumentsAt ts 0)) }]
  | keywordArgument =>
    [{ parts := [anyMark ["True", "False", "None"], mark "="],
       make := fun ts => .fault (.assignmentTo (String.ofList (treeAt ts 0).chars)) },
     fault [kind .name, mark "=", rule .expression, rule .clauses] .equalsSign,
     fault [notAhead (row [kind .name, mark "="]), rule .expression, mark "="]
       .assignmentInArgument]
  | parameters =>
    [fault [many (rule .plainParameter), mistake .defaults, rule .plainParameter]
       .defaultMissing,
     fault [many (rule .plainParameter), mark "(", separated (rule .parameterName),
       optional (mark ","), mark ")"] .parametersInParentheses,
     fault [mark "/", mark ","] .slashFirst,
     fault [slashList, many (rule .eitherParameter), mark "/"] .slashTwice,
     fault [optional slashList, many (rule .eitherParameter), mark "*", commaOrPlain,
       many (rule .eitherParameter), mark "/"] .slashBehindStar,
     fault [several (rule .eitherParameter), mark "/", mark "*"] .commaBetweenSlashAndStar]
  | defaults => [pass (rule .slashDefault), skip [several (rule .defaultParameter)]]
  | defaultValue => [fault [mark "=", ahead (anyMark [")", ","])] .defaultValueMissing]
  | starParameters =>
    [fault [mark "*", choice [mark ":", row [mark ",", anyMark [":", "**"]]]]
       .nothingBehindStar,
     fault [mark "*", rule .parameterName, mark "="] .defaultOfStar,
     fault [mark "*", choice [rule .plainParameter, mark ","], many (rule .eitherParameter),
       mark "*", choice [rule .plainParameter, mark ","]] .starTwice]
  | doubleStarParameter =>
    [fault [mark "**", rule .parameterName, mark "="] .defaultOfDoubleStar,
     fault [mark "**", rule .parameterName, mark ",", rule .parameterName]
       .behindDoubleStar,
     fault [mark "**", rule .parameterName, mark ",", anyMark ["*", "**", "/"]]
       .behindDoubleStar]

/-- Whether mistakes are not looked for below a rule. -/
def isPlain : Mistake → Bool
  | plainExpression => true
  | _ => false

def isRemembered : Mistake → Bool
  | named => true
  | _ => false

end Mistake

namespace RuleName

/-- The alternatives of a rule. -/
def alternatives : RuleName → List Branch
  | rule r => r.alternatives
  | mistake m => m.alternatives

def isLeftRecursive : RuleName → Bool
  | rule r => r.isLeftRecursive
  | mistake _ => false

def isRemembered : RuleName → Bool
  | rule r => r.isRemembered
  | mistake m => m.isRemembered

/-- Whether mistakes are not looked for below a rule. -/
def isPlain : RuleName → Bool
  | rule _ => false
  | mistake m => m.isPlain

end RuleName
end Expression
end AnalysisPlan
