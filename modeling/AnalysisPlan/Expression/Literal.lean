import AnalysisPlan.Expression.Parse
import AnalysisPlan.Text.Utf8

/-!
# Literals

The expressions that are values by themselves: constants, numbers with a sign, sums of a
real and an imaginary number, and tuples, sets and dictionaries of literals. The elements
of sets and the keys of dictionaries must be fixed for good, which sets and dictionaries
are not.

Of a value it only counts whether it is fixed. The parts of an expression are looked at
from left to right, the key of a pair before its value, and each element as soon as it is
known.
-/

namespace AnalysisPlan
namespace Expression

/-- The values that change. -/
inductive Changing where
  | set
  | dict
deriving Repr, DecidableEq

def Changing.name : Changing → String
  | set => "set"
  | dict => "dict"

/-- Why an expression is no literal. -/
inductive LiteralFault where
  | syntactic (f : Fault)
  | unhashable (what : Changing)
  | keyMissing
  | tooLarge
  | noLiteral
  | nullCharacter
deriving Repr, DecidableEq

def LiteralFault.message : LiteralFault → String
  | syntactic f => f.message
  | unhashable what => s!"unhashable type: '{what.name}'"
  | keyMissing => "malformed node or string: None"
  | tooLarge => "int too large to convert to float"
  | noLiteral => "malformed node or string"
  | nullCharacter => "source code string cannot contain null bytes"

/-- Whether a text is no expression at all, other than one nested too deeply to tell. -/
def LiteralFault.isSyntactic : LiteralFault → Bool
  | syntactic f => f != .grammar .nestedTooDeeply
  | _ => false

namespace Expr

def number? : Expr → Option Number
  | constant (.number n) => some n
  | _ => none

def signedNumber? : Expr → Option Number
  | signed _ e => e.number?
  | e => e.number?

/-- The least whole number that is not taken for one with a fraction: half a step beyond
the largest of those. -/
def firstTooLarge : Nat := Nat.pow 2 1024 - Nat.pow 2 970

/-- Whether a sum of numbers is one number, which it is if an imaginary one is added to a
real one. -/
def checkSum : Number → Number → Except LiteralFault Unit
  | .whole n, .imaginary => if firstTooLarge ≤ n then .error .tooLarge else .ok ()
  | .fraction, .imaginary => .ok ()
  | _, _ => .error .noLiteral

/-- Refuses a value that changes. -/
def fixed : Option Changing → Except LiteralFault Unit
  | none => .ok ()
  | some what => .error (.unhashable what)

mutual

/-- The changing value in a literal at which it is seen not to be fixed, if there is one. -/
def changing? : Expr → Except LiteralFault (Option Changing)
  | constant _ => .ok none
  | tuple elements => firstChanging? elements
  | set elements => do
    checkElements elements
    return some .set
  | dict keysAndValues => do
    checkPairs keysAndValues
    return some .dict
  | call (name "set") true => .ok (some .set)
  | signed _ e => if e.number?.isSome then .ok none else .error .noLiteral
  | sum _ left right =>
    match left.signedNumber?, right.number? with
    | some a, some b => (checkSum a b).map fun () => none
    | _, _ => .error .noLiteral
  | _ => .error .noLiteral

/-- The first changing value in literals. All of them are looked at. -/
def firstChanging? : List Expr → Except LiteralFault (Option Changing)
  | [] => .ok none
  | e :: rest => do
    let first ← changing? e
    return first.or (← firstChanging? rest)

def checkElements : List Expr → Except LiteralFault Unit
  | [] => .ok ()
  | e :: rest => do
    fixed (← changing? e)
    checkElements rest

def checkPairs : List Expr → Except LiteralFault Unit
  | nothing :: _ => .error .keyMissing
  | key :: value :: rest => do
    let changing ← changing? key
    let _ ← changing? value
    fixed changing
    checkPairs rest
  | _ => .ok ()

end

end Expr

/-- Whether a text is a literal. -/
def checkLiteral (s : List Char) : Except LiteralFault Unit :=
  if '\x00' ∈ s then .error .nullCharacter
  else
    match ofText (Text.unifyNewlines s) with
    | .error f => .error (.syntactic f)
    | .ok e => e.changing?.map fun _ => ()

end Expression
end AnalysisPlan
