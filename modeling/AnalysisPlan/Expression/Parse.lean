import AnalysisPlan.Expression.Grammar.Reading
import AnalysisPlan.Expression.Quotation

/-!
# Reading expressions

A text is an expression if the rules for expressions take all of its tokens. If they do
not, the text is read once more and common mistakes are looked for; if none is found, all
that can be said is that the text is malformed.

A fault of the tokens that come behind what was read is worse than any of this, and so is
a bracket that was opened on an earlier line and is never closed; but where the text is
known to be over, a mistake that was found counts.
-/

namespace AnalysisPlan
namespace Expression

namespace Tokens

def endFault (told : Fault → Fault) (ts : Tokens) : Fault :=
  match ts.ending with
  | .complete => told (.ended .lineMissing)
  | .refused f => .token f
  | .stopped f _ => told (.ended f)

/-- The fault that counts if a fault was found after so many tokens were looked at. -/
def worst (told : Fault → Fault) (ts : Tokens) (seen : Nat) (f : Fault) : Fault :=
  match ts.ending with
  | .complete => f
  | .refused g => .token g
  | .stopped _ [] => f
  | .stopped _ ((opening, line) :: _) =>
    if (ts.list[seen - 1]?.map Token.line).any (line < ·) then
      told (.ended (.neverClosed opening))
    else f

/-- The fault that counts if a mistake was found after so many tokens were looked at. -/
def mistakeFault (told : Fault → Fault) (ts : Tokens) (seen : Nat) (f : Fault) : Fault :=
  if (ts.list[seen - 1]?.map Token.isLast).getD false then f else ts.worst told seen f

/-- The fault of tokens in which no mistake was found, by the last one looked at, and how
many were looked at for mistakes. -/
def unknownFault (told : Fault → Fault) (ts : Tokens) (seen again : Nat) : Fault :=
  if (ts.list[seen - 1]?.map Token.kind) = some .indent then told (.grammar .indented)
  else ts.worst told again (told (.grammar .malformed))

/-- Reads tokens by a rule, given how faults are told and what quoted texts say. -/
def read (told : Fault → Fault) (quotation : List Token → Except Fault Expr) (start : Rule)
    (ts : Tokens) : Except Fault Expr :=
  let source : Source :=
    { tokens := ts.list.toArray, ending := ts.endFault told, told, quotation,
      findsMistakes := false }
  let remembered := Array.replicate ts.list.length []
  let reading := Reading.rule Reading.maxDepth (.rule start)
  match reading source { remembered } with
  | .ok (some t) _ => .ok t.toExpr
  | .error (.token f) _ => .error f
  | .error (.fault f) p => .error (ts.mistakeFault told p.seen f)
  | .ok none p =>
    match reading { source with findsMistakes := true } { remembered, seen := p.seen } with
    | .error (.token f) _ => .error f
    | .error (.fault f) q => .error (ts.mistakeFault told q.seen f)
    | .ok _ q => .error (ts.unknownFault told p.seen q.seen)

end Tokens

/-- Reads a text whose first line has the given number by a rule. Templates may be `n`
deep within each other. -/
def readAs : Nat → (told : Fault → Fault) → Rule → (line : Nat) → List Char →
    Except Fault Expr
  | 0, told, _, _, _ => .error (told (.grammar .nestedTooDeeply))
  | n + 1, told, start, line, s =>
    (Tokens.ofText line s).read told
      (Quotation.meaning told (readAs n .inField .field)) start

/-- Reads an expression. What is inside of a template is shorter than it. -/
def ofText (s : List Char) : Except Fault Expr := readAs (s.length + 1) id .whole 1 s

end Expression
end AnalysisPlan
