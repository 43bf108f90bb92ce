import AnalysisPlan.Expression.Literal
import AnalysisPlan.Text.Blank
import AnalysisPlan.Text.Quoted

/-!
# Handlers

A tag whose name begins with `@` is about an event, and behind its equals sign stands
what handles the event: a name, which may have points in it, or a name with arguments
in parentheses, or arguments alone. The arguments must be literals. They are read when the
tag is closed.
-/

namespace AnalysisPlan
namespace Console
namespace Handler

open Expression (LiteralFault checkLiteral)

/-- The arguments of a handler, if it has any. -/
def arguments? (handler : List Char) : Option (List Char) :=
  let s := Text.trim handler
  let behind := s.dropWhile fun c => Text.isWordChar c || c == '.'
  if behind = [] then none
  else if behind.head? = some '(' ∧ behind.getLast? = some ')' ∧ '\n' ∉ behind then some behind
  else some s

/-- A handler whose arguments are no literals. -/
structure HandlerFault where
  handler : List Char
  arguments : List Char
  fault : LiteralFault
deriving Repr, DecidableEq

/-- The fault in words. Arguments that are no expression are shown. -/
def HandlerFault.message (f : HandlerFault) : String :=
  let shown (s : List Char) := Text.quoted (String.ofList s)
  let what :=
    if f.fault.isSyntactic then s!"{shown f.arguments} in {shown f.handler}"
    else shown f.handler
  s!"error parsing {what}; {f.fault.message}"

/-- Whether a text is a handler. -/
def check (handler : List Char) : Except HandlerFault Unit :=
  match arguments? handler with
  | none => .ok ()
  | some arguments =>
    match checkLiteral arguments with
    | .ok () => .ok ()
    | .error fault => .error { handler, arguments, fault }

end Handler
end Console
end AnalysisPlan
