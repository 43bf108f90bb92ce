import AnalysisPlan.Expression.Basic
import AnalysisPlan.Expression.Template

/-!
# Quoted texts

What a quoted text says: the letters in front of it, which make it bytes, a raw text or
a template, and what stands between its quotes. Quoted texts side by side are one text,
and are either all bytes or none of them. They are looked at one by one.
-/

namespace AnalysisPlan
namespace Expression

/-- A quoted text: the letters in front of it, small ones only, and its inside. -/
structure Quotation where
  letters : List Char
  inside : List Char
deriving Repr, DecidableEq

namespace Quotation

def ofToken (t : Token) : Quotation :=
  let letters := t.chars.takeWhile Char.isAlpha
  let quoted := t.chars.drop letters.length
  let size := (openingQuotes quoted).length
  { letters := letters.map Char.toLower
    inside := (quoted.drop size).take (quoted.length - 2 * size) }

def isBytes (q : Quotation) : Bool := 'b' ∈ q.letters

/-- Whether backslashes in the text stand for themselves. -/
def isRaw (q : Quotation) : Bool := 'r' ∈ q.letters

def isTemplate (q : Quotation) : Bool := 'f' ∈ q.letters

/-- The fault of a text that is no template, if it has one. -/
def fault? (q : Quotation) : Option QuotationFault :=
  if q.isBytes ∧ q.inside.any (128 ≤ ·.toNat) then some .notAscii
  else if q.isRaw then none
  else if q.isBytes then Escape.bytesFault? 0 q.inside
  else Escape.textFault? q.inside

/-- Looks at one quoted text, given whether those before it are bytes, how faults are
told, and how the expression of a field is read, which begins on a line. -/
def check (told : Fault → Fault) (field : Nat → List Char → Except Fault Expr)
    (areBytes : Option Bool) (t : Token) : Except Fault Unit := do
  let q := ofToken t
  if !q.isTemplate then
    if let some f := q.fault? then throw (told (.quotation f))
  if areBytes.any (· != q.isBytes) then throw (told (.quotation .mixed))
  if q.isTemplate then
    let readField (expression rest : List Char) : Except Fault Unit := do
      let before := q.inside.length - rest.length - expression.length
      let line := t.line + (q.inside.take before).count '\n'
      let _ ← field line ('(' :: expression ++ [')'])
    let _ ← Template.read ⟨q.isRaw, told, readField⟩ (q.inside.length + 1) 0 q.inside

def meaning (told : Fault → Fault) (field : Nat → List Char → Except Fault Expr)
    (ts : List Token) : Except Fault Expr := do
  let areBytes := (ts.head?.map ofToken).any isBytes
  match ts with
  | [] => return .constant .text
  | first :: others =>
    check told field none first
    others.forM (check told field (some areBytes))
    if ts.any fun t => (ofToken t).isTemplate then return .other .template
    else return .constant (if areBytes then .bytes else .text)

end Quotation
end Expression
end AnalysisPlan
