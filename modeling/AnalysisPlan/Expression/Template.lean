import AnalysisPlan.Expression.Escape

/-!
# Templates

A template is a text with fields in braces. A field holds an expression, and may say how
its value is written: an equals sign, an exclamation mark with a letter, and behind a
colon a template of its own, whose fields must not have templates. A brace that is written
twice is a brace of the text, but not in such an inner template.

What is checked is whether the fields can be told from the text, and whether each of them
holds an expression, which is read in parentheses of its own.
-/

namespace AnalysisPlan
namespace Expression
namespace Template

/-- How a template is read: whether it is raw, how its faults are told, and the reading of
the expression of a field, behind which the given text is left. -/
structure Manner where
  isRaw : Bool
  told : Fault → Fault
  field : (expression rest : List Char) → Except Fault Unit

/-- What a character of a text stands behind. -/
inductive Behind where
  | nothing
  | backslash
  | nameLetter
  | nameBrace
deriving Repr, DecidableEq

/-- A text up to a brace. It goes on behind a brace that stands for itself, and ends in
front of another, or where the whole template does. -/
structure Literal where
  chars : List Char
  goesOn : Bool
  rest : List Char
deriving Repr, DecidableEq

def Literal.cons (c : Char) (l : Literal) : Literal := { l with chars := c :: l.chars }

/-- A text that is over in front of a brace. -/
def atBrace (isInner : Bool) (c : Char) (rest : List Char) : Except TemplateFault Literal :=
  if isInner then .ok ⟨[], false, c :: rest⟩
  else if rest.head? = some c then .ok ⟨[c], true, rest.drop 1⟩
  else if c = '\x7d' then .error .loneBrace
  else .ok ⟨[], false, c :: rest⟩

/-- Takes a text up to a brace. The braces around the name of a character are none of a
field. -/
def takeLiteral (isRaw isInner : Bool) : Behind → List Char → Except TemplateFault Literal
  | _, [] => .ok ⟨[], false, []⟩
  | .nameLetter, c :: rest =>
    (takeLiteral isRaw isInner (if c = '\x7b' then .nameBrace else .nothing) rest).map
      (.cons c)
  | .nameBrace, c :: rest =>
    (takeLiteral isRaw isInner (if c = '\x7d' then .nothing else .nameBrace) rest).map
      (.cons c)
  | behind, c :: rest =>
    if c = '\x7b' ∨ c = '\x7d' then atBrace isInner c rest
    else
      let next : Behind :=
        if behind = .backslash then if c = 'N' then .nameLetter else .nothing
        else if c = '\\' ∧ !isRaw then .backslash
        else .nothing
      (takeLiteral isRaw isInner next rest).map (.cons c)

/-- Whether two characters are an operator that does not end the expression of a field. -/
def isComparison (c : Char) (next : Option Char) : Bool :=
  (c == '!' || c == '=' || c == '<' || c == '>') && next == some '='

/-- Whether a character outside of brackets ends the expression of a field. -/
def endsExpression (c : Char) : Bool := c == '!' || c == ':' || c == '\x7d' || c == '='

/-- Takes the expression of a field, of which the next `skip` characters are read already,
inside of the given quotes and brackets. What is left begins with what ends it. -/
def takeExpression : Nat → Option (List Char) → List Char → List Char →
    Except TemplateFault (List Char × List Char)
  | _, some _, _, [] => .error .unterminated
  | _, none, opening :: _, [] => .error (.unmatched opening)
  | _, none, [], [] => .ok ([], [])
  | skip + 1, quotes, opened, c :: rest =>
    (takeExpression skip quotes opened rest).map fun e => (c :: e.1, e.2)
  | 0, quotes, opened, c :: rest =>
    let goOn (skip : Nat) (quotes : Option (List Char)) (opened : List Char) :=
      (takeExpression skip quotes opened rest).map fun e => (c :: e.1, e.2)
    if c = '\\' then .error .backslash
    else
      match quotes with
      | some q =>
        if q.isPrefixOf (c :: rest) then goOn (q.length - 1) none opened
        else goOn 0 quotes opened
      | none =>
        if c = '\'' ∨ c = '"' then
          let q := openingQuotes (c :: rest)
          goOn (q.length - 1) (some q) opened
        else if isOpening c then
          if maxBrackets ≤ opened.length then .error .tooManyBrackets
          else goOn 0 none (c :: opened)
        else if c = '#' then .error .comment
        else
          match opened with
          | [] =>
            if isComparison c rest.head? then goOn 1 none []
            else if endsExpression c then .ok ([], c :: rest)
            else if isClosing c then .error (.unmatched c)
            else goOn 0 none []
          | opening :: others =>
            if !isClosing c then goOn 0 none opened
            else if closingOf opening = c then goOn 0 none others
            else .error (.mismatched c opening)

def isVacant (expression : List Char) : Bool :=
  expression.all fun c => c == ' ' || c == '\t' || c == '\n' || c == '\x0c'

/-- The fault of a field without an expression, by what stands behind it. -/
def vacancy (rest : List Char) : TemplateFault :=
  match rest with
  | '!' :: _ => .nothingBefore '!'
  | ':' :: _ => .nothingBefore ':'
  | '=' :: _ => .nothingBefore '='
  | _ => .emptyField

/-- What is left behind an exclamation mark and its letter. -/
def afterConversion : List Char → Except TemplateFault (List Char)
  | ['!'] => .error .braceMissing
  | '!' :: c :: rest =>
    if c = 's' ∨ c = 'r' ∨ c = 'a' then .ok rest else .error .conversion
  | s => .ok s

/-- Reads a template that is so deep within others, in at most `n` steps, and gives what
is left behind it. -/
def read (m : Manner) : Nat → Nat → List Char → Except Fault (List Char)
  | 0, _, s => .ok s
  | n + 1, depth, s => do
    let fail {α : Type} (f : TemplateFault) : Except Fault α := .error (m.told (.template f))
    let check {α : Type} : Except TemplateFault α → Except Fault α :=
      Except.mapError fun f => m.told (.template f)
    let literal ← check (takeLiteral m.isRaw (depth != 0) .nothing s)
    if !m.isRaw then
      if let some f := Escape.textFault? literal.chars then
        throw (m.told (.quotation f))
    if literal.goesOn then read m n depth literal.rest
    else
      match literal.rest with
      | '\x7b' :: inside => do
        if 2 ≤ depth then fail .nestedTooDeeply
        let (expression, rest) ← check (takeExpression 0 none [] inside)
        if rest.isEmpty then fail .braceMissing
        if isVacant expression then fail (vacancy rest)
        m.field expression rest
        let rest ← check (afterConversion (if rest.head? = some '=' then rest.drop 1 else rest))
        let rest ←
          match rest with
          | [':'] => fail .braceMissing
          | ':' :: format => read m n (depth + 1) format
          | _ => pure rest
        match rest with
        | '\x7d' :: rest => read m n depth rest
        | _ => fail .braceMissing
      | rest =>
        if depth ≠ 0 ∧ rest.head? ≠ some '\x7d' then fail .braceMissing else return rest

end Template
end Expression
end AnalysisPlan
