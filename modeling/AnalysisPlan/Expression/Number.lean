import AnalysisPlan.Expression.Token

/-!
# Numbers in expressions

Where a number ends, and which number it is. A whole number is written in base ten or,
behind a mark, in base sixteen, eight or two; a number in base ten may have a fraction,
an exponent, and a mark that makes it imaginary. Single low lines may stand between
digits. A number must not run into a word, but for the words that may stand between two
operands.
-/

namespace AnalysisPlan
namespace Expression
namespace Number

/-- What is left of a text behind a number, or why it is none. -/
abbrev Rest := Except TokenFault (List Char)

/-- The words that may stand right behind a number. -/
def wordsBehind : List (List Char) := ["and", "else", "for", "not", "or"].map String.toList

/-- The beginnings of words that may stand right behind a number. -/
def beginningsBehind : List (List Char) := ["if", "in", "is"].map String.toList

/-- The end of a number, which must not be the beginning of a word. -/
def finish (written : Notation) (s : List Char) : Rest :=
  if s.head?.any inWord ∧ s.takeWhile inWord ∉ wordsBehind ∧
      !beginningsBehind.any (·.isPrefixOf s) then
    .error (.notANumber written)
  else .ok s

/-- What is left behind digits, which may have single low lines between them. -/
def afterDigits (written : Notation) (isDigit : Char → Bool) : List Char → Rest
  | [] => .ok []
  | ['_'] => .error (.notANumber written)
  | '_' :: d :: rest =>
    if isDigit d then afterDigits written isDigit rest
    else if written = .octal ∧ d.isDigit ∨ written = .binary ∧ d.isDigit then
      .error (.foreignDigit d written)
    else .error (.notANumber written)
  | c :: rest => if isDigit c then afterDigits written isDigit rest else .ok (c :: rest)

def afterDecimals : List Char → Rest := afterDigits .decimal Char.isDigit

/-- Takes digits of a base other than ten behind its mark. A low line may stand first. -/
def takeBased (written : Notation) (isDigit : Char → Bool) (s : List Char) : Rest := do
  let s := if s.head? = some '_' then s else '_' :: s
  let rest ← afterDigits written isDigit s
  match rest with
  | [] => .ok []
  | c :: _ =>
    if c.isDigit then .error (.foreignDigit c written) else finish written rest

def isHexDigit (c : Char) : Bool :=
  c.isDigit || ('a' ≤ c && c ≤ 'f') || ('A' ≤ c && c ≤ 'F')

def isOctalDigit (c : Char) : Bool := '0' ≤ c && c ≤ '7'

def isBinaryDigit (c : Char) : Bool := c == '0' || c == '1'

def takeImaginary : List Char → Rest
  | 'j' :: rest => finish .imaginary rest
  | 'J' :: rest => finish .imaginary rest
  | s => finish .decimal s

/-- Takes an exponent, which begins with the letter `e`, if there is one. The letter alone
is none, and then the number ends in front of it. -/
def takeExponent : List Char → Rest
  | [] => .ok []
  | e :: s =>
    if e = 'e' ∨ e = 'E' then
      match s with
      | [] => finish .decimal [e]
      | c :: digits =>
        if c = '+' ∨ c = '-' then
          if digits.head?.any Char.isDigit then do takeImaginary (← afterDecimals digits)
          else .error (.notANumber .decimal)
        else if c.isDigit then do takeImaginary (← afterDecimals s)
        else finish .decimal (e :: s)
    else takeImaginary (e :: s)

def takeFraction (s : List Char) : Rest := do
  takeExponent (← if s.head?.any Char.isDigit then afterDecimals s else .ok s)

/-- What is left behind the zeros at the beginning of a number. -/
def afterZeros : List Char → Rest
  | '0' :: rest => afterZeros rest
  | ['_'] => .error (.notANumber .decimal)
  | '_' :: d :: rest =>
    if d = '0' then afterZeros rest
    else if d.isDigit then .ok (d :: rest)
    else .error (.notANumber .decimal)
  | s => .ok s

/-- Takes a number in base ten that begins with a zero. -/
def takeZero (s : List Char) : Rest := do
  let behind ← afterZeros s
  let rest ← if behind.head?.any Char.isDigit then afterDecimals behind else .ok behind
  match rest with
  | '.' :: fraction => takeFraction fraction
  | c :: _ =>
    if c ∈ ['e', 'E', 'j', 'J'] then takeExponent rest
    else if behind.head?.any Char.isDigit then .error .leadingZeros
    else finish .decimal rest
  | [] => if behind.isEmpty then .ok [] else .error .leadingZeros

def take : List Char → Rest
  | '.' :: rest => takeFraction rest
  | '0' :: base :: rest =>
    match base.toLower with
    | 'x' => takeBased .hexadecimal isHexDigit rest
    | 'o' => takeBased .octal isOctalDigit rest
    | 'b' => takeBased .binary isBinaryDigit rest
    | _ => takeZero ('0' :: base :: rest)
  | '0' :: rest => takeZero ('0' :: rest)
  | s => do
    match ← afterDecimals s with
    | '.' :: fraction => takeFraction fraction
    | rest => takeExponent rest

def valueIn (base : Nat) (digits : List Char) : Nat :=
  digits.foldl (fun n c =>
    base * n + if c.isDigit then c.toNat - 48 else c.toLower.toNat - 87) 0

end Number

/-- A number: a whole one, one with a fraction or an exponent, or an imaginary one. Only
of whole ones the value counts. -/
inductive Number where
  | whole (n : Nat)
  | fraction
  | imaginary
deriving Repr, DecidableEq

/-- The number that a spelling stands for. A whole number in base ten has a limit to its
digits, but zeros alone have none. -/
def Number.ofSpelling (s : List Char) : Except GrammarFault Number :=
  let digits := s.filter (· != '_')
  let based (base : Nat) : Except GrammarFault Number :=
    .ok (.whole (valueIn base (digits.drop 2)))
  match (digits.drop 1).head?.map Char.toLower with
  | some 'x' => based 16
  | some 'o' => based 8
  | some 'b' => based 2
  | _ =>
    if digits.getLast?.any fun c => c = 'j' ∨ c = 'J' then .ok .imaginary
    else if !digits.all Char.isDigit then .ok .fraction
    else if digits.all (· == '0') then .ok (.whole 0)
    else if Text.maxDigits < digits.length then .error (.tooManyDigits digits.length)
    else .ok (.whole (valueIn 10 digits))

end Expression
end AnalysisPlan
