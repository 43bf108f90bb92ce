import AnalysisPlan.Expression.Fault
import AnalysisPlan.Text.Letters

/-!
# Tokens of expressions

Names, numbers, quoted texts and marks, and what the ends and the beginnings of lines
stand for outside of brackets. Every token knows its line and how many brackets are open
behind it. Where a text cannot be cut into tokens any further, the tokens before that
place are still tokens, and what stopped the cutting is known.
-/

namespace AnalysisPlan
namespace Expression

/-- The kinds of tokens. Words with a meaning of their own are marks. -/
inductive TokenKind where
  | name
  | number
  | quoted
  | mark
  | lineEnd
  | indent
  | dedent
  | textEnd
deriving Repr, DecidableEq

/-- A token with its spelling, its line, and the number of brackets open behind it. The
last token of a text is known to be the last if it had to be looked what stands behind it
to tell where it ends. -/
structure Token where
  kind : TokenKind
  chars : List Char
  line : Nat
  depth : Nat
  isLast : Bool := false
deriving Repr, DecidableEq

/-- Whether it has to be looked what stands behind a token to tell where it ends. Quotes
that were opened end a text by themselves, and so does the third character of a mark. -/
def TokenKind.looksBehind (kind : TokenKind) (chars : List Char) : Bool :=
  match kind with
  | quoted => (chars.dropWhile Char.isAlpha).length == 2
  | mark => chars.length != 3 || chars.all Char.isAlpha
  | _ => true

/-- How the tokens of a text end: behind the whole text, with a fault, or with nothing
more to read while the given brackets are open. Brackets come with their lines. -/
inductive Ending where
  | complete
  | refused (f : TokenFault)
  | stopped (f : EndFault) (opened : List (Char × Nat))
deriving Repr, DecidableEq

/-- The tokens of a text and how they end. -/
structure Tokens where
  list : List Token
  ending : Ending
deriving Repr, DecidableEq

/-- The words that name nothing. -/
def keywords : List String :=
  ["False", "None", "True", "and", "as", "assert", "async", "await", "break", "class",
   "continue", "def", "del", "elif", "else", "except", "finally", "for", "from", "global",
   "if", "import", "in", "is", "lambda", "nonlocal", "not", "or", "pass", "raise",
   "return", "try", "while", "with", "yield"]

def wordKind (word : List Char) : TokenKind :=
  if String.ofList word ∈ keywords then .mark else .name

/-- The words that name something but where they have a meaning of their own. -/
def softKeywords : List String := ["_", "case", "match"]

def beginsSoftKeyword (word : List Char) : Bool :=
  softKeywords.any fun k => word.isPrefixOf k.toList

/-- Whether a character may belong to a word as far as its first look goes: every
character beyond ASCII may. -/
def inWord (c : Char) : Bool := c.isAlphanum || c == '_' || 128 ≤ c.toNat

def closingOf (opening : Char) : Char :=
  if opening = '(' then ')' else if opening = '[' then ']' else '\x7d'

def isOpening (c : Char) : Bool := c == '(' || c == '[' || c == '\x7b'

def isClosing (c : Char) : Bool := c == ')' || c == ']' || c == '\x7d'

/-- The most brackets that may be open at once. -/
def maxBrackets : Nat := 200

/-- The marks of more than one character, long ones first. -/
def longMarks : List (List Char) :=
  ["**=", "//=", ">>=", "<<=", "...", "**", "//", ">>", "<<", "<=", ">=", "==", "!=", "<>",
   "->", ":=", "+=", "-=", "*=", "/=", "%=", "&=", "|=", "^=", "@="].map String.toList

def quotationMarks : List (List Char) :=
  ["b", "r", "u", "f", "br", "rb", "fr", "rf"].map String.toList

end Expression
end AnalysisPlan
