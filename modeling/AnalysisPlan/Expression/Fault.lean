import AnalysisPlan.Text.Digits
import AnalysisPlan.Text.Pieces
import AnalysisPlan.Text.Printable

/-!
# Faults of expressions

What can be wrong with a text that is read as an expression, as causes, and the causes
in words. A text fails to fall into tokens, or its quoted texts and numbers stand for
nothing, or its tokens make up no expression. A field of a template is read as an
expression of its own, and what is wrong with it is said of the template.
-/

namespace AnalysisPlan
namespace Expression

/-- The way a number is written. -/
inductive Notation where
  | decimal
  | hexadecimal
  | octal
  | binary
  | imaginary
deriving Repr, DecidableEq

def Notation.name : Notation → String
  | decimal => "decimal"
  | hexadecimal => "hexadecimal"
  | octal => "octal"
  | binary => "binary"
  | imaginary => "imaginary"

/-- Why the next token cannot be told. A bracket of another line comes with its line. -/
inductive TokenFault where
  | unterminated (triple : Bool) (line : Nat)
  | unmatched (closing : Char)
  | mismatched (closing opening : Char) (line : Option Nat)
  | nestedTooDeeply
  | notANumber (written : Notation)
  | foreignDigit (digit : Char) (written : Notation)
  | leadingZeros
  | foreignChar (c : Char)
deriving Repr, DecidableEq

def TokenFault.message : TokenFault → String
  | unterminated triple line =>
    (if triple then "unterminated triple-quoted" else "unterminated") ++
      s!" string literal (detected at line {line})"
  | unmatched closing => s!"unmatched '{closing}'"
  | mismatched closing opening line =>
    s!"closing parenthesis '{closing}' does not match opening parenthesis '{opening}'" ++
      ((line.map fun n => s!" on line {n}").getD "")
  | nestedTooDeeply => "too many nested parentheses"
  | notANumber written => s!"invalid {written.name} literal"
  | foreignDigit digit written => s!"invalid digit '{digit}' in {written.name} literal"
  | leadingZeros =>
    "leading zeros in decimal integer literals are not permitted; " ++
      "use an 0o prefix for octal integers"
  | foreignChar c =>
    let code := "U+" ++ (String.ofList (Text.hex 4 c.toNat)).map Char.toUpper
    if Text.isPrintable c then s!"invalid character '{c}' ({code})"
    else s!"invalid non-printable character {code}"

/-- Why there are no tokens any more where some are missing. -/
inductive EndFault where
  | neverClosed (opening : Char)
  | brokenLine
  | lineMissing
  | unevenIndentation
deriving Repr, DecidableEq

def EndFault.message : EndFault → String
  | neverClosed opening => s!"'{opening}' was never closed"
  | brokenLine => "unexpected character after line continuation character"
  | lineMissing => "unexpected EOF while parsing"
  | unevenIndentation => "unindent does not match any outer indentation level"

/-- Why quoted texts stand for nothing. Positions count from the first character between
the quotes. -/
inductive QuotationFault where
  | mixed
  | notAscii
  | badEscape (what : String) (start stop : Nat)
  | badByte (position : Nat)
deriving Repr, DecidableEq

def QuotationFault.message : QuotationFault → String
  | mixed => "cannot mix bytes and nonbytes literals"
  | notAscii => "bytes can only contain ASCII literal characters"
  | badEscape what start stop =>
    s!"(unicode error) 'unicodeescape' codec can't decode bytes in position " ++
      s!"{start}-{stop - 1}: {what}"
  | badByte position => s!"(value error) invalid \\x escape at position {position}"

/-- Why the fields of a template cannot be told from its text. -/
inductive TemplateFault where
  | loneBrace
  | nestedTooDeeply
  | backslash
  | comment
  | tooManyBrackets
  | unmatched (bracket : Char)
  | mismatched (closing opening : Char)
  | unterminated
  | nothingBefore (mark : Char)
  | emptyField
  | conversion
  | braceMissing
deriving Repr, DecidableEq

def TemplateFault.message : TemplateFault → String
  | loneBrace => "f-string: single '\x7d' is not allowed"
  | nestedTooDeeply => "f-string: expressions nested too deeply"
  | backslash => "f-string expression part cannot include a backslash"
  | comment => "f-string expression part cannot include '#'"
  | tooManyBrackets => "f-string: too many nested parenthesis"
  | unmatched bracket => s!"f-string: unmatched '{bracket}'"
  | mismatched closing opening =>
    s!"f-string: closing parenthesis '{closing}' does not match opening parenthesis " ++
      s!"'{opening}'"
  | unterminated => "f-string: unterminated string"
  | nothingBefore mark => s!"f-string: expression required before '{mark}'"
  | emptyField => "f-string: empty expression not allowed"
  | conversion =>
    "f-string: invalid conversion character: expected 's', 'r', or 'a'"
  | braceMissing => "f-string: expecting '\x7d'"

/-- Why tokens make up no expression. -/
inductive GrammarFault where
  | malformed
  | indented
  | tooManyDigits (digits : Nat)
  | nestedTooDeeply
  | commaMissing
  | elseMissing
  | parenthesesMissing (function : String)
  | equalsSign
  | namingOf (what : String)
  | assignmentHere (what : String)
  | assignmentTo (what : String)
  | assignmentInArgument
  | unpackingAfterKeywords
  | positionalAfterKeyword
  | positionalAfterUnpacking
  | bareGenerator
  | unpackingInComprehension
  | bareComprehensionTarget
  | pairsInComprehension
  | starInGroup
  | doubleStarInGroup
  | starAsValue
  | valueMissing
  | colonMissing
  | defaultMissing
  | defaultValueMissing
  | parametersInParentheses
  | slashFirst
  | slashTwice
  | slashBehindStar
  | commaBetweenSlashAndStar
  | nothingBehindStar
  | defaultOfStar
  | starTwice
  | defaultOfDoubleStar
  | behindDoubleStar
deriving Repr, DecidableEq

def GrammarFault.message : GrammarFault → String
  | malformed => "invalid syntax"
  | indented => "unexpected indent"
  | tooManyDigits digits =>
    Text.tooManyDigits digits ++ " - Consider hexadecimal for huge integer literals " ++
      "to avoid decimal conversion limits."
  | nestedTooDeeply => ""
  | commaMissing => "invalid syntax. Perhaps you forgot a comma?"
  | elseMissing => "expected 'else' after 'if' expression"
  | parenthesesMissing function =>
    s!"Missing parentheses in call to '{function}'. Did you mean {function}(...)?"
  | equalsSign => "invalid syntax. Maybe you meant '==' or ':=' instead of '='?"
  | namingOf what => s!"cannot use assignment expressions with {what}"
  | assignmentHere what =>
    s!"cannot assign to {what} here. Maybe you meant '==' instead of '='?"
  | assignmentTo what => s!"cannot assign to {what}"
  | assignmentInArgument =>
    "expression cannot contain assignment, perhaps you meant \"==\"?"
  | unpackingAfterKeywords =>
    "iterable argument unpacking follows keyword argument unpacking"
  | positionalAfterKeyword => "positional argument follows keyword argument"
  | positionalAfterUnpacking => "positional argument follows keyword argument unpacking"
  | bareGenerator => "Generator expression must be parenthesized"
  | unpackingInComprehension => "iterable unpacking cannot be used in comprehension"
  | bareComprehensionTarget =>
    "did you forget parentheses around the comprehension target?"
  | pairsInComprehension => "dict unpacking cannot be used in dict comprehension"
  | starInGroup => "cannot use starred expression here"
  | doubleStarInGroup => "cannot use double starred expression here"
  | starAsValue => "cannot use a starred expression in a dictionary value"
  | valueMissing => "expression expected after dictionary key and ':'"
  | colonMissing => "':' expected after dictionary key"
  | defaultMissing => "non-default argument follows default argument"
  | defaultValueMissing => "expected default value expression"
  | parametersInParentheses => "Lambda expression parameters cannot be parenthesized"
  | slashFirst => "at least one argument must precede /"
  | slashTwice => "/ may appear only once"
  | slashBehindStar => "/ must be ahead of *"
  | commaBetweenSlashAndStar => "expected comma between / and *"
  | nothingBehindStar => "named arguments must follow bare *"
  | defaultOfStar => "var-positional argument cannot have default value"
  | starTwice => "* argument may appear only once"
  | defaultOfDoubleStar => "var-keyword argument cannot have default value"
  | behindDoubleStar => "arguments cannot follow var-keyword argument"

/-- What can be wrong with an expression. -/
inductive Fault where
  | token (f : TokenFault)
  | ended (f : EndFault)
  | quotation (f : QuotationFault)
  | template (f : TemplateFault)
  | grammar (f : GrammarFault)
  | inField (f : Fault)
deriving Repr, DecidableEq

def Fault.message : Fault → String
  | token f => f.message
  | ended f => f.message
  | quotation f => f.message
  | template f => f.message
  | grammar f => f.message
  | inField f => "f-string: " ++ f.message

end Expression
end AnalysisPlan
