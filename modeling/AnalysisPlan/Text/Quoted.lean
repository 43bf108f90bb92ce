import AnalysisPlan.Text.Pieces
import AnalysisPlan.Text.Printable

/-!
# Quoted text

How a text is shown inside a message about a value that was not accepted. Single
quotes go around it, or double quotes where it holds a single quote and no double
one; the quote in use and the backslash are escaped, line breaks and tabs are
written with their letters, and other characters that cannot be printed with
their code point in two, four or eight digits.
-/

namespace AnalysisPlan
namespace Text

def quoteFor (s : List Char) : Char := if '\'' ∈ s ∧ '"' ∉ s then '"' else '\''

def quoteChar (quote c : Char) : List Char :=
  if c = quote ∨ c = '\\' then ['\\', c]
  else if c = '\t' then ['\\', 't']
  else if c = '\n' then ['\\', 'n']
  else if c = '\r' then ['\\', 'r']
  else if isPrintable c then [c]
  else if c.toNat ≤ 0xFF then '\\' :: 'x' :: hex 2 c.toNat
  else if c.toNat ≤ 0xFFFF then '\\' :: 'u' :: hex 4 c.toNat
  else '\\' :: 'U' :: hex 8 c.toNat

def quoted (s : String) : String :=
  let quote := quoteFor s.toList
  String.ofList (quote :: s.toList.flatMap (quoteChar quote) ++ [quote])

end Text
end AnalysisPlan
