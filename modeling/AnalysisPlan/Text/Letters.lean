import AnalysisPlan.Text.Digits
import AnalysisPlan.Text.Letters.Table

/-!
# Letters and names

Which characters are letters, which of them and what else a word is made of, and what a
name begins with and goes on with. Letters that only stand for a longer spelling begin
no name, and a name may go on with marks and digits of all scripts.
-/

namespace AnalysisPlan
namespace Text

def isLetter (c : Char) : Bool := inRanges letterRanges c.toNat

/-- Whether a character belongs to a word: a letter, a digit or another numeral of some
script, or the low line. -/
def isWordChar (c : Char) : Bool :=
  c == '_' || isLetter c || isDecimalDigit c || inRanges numeralRanges c.toNat

def startsName (c : Char) : Bool :=
  inRanges otherStartRanges c.toNat || (isLetter c && !inRanges unfitLetterRanges c.toNat)

def continuesName (c : Char) : Bool :=
  startsName c || isDecimalDigit c || inRanges nameMarkRanges c.toNat

/-- The first character of a text that does not belong into a name. -/
def foreignChar? : List Char → Option Char
  | [] => none
  | c :: rest => if startsName c then rest.find? (!continuesName ·) else some c

end Text
end AnalysisPlan
