import AnalysisPlan.Expression.Scan

/-!
# Escapes in quoted texts

In a quoted text a backslash and a letter stand for a character by its code point in two,
four or eight digits, or by its name. Other letters behind a backslash stand for one
character or for themselves, and so do up to three digits.

Positions count characters of the text in a form with ASCII characters only, where any
other character is written by its code point in eight digits.
-/

namespace AnalysisPlan
namespace Expression
namespace Escape

/-- A character in a text with ASCII characters only. -/
def spelled (c : Char) : List Char :=
  if c.toNat < 128 then [c] else '\\' :: 'U' :: Text.hex 8 c.toNat

/-- A backslash that begins no escape. -/
def loneBackslash : List Char := '\\' :: 'u' :: Text.hex 4 '\\'.toNat

/-- A text with ASCII characters only. -/
def spelledText : List Char → List Char
  | [] => []
  | ['\\'] => loneBackslash
  | '\\' :: c :: rest =>
    (if c.toNat < 128 then ['\\', c] else loneBackslash ++ spelled c) ++ spelledText rest
  | c :: rest => spelled c ++ spelledText rest

def nameWords : List String :=
  ["A", "ACCENT", "ACUTE", "ALPHA", "AMPERSAND", "AND", "APOSTROPHE", "ARABIC", "ARROW",
   "ASTERISK", "AT", "B", "BALLOT", "BETA", "BLACK", "BOX", "BRACKET", "BREAK", "BULLET",
   "C", "CAPITAL", "CENT", "CHECK", "CIRCLE", "COLON", "COMBINING", "COMMA", "COMMERCIAL",
   "COPYRIGHT", "CROSS", "CURRENCY", "CURLY", "CYRILLIC", "D", "DASH", "DEGREE", "DELTA",
   "DIAERESIS", "DIGIT", "DIVISION", "DOLLAR", "DOT", "DOUBLE", "DOWNWARDS", "E",
   "EIGHT", "ELLIPSIS", "EM", "EN", "EPSILON", "EQUALS", "EURO", "EXCLAMATION", "F", "FACE",
   "FIVE", "FLAT", "FOUR", "FULL", "G", "GAMMA", "GRAVE", "GREATER-THAN", "GREEK", "H",
   "HEART", "HEAVY", "HEBREW", "HORIZONTAL", "HYPHEN", "HYPHEN-MINUS", "I", "INFINITY",
   "INVERTED", "J", "JOINER", "K", "KAPPA", "KATAKANA", "L", "LAMDA", "LATIN", "LEFT",
   "LEFTWARDS", "LESS-THAN", "LETTER", "LIGATURE", "LINE", "LOW", "M", "MACRON", "MARK",
   "MICRO", "MIDDLE", "MINUS", "MU", "MULTIPLICATION", "MUSIC", "N", "NATURAL", "NINE",
   "NO-BREAK", "NON-JOINER", "NUMBER", "O", "OF", "OMEGA", "ONE", "OUTLINED", "P",
   "PARAGRAPH", "PARENTHESIS", "PERCENT", "PHI", "PI", "PLUS", "PLUS-MINUS", "POO", "POUND",
   "PSI", "Q", "QUESTION", "QUOTATION", "R", "REGISTERED", "REVERSE", "RIGHT", "RIGHTWARDS",
   "RING", "ROOT", "S", "SECTION", "SEMICOLON", "SEPARATOR", "SEVEN", "SHARP", "SIGMA",
   "SIGN", "SINGLE", "SIX", "SKULL", "SMALL", "SMILING", "SMILE", "SNOWMAN", "SOFT",
   "SOLIDUS", "SPACE", "SQUARE", "STAR", "STOP", "STROKE", "SUPERSCRIPT", "T", "TAU",
   "THETA", "THREE", "TILDE", "TRADE", "TRIANGLE", "TWO", "U", "UP", "UPSILON", "UPWARDS",
   "V", "VERTICAL", "VULGAR", "W", "WARNING", "WHITE", "WIDTH", "WITH", "X", "Y", "YEN",
   "Z", "ZERO"]

/-- Whether a text is taken for the name of a character: every word of it is one that
names are made of, and it has two words or is one of the short names. -/
def isName (name : List Char) : Bool :=
  let words := ((Text.split ' ' name).map fun w => String.ofList (w.map Char.toUpper))
  words.all (· ∈ nameWords) &&
    (2 ≤ words.length || words.any fun w =>
      w ∈ ["AMPERSAND", "APOSTROPHE", "ASTERISK", "BULLET", "COLON", "COMMA", "HYPHEN",
        "HYPHEN-MINUS", "INFINITY", "SEMICOLON", "SNOWMAN", "SOLIDUS", "SPACE", "TILDE"])

/-- The fault of an escape whose first letter was read, at a position, in front of the
given text, if there is one. -/
def fault? (position : Nat) (letter : Char) (rest : List Char) : Option QuotationFault :=
  let digits (count : Nat) (what : String) :=
    let found := (rest.take count).takeWhile Number.isHexDigit
    if found.length < count then
      some (.badEscape s!"truncated {what} escape" position (position + 2 + found.length))
    else if 0x10FFFF < Number.valueIn 16 found then
      some (.badEscape "illegal Unicode character" position (position + 2 + count))
    else none
  match letter with
  | 'x' => digits 2 "\\xXX"
  | 'u' => digits 4 "\\uXXXX"
  | 'U' => digits 8 "\\UXXXXXXXX"
  | 'N' =>
    let malformed := "malformed \\N character escape"
    match rest with
    | '\x7b' :: inside =>
      let name := inside.takeWhile (· != '\x7d')
      if name.length = inside.length then
        some (.badEscape malformed position (position + 3 + name.length))
      else if name.isEmpty then some (.badEscape malformed position (position + 3))
      else if isName name then none
      else
        some (.badEscape "unknown Unicode character name" position
          (position + 4 + name.length))
    | _ => some (.badEscape malformed position (position + 2))
  | _ => none

/-- The first fault of a text with ASCII characters only, from a position on. -/
def firstFault? : Nat → List Char → Option QuotationFault
  | _, [] => none
  | position, '\\' :: letter :: rest =>
    (fault? position letter rest).or (firstFault? (position + 2) rest)
  | position, _ :: rest => firstFault? (position + 1) rest

def textFault? (s : List Char) : Option QuotationFault := firstFault? 0 (spelledText s)

/-- The first fault of the escapes in bytes, from a position on. -/
def bytesFault? : Nat → List Char → Option QuotationFault
  | _, [] => none
  | position, '\\' :: letter :: rest =>
    if letter = 'x' ∧ ((rest.take 2).takeWhile Number.isHexDigit).length < 2 then
      some (.badByte position)
    else bytesFault? (position + 2) rest
  | position, _ :: rest => bytesFault? (position + 1) rest

end Escape
end Expression
end AnalysisPlan
