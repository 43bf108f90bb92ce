import AnalysisPlan.Json.Value
import AnalysisPlan.Text.Pieces

/-!
# Writing JSON

The text of a JSON value in ASCII, laid out over several lines: each item and
each field stands on a line of its own, indented by two spaces more than what
holds it, and nothing stands between empty brackets. Every character outside the
printable part of ASCII is written by its sixteen-bit units.
-/

namespace AnalysisPlan
namespace Json

def escapeUnit (n : Nat) : List Char := '\\' :: 'u' :: Text.hex 4 n

/-- One character inside a string. -/
def escapeChar (c : Char) : List Char :=
  if c = '"' ∨ c = '\\' then ['\\', c]
  else if c = '\n' then ['\\', 'n']
  else if c = '\r' then ['\\', 'r']
  else if c = '\t' then ['\\', 't']
  else if c = '\x08' then ['\\', 'b']
  else if c = '\x0c' then ['\\', 'f']
  else if 0x20 ≤ c.toNat ∧ c.toNat < 0x7F then [c]
  else if c.toNat < 0x10000 then escapeUnit c.toNat
  else
    escapeUnit (0xD800 + (c.toNat - 0x10000) / 0x400) ++
      escapeUnit (0xDC00 + (c.toNat - 0x10000) % 0x400)

def writeString (s : String) : List Char := '"' :: s.toList.flatMap escapeChar ++ ['"']

def writeReal : Real → List Char
  | .decimal negative mantissa exponent =>
    (if negative then ['-'] else []) ++ Nat.toDigits 10 mantissa ++ 'e' ::
      (toString exponent).toList
  | .infinity negative => (if negative then ['-'] else []) ++ "Infinity".toList
  | .nan => "NaN".toList

/-- A new line at the given depth of indentation. -/
def newLine (depth : Nat) : List Char := '\n' :: List.replicate (2 * depth) ' '

mutual

/-- A value that begins on a line indented to `depth`. -/
def writeAt (depth : Nat) : Value → List Char
  | .null => "null".toList
  | .bool b => (if b then "true" else "false").toList
  | .int n => (toString n).toList
  | .real r => writeReal r
  | .str s => writeString s
  | .list [] => "[]".toList
  | .list (v :: vs) =>
    '[' :: newLine (depth + 1) ++ writeAt (depth + 1) v ++ writeItems (depth + 1) vs ++
      newLine depth ++ [']']
  | .object [] => ['{', '}']
  | .object ((k, v) :: fields) =>
    '{' :: newLine (depth + 1) ++ writeString k ++ ": ".toList ++ writeAt (depth + 1) v ++
      writeFields (depth + 1) fields ++ newLine depth ++ ['}']

def writeItems (depth : Nat) : List Value → List Char
  | [] => []
  | v :: vs => ',' :: newLine depth ++ writeAt depth v ++ writeItems depth vs

def writeFields (depth : Nat) : List (String × Value) → List Char
  | [] => []
  | (k, v) :: fields =>
    ',' :: newLine depth ++ writeString k ++ ": ".toList ++ writeAt depth v ++
      writeFields depth fields

end

def write (v : Value) : String := String.ofList (writeAt 0 v)

end Json
end AnalysisPlan
