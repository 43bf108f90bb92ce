import AnalysisPlan.Json.Value
import AnalysisPlan.Text.Digits

/-!
# Reading JSON

A recursive reader for JSON texts. Besides the standard it takes `NaN`,
`Infinity` and `-Infinity`; a number with a fraction or an exponent is a real,
any other a whole number of at most 4300 digits. How deep lists and objects may
stand inside each other is up to whoever reads, since it depends on what is left of
the stack.

An escape by number may stand for half of a pair that makes a character. Where the
other half is missing, the text that is meant is none that can be held here, so the
reader stops and says so.

Every step takes the text that is left and returns what it read with what is
left then. A complaint remembers how much of the text was left where it arose,
from which the line, the column and the offset are found. The reader is
structurally recursive on a bound of its depth: twice the length of the text, since
between two steps down at least one character is taken. The number of lists and
objects that may still be opened is counted apart from it.
-/

namespace AnalysisPlan
namespace Json

/-- What can be wrong with a JSON text. -/
inductive Complaint where
  | byteOrderMark
  | value
  | propertyName
  | colon
  | comma
  | unterminatedString
  | controlCharacter
  | escape
  | unicodeEscape
  | extraData
deriving Repr, DecidableEq

def Complaint.message : Complaint → String
  | byteOrderMark => "Unexpected UTF-8 BOM (decode using utf-8-sig)"
  | value => "Expecting value"
  | propertyName => "Expecting property name enclosed in double quotes"
  | colon => "Expecting ':' delimiter"
  | comma => "Expecting ',' delimiter"
  | unterminatedString => "Unterminated string starting at"
  | controlCharacter => "Invalid control character at"
  | escape => "Invalid \\escape"
  | unicodeEscape => "Invalid \\uXXXX escape"
  | extraData => "Extra data"

/-- A complaint and where it arose. Lines and columns count from one. -/
structure Malformation where
  complaint : Complaint
  line : Nat
  column : Nat
  offset : Nat
deriving Repr, DecidableEq

def Malformation.message (m : Malformation) : String :=
  m.complaint.message ++ ": line " ++ toString m.line ++ " column " ++ toString m.column ++
    " (char " ++ toString m.offset ++ ")"

/-- The place in a text at which a complaint arose. -/
def Malformation.locate (text : List Char) (complaint : Complaint) (offset : Nat) :
    Malformation :=
  let before := text.take offset
  { complaint
    line := before.count '\n' + 1
    column := (before.reverse.takeWhile (· != '\n')).length + 1
    offset }

/-- What holds other values. -/
inductive Container where
  | list
  | object
deriving Repr, DecidableEq

def Container.name : Container → String
  | list => "array"
  | object => "object"

/-- The most containers that may stand inside each other where a program reads that has
done little else. -/
def usualNesting : Nat := 990

/-- Why a text could not be read. -/
inductive ReadFault where
  | malformed (m : Malformation)
  | integerTooLong (digits : Nat)
  | nestedTooDeeply (container : Container)
  | halfPair
deriving Repr, DecidableEq

namespace Reader

/-- Why reading stopped. A complaint is placed by how much text was left. -/
inductive Stop where
  | malformed (complaint : Complaint) (left : Nat)
  | integerTooLong (digits : Nat)
  | nestedTooDeeply (container : Container)
  | halfPair
deriving Repr, DecidableEq

def isSpace (c : Char) : Bool := c = ' ' || c = '\t' || c = '\n' || c = '\r'

/-- The text from its next part on. -/
def skip (s : List Char) : List Char := s.dropWhile isSpace

/-- What is left after a word the text begins with. -/
def after? : List Char → List Char → Option (List Char)
  | [], s => some s
  | _ :: _, [] => none
  | w :: word, c :: s => if w = c then after? word s else none

def hexDigit? (c : Char) : Option Nat :=
  if '0' ≤ c ∧ c ≤ '9' then some (c.toNat - 48)
  else if 'a' ≤ c ∧ c ≤ 'f' then some (c.toNat - 87)
  else if 'A' ≤ c ∧ c ≤ 'F' then some (c.toNat - 55)
  else none

def unit? (a b c d : Char) : Option Nat := do
  let a ← hexDigit? a
  let b ← hexDigit? b
  let c ← hexDigit? c
  let d ← hexDigit? d
  pure (((a * 16 + b) * 16 + c) * 16 + d)

/-- The code point that an escape of one letter stands for. -/
def letter? (c : Char) : Option Nat :=
  if c = '"' ∨ c = '\\' ∨ c = '/' then some c.toNat
  else if c = 'b' then some 8
  else if c = 'f' then some 12
  else if c = 'n' then some 10
  else if c = 'r' then some 13
  else if c = 't' then some 9
  else none

/-- Reads a string from behind its opening quote, as code points and sixteen-bit
units. `opened` is what stood behind that quote. An escape by number needs a
character after it, since the string is not closed yet. -/
def units (opened : List Char) : List Char → Except Stop (List Nat × List Char)
  | [] => .error (.malformed .unterminatedString (opened.length + 1))
  | c :: rest =>
    if c = '"' then .ok ([], rest)
    else if c = '\\' then
      match rest with
      | [] => .error (.malformed .unterminatedString (opened.length + 1))
      | e :: more =>
        if e = 'u' then
          match more with
          | h₁ :: h₂ :: h₃ :: h₄ :: tail =>
            if tail = [] then .error (.malformed .unicodeEscape (more.length + 1))
            else
              match unit? h₁ h₂ h₃ h₄ with
              | none => .error (.malformed .unicodeEscape (more.length + 1))
              | some n => (fun r => (n :: r.1, r.2)) <$> units opened tail
          | _ => .error (.malformed .unicodeEscape (more.length + 1))
        else
          match letter? e with
          | none => .error (.malformed .escape (rest.length + 1))
          | some n => (fun r => (n :: r.1, r.2)) <$> units opened more
    else if c.toNat < 0x20 then .error (.malformed .controlCharacter (rest.length + 1))
    else (fun r => (c.toNat :: r.1, r.2)) <$> units opened rest

/-- Whether a unit is the first of two that stand for one character. -/
def isHigh (n : Nat) : Bool := 0xD800 ≤ n && n < 0xDC00

/-- Whether a unit is the second of two that stand for one character. -/
def isLow (n : Nat) : Bool := 0xDC00 ≤ n && n < 0xE000

theorem not_half_of_toNat (c : Char) : (isHigh c.toNat || isLow c.toNat) = false := by
  have hvalid : c.toNat < 0xD800 ∨ 0xDFFF < c.toNat := c.valid.imp id And.left
  simp only [isHigh, isLow, Bool.or_eq_false_iff, Bool.and_eq_false_iff, decide_eq_false_iff_not]
  omega

/-- The characters of code points and units, unless a unit lacks its partner. -/
def charsOfUnits? : List Nat → Option (List Char)
  | [] => some []
  | [n] => if isHigh n || isLow n then none else some [Char.ofNat n]
  | n :: m :: rest =>
    if isHigh n && isLow m then
      (Char.ofNat (0x10000 + (n - 0xD800) * 0x400 + (m - 0xDC00)) :: ·) <$> charsOfUnits? rest
    else if isHigh n || isLow n then none
    else (Char.ofNat n :: ·) <$> charsOfUnits? (m :: rest)

/-- Reads a string from behind its opening quote. -/
def string (s : List Char) : Except Stop (String × List Char) := do
  let (ns, rest) ← units s s
  match charsOfUnits? ns with
  | some chars => pure (String.ofList chars, rest)
  | none => .error .halfPair

theorem string_of_units {s rest : List Char} {ns : List Nat} (h : units s s = .ok (ns, rest)) :
    string s = (charsOfUnits? ns).elim (.error .halfPair)
      fun chars => .ok (String.ofList chars, rest) := by
  unfold string
  rw [h]
  simp only [bind, Except.bind]
  cases charsOfUnits? ns <;> rfl

def digitsValue (ds : List Char) : Nat := ds.foldl (fun n d => n * 10 + (d.toNat - 48)) 0

/-- The digits of a whole part, which does not begin with a needless zero. -/
def wholeDigits? : List Char → Option (List Char × List Char)
  | '0' :: rest => some (['0'], rest)
  | s =>
    let ds := s.takeWhile Char.isDigit
    if ds = [] then none else some (ds, s.dropWhile Char.isDigit)

/-- The digits after a point; empty if no fraction follows. -/
def fraction : List Char → List Char × List Char
  | '.' :: rest =>
    let ds := rest.takeWhile Char.isDigit
    if ds = [] then ([], '.' :: rest) else (ds, rest.dropWhile Char.isDigit)
  | s => ([], s)

/-- A text without the sign it may begin with, and whether that is a minus. -/
def sign : List Char → Bool × List Char
  | '-' :: rest => (true, rest)
  | '+' :: rest => (false, rest)
  | s => (false, s)

def exponent? (s : List Char) : Option (Int × List Char) :=
  match s with
  | [] => none
  | e :: rest =>
    if e = 'e' ∨ e = 'E' then
      let (negative, rest) := sign rest
      let ds := rest.takeWhile Char.isDigit
      if ds = [] then none
      else
        let n : Int := digitsValue ds
        some (if negative then -n else n, rest.dropWhile Char.isDigit)
    else none

def number (s : List Char) : Except Stop (Value × List Char) :=
  let (negative, rest) := if s.head? = some '-' then (true, s.drop 1) else (false, s)
  match wholeDigits? rest with
  | none => .error (.malformed .value s.length)
  | some (whole, rest) =>
    let (part, rest) := fraction rest
    match exponent? rest with
    | some (n, rest) =>
      .ok (.real (.decimal negative (digitsValue (whole ++ part)) (n - part.length)), rest)
    | none =>
      if part ≠ [] then
        .ok (.real (.decimal negative (digitsValue (whole ++ part)) (-part.length)), rest)
      else if Text.maxDigits < whole.length then .error (.integerTooLong whole.length)
      else
        let n : Int := digitsValue whole
        .ok (.int (if negative then -n else n), rest)

def atom (s : List Char) : Except Stop (Value × List Char) :=
  match after? "null".toList s with
  | some rest => .ok (.null, rest)
  | none =>
  match after? "true".toList s with
  | some rest => .ok (.bool true, rest)
  | none =>
  match after? "false".toList s with
  | some rest => .ok (.bool false, rest)
  | none =>
  match after? "NaN".toList s with
  | some rest => .ok (.real .nan, rest)
  | none =>
  match after? "Infinity".toList s with
  | some rest => .ok (.real (.infinity false), rest)
  | none =>
  match after? "-Infinity".toList s with
  | some rest => .ok (.real (.infinity true), rest)
  | none => number s

mutual

/-- Reads a value. `room` containers may still be opened. -/
def value : Nat → Nat → List Char → Except Stop (Value × List Char)
  | 0, _, s => .error (.malformed .value s.length)
  | _ + 1, _, [] => .error (.malformed .value 0)
  | depth + 1, room, c :: rest =>
    if c = '"' then do
      let (t, rest) ← string rest
      pure (.str t, rest)
    else if c = '{' then
      if room = 0 then .error (.nestedTooDeeply .object)
      else
        match after? ['}'] (skip rest) with
        | some rest => .ok (.object [], rest)
        | none => do
          let (pairs, rest) ← members depth (room - 1) (skip rest)
          pure (.object (fieldsOfPairs pairs), rest)
    else if c = '[' then
      if room = 0 then .error (.nestedTooDeeply .list)
      else
        match after? [']'] (skip rest) with
        | some rest => .ok (.list [], rest)
        | none => do
          let (vs, rest) ← items depth (room - 1) (skip rest)
          pure (.list vs, rest)
    else atom (c :: rest)

/-- Reads the fields of an object, at least one, with the closing brace. -/
def members : Nat → Nat → List Char → Except Stop (List (String × Value) × List Char)
  | 0, _, s => .error (.malformed .value s.length)
  | depth + 1, room, s =>
    match after? ['"'] s with
    | none => .error (.malformed .propertyName s.length)
    | some rest => do
      let (key, rest) ← string rest
      match after? [':'] (skip rest) with
      | none => .error (.malformed .colon (skip rest).length)
      | some rest => do
        let (v, rest) ← value depth room (skip rest)
        match skip rest with
        | '}' :: rest => pure ([(key, v)], rest)
        | ',' :: rest => do
          let (pairs, rest) ← members depth room (skip rest)
          pure ((key, v) :: pairs, rest)
        | rest => .error (.malformed .comma rest.length)

/-- Reads the items of a list, at least one, with the closing bracket. -/
def items : Nat → Nat → List Char → Except Stop (List Value × List Char)
  | 0, _, s => .error (.malformed .value s.length)
  | depth + 1, room, s => do
    let (v, rest) ← value depth room s
    match skip rest with
    | ']' :: rest => pure ([v], rest)
    | ',' :: rest => do
      let (vs, rest) ← items depth room (skip rest)
      pure (v :: vs, rest)
    | rest => .error (.malformed .comma rest.length)

end

/-- Reads a whole text, in which `room` containers may be open at a time. -/
def document (room : Nat) (s : List Char) : Except Stop Value :=
  if s.head? = some '\uFEFF' then .error (.malformed .byteOrderMark s.length)
  else
    match value (2 * s.length + 2) room (skip s) with
    | .error stop => .error stop
    | .ok (v, rest) =>
      if skip rest = [] then .ok v else .error (.malformed .extraData (skip rest).length)

end Reader

/-- The value of a JSON text with containers at most `nesting` deep. -/
def read (text : List Char) (nesting : Nat := usualNesting) : Except ReadFault Value :=
  match Reader.document nesting text with
  | .ok v => .ok v
  | .error (.malformed complaint left) =>
    .error (.malformed (Malformation.locate text complaint (text.length - left)))
  | .error (.integerTooLong digits) => .error (.integerTooLong digits)
  | .error (.nestedTooDeeply container) => .error (.nestedTooDeeply container)
  | .error .halfPair => .error .halfPair

end Json
end AnalysisPlan
