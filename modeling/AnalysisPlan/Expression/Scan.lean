import AnalysisPlan.Expression.Number

/-!
# Cutting a text into tokens

Blanks between tokens and what stands behind a hash sign do not count, and neither do
the ends of lines where a bracket is open or where a backslash stands in front of them.
Elsewhere the end of a line is a token, and so is a change of the indentation. Brackets
must match, and a quoted text must end with the quotes it began with; three quotes may
hold lines.

The cutting stops at the first thing that is no token. It takes at least one character
with each step, but for the step at the beginning of a line, which is why twice the length
of the text bounds the number of steps.
-/

namespace AnalysisPlan
namespace Expression

namespace Tokens

def cons (t : Token) (ts : Tokens) : Tokens := { ts with list := t :: ts.list }

/-- No tokens, for a reason. -/
def refused (f : TokenFault) : Tokens := ⟨[], .refused f⟩

/-- No tokens, since the text ends too early while the given brackets are open. -/
def stopped (f : EndFault) (opened : List (Char × Nat)) : Tokens :=
  match f, opened with
  | .lineMissing, (opening, _) :: _ => ⟨[], .stopped (.neverClosed opening) opened⟩
  | _, _ => ⟨[], .stopped f opened⟩

end Tokens

/-- A place between tokens: its line, whether that line has only begun, whether nothing
of it counts, the open brackets with their lines, and the open indentations with their
columns. The innermost bracket and the innermost indentation stand first. -/
structure Place where
  line : Nat
  fresh : Bool := true
  blank : Bool := false
  opened : List (Char × Nat) := []
  indents : List (Nat × Nat) := []
deriving Repr, DecidableEq

namespace Place

/-- A token that begins here. -/
def token (p : Place) (kind : TokenKind) (chars : List Char) : Token where
  kind
  chars
  line := p.line
  depth := p.opened.length

def nextLine (p : Place) : Place :=
  { p with line := p.line + 1, fresh := true, blank := false }

def behind (p : Place) (chars : List Char) : Place :=
  { p with line := p.line + chars.count '\n' }

end Place

/-- The blanks at the beginning of a line, counted with tabs to every eighth column and
with tabs as one column. Where the line is joined to the one before, the blanks in front
of the first backslash count. -/
structure Indentation where
  column : Nat := 0
  tabless : Nat := 0
  joined : Nat := 0
deriving Repr, DecidableEq

namespace Indentation

/-- The indentation with one more blank. -/
def step (i : Indentation) (c : Char) : Indentation :=
  if c = ' ' then { i with column := i.column + 1, tabless := i.tabless + 1 }
  else if c = '\t' then
    { i with column := (i.column / 8 + 1) * 8, tabless := i.tabless + 1 }
  else { i with column := 0, tabless := 0 }

def columns (i : Indentation) : Nat × Nat :=
  if i.joined = 0 then (i.column, i.tabless) else (i.joined, i.joined)

/-- Takes the blanks at the beginning of a line and gives the columns that count, the
number of lines that are joined, and what is left. -/
def take : Indentation → Nat → List Char →
    Except EndFault ((Nat × Nat) × Nat × List Char)
  | i, n, [] => .ok (i.columns, n, [])
  | _, _, ['\\', '\n'] => .error .lineMissing
  | i, n, '\\' :: '\n' :: rest =>
    take { i with joined := if i.joined = 0 then i.column else i.joined } (n + 1) rest
  | i, n, c :: rest =>
    if c = ' ' ∨ c = '\t' ∨ c = '\x0c' then take (i.step c) n rest
    else if c = '\\' then .error .brokenLine
    else .ok (i.columns, n, c :: rest)

/-- The indentations that are left when a line has fewer blanks than the last. -/
def close (columns : Nat × Nat) : List (Nat × Nat) → Option (List (Nat × Nat))
  | [] => if columns = (0, 0) then some [] else none
  | first :: others =>
    if columns.1 < first.1 then close columns others
    else if columns = first then some (first :: others)
    else none

/-- The open indentations at a line with the given columns, or nothing if the line fits
none of them. -/
def change (columns : Nat × Nat) (opened : List (Nat × Nat)) : Option (List (Nat × Nat)) :=
  let last := opened.head?.getD (0, 0)
  if last.1 < columns.1 then
    if last.2 < columns.2 then some (columns :: opened) else none
  else close columns opened

end Indentation

def openingQuotes (s : List Char) : List Char :=
  let quote := s.take 1
  if s.take 3 = quote ++ quote ++ quote then s.take 3 else quote

/-- What is read of a quoted text whose quotes were opened, and what is left behind it if
it is closed. -/
def readQuoted (quotes : List Char) : List Char → List Char × Option (List Char)
  | [] => ([], none)
  | ['\\'] => (['\\'], none)
  | '\\' :: c :: rest =>
    let (read, left) := readQuoted quotes rest
    ('\\' :: c :: read, left)
  | c :: rest =>
    if quotes.isPrefixOf (c :: rest) then (quotes, some (rest.drop (quotes.length - 1)))
    else if c = '\n' ∧ quotes.length = 1 then (['\n'], none)
    else
      let (read, left) := readQuoted quotes rest
      (c :: read, left)

/-- Takes a quoted text behind the letters in front of it, and gives its spelling and what
is left. -/
def takeQuoted (p : Place) (letters s : List Char) :
    Except TokenFault (List Char × List Char) :=
  let quotes := openingQuotes s
  let (read, left) := readQuoted quotes (s.drop quotes.length)
  match left with
  | some rest => .ok (letters ++ quotes ++ read, rest)
  | none => .error (.unterminated (quotes.length == 3) (p.line + read.dropLast.count '\n'))

/-- Takes a token other than a bracket, which the given text begins with, and gives its
kind, its spelling and what is left. -/
def takeToken (p : Place) (s : List Char) :
    Except TokenFault (TokenKind × List Char × List Char) :=
  match s with
  | [] => .ok (.textEnd, [], [])
  | c :: rest =>
    if inWord c ∧ !c.isDigit then
      let word := s.takeWhile inWord
      let behind := s.dropWhile inWord
      if quotationMarks.contains (word.map Char.toLower) ∧
          behind.head?.any (fun q => q ∈ ['\'', '"'])
      then (takeQuoted p word behind).map fun q => (.quoted, q.1, q.2)
      else
        match if word.any (128 ≤ ·.toNat) then Text.foreignChar? word else none with
        | some foreign => .error (.foreignChar foreign)
        | none => .ok (wordKind word, word, behind)
    else if c.isDigit ∨ c = '.' ∧ rest.head?.any Char.isDigit then do
      let left ← Number.take s
      return (.number, s.take (s.length - left.length), left)
    else if c = '\'' ∨ c = '"' then
      (takeQuoted p [] s).map fun q => (.quoted, q.1, q.2)
    else
      match longMarks.find? (·.isPrefixOf s) with
      | some mark => .ok (.mark, mark, s.drop mark.length)
      | none =>
        if Text.isPrintable c then .ok (.mark, [c], rest) else .error (.foreignChar c)

/-- The place behind a bracket. -/
def Place.bracket (p : Place) (c : Char) : Except TokenFault Place :=
  if isOpening c then
    if maxBrackets ≤ p.opened.length then .error .nestedTooDeeply
    else .ok { p with opened := (c, p.line) :: p.opened }
  else
    match p.opened with
    | [] => .error (.unmatched c)
    | (opening, line) :: others =>
      if closingOf opening = c then .ok { p with opened := others }
      else .error (.mismatched c opening (if line = p.line then none else some line))

/-- The tokens of a text from a place on, in at most `n` steps. -/
def scan : Nat → Place → List Char → Tokens
  | 0, _, _ => ⟨[], .complete⟩
  | n + 1, p, s =>
    if p.fresh then
      match Indentation.take {} 0 s with
      | .error f => .stopped f p.opened
      | .ok (columns, joined, rest) =>
        let p := { p with fresh := false, line := p.line + joined }
        if rest.head? = some '#' ∨ rest.head? = some '\n' then
          scan n { p with blank := true } rest
        else if p.opened ≠ [] then scan n p rest
        else
          match Indentation.change columns p.indents with
          | none => .stopped .unevenIndentation []
          | some indents =>
            let changes :=
              if p.indents.length < indents.length then [p.token .indent []]
              else List.replicate (p.indents.length - indents.length) (p.token .dedent [])
            changes.foldr .cons (scan n { p with indents } rest)
    else
      match s with
      | [] =>
        if p.opened = [] then ⟨[p.token .textEnd []], .complete⟩
        else .stopped .lineMissing p.opened
      | ['\\', '\n'] => .stopped .lineMissing p.opened
      | '\\' :: '\n' :: rest => scan n { p with line := p.line + 1 } rest
      | c :: rest =>
        if c = ' ' ∨ c = '\t' ∨ c = '\x0c' then scan n p rest
        else if c = '#' then scan n p (rest.dropWhile (· != '\n'))
        else if c = '\n' then
          if p.blank ∨ p.opened ≠ [] then scan n p.nextLine rest
          else .cons (p.token .lineEnd []) (scan n p.nextLine rest)
        else if c = '\\' then .stopped .brokenLine p.opened
        else if isOpening c ∨ isClosing c then
          match p.bracket c with
          | .error f => .refused f
          | .ok q =>
            .cons { q.token .mark [c] with isLast := rest.isEmpty } (scan n q rest)
        else
          match takeToken p s with
          | .error f => .refused f
          | .ok (kind, chars, left) =>
            let isLast := left.isEmpty && kind.looksBehind chars
            .cons { p.token kind chars with isLast } (scan n (p.behind chars) left)

def Tokens.ofText (line : Nat) (s : List Char) : Tokens :=
  scan (2 * s.length + 2) { line } s

end Expression
end AnalysisPlan
