import AnalysisPlan.Text.Blank
import AnalysisPlan.Text.Pieces
import AnalysisPlan.Text.Width

/-!
# Wrapping lines

A text is broken into lines that fit into a number of cells. Its own line breaks
stay; a line that is too long is broken before words. A word that alone is too long
is broken as well, or cut with an ellipsis. The blanks behind a word stay on its
line, and are dropped only as far as they go beyond the end of it.
-/

namespace AnalysisPlan
namespace Console
namespace Wrap

/-- Whether a terminal would act on a character instead of showing it. -/
def isControl (c : Char) : Bool :=
  c.toNat == 7 || c.toNat == 8 || c.toNat == 11 || c.toNat == 12 || c.toNat == 13

/-- The text without the characters that a terminal would act on. -/
def visible (s : List Char) : List Char := s.filter (!isControl ·)

/-- The line with tabs replaced by blanks up to the next multiple of eight cells. -/
def expandTabs : Nat → List Char → List Char
  | _, [] => []
  | used, c :: rest =>
    if c = '\t' then
      List.replicate (8 - used % 8) ' ' ++ expandTabs (used + (8 - used % 8)) rest
    else c :: expandTabs (used + Text.charWidth c) rest

/-- The parts of a word with the blanks around it. -/
inductive WordPart where
  | lead
  | body
  | tail
deriving Repr, DecidableEq

/-- The words of a line with the blanks behind them, the first one also with those
before it. `taken` is the part of the current word that was met, in reverse. -/
def wordsFrom : WordPart → List Char → List Char → List (List Char)
  | .lead, _, [] => []
  | .body, taken, [] => [taken.reverse]
  | .tail, taken, [] => [taken.reverse]
  | part, taken, c :: rest =>
    if Text.isBlank c then
      wordsFrom (if part = .lead then .lead else .tail) (c :: taken) rest
    else if part = .tail then taken.reverse :: wordsFrom .body [c] rest
    else wordsFrom .body (c :: taken) rest

def words (s : List Char) : List (List Char) := wordsFrom .lead [] s

/-- A word cut into parts that fit, the first of which takes up what is left of a
line that holds `taken`, in reverse, in `used` cells. -/
def chop (room : Nat) : List Char → Nat → List Char → List (List Char)
  | taken, _, [] => [taken.reverse]
  | taken, used, c :: rest =>
    if used + Text.charWidth c ≤ room then chop room (c :: taken) (used + Text.charWidth c) rest
    else taken.reverse :: chop room [c] (Text.charWidth c) rest

/-- What happens to a word that is too long for a line. -/
inductive Overflow where
  | fold
  | ellipsis
deriving Repr, DecidableEq

/-- Puts words behind a line that takes `used` cells. A word that is cut before its first
character leaves an empty line only if there is a line before it. -/
def fill (o : Overflow) (room : Nat) :
    List Char → Nat → List (List Char) → List (List Char)
  | line, _, [] => [line]
  | line, used, word :: rest =>
    let size := Text.width (Text.trimRight word)
    if used + size ≤ room then fill o room (line ++ word) (used + Text.width word) rest
    else if size ≤ room then line :: fill o room word (Text.width word) rest
    else
      let parts := if o = .fold then chop room [] 0 word else [word]
      let last := parts.getLast?.getD []
      (if line.isEmpty then parts.dropLast.dropWhile List.isEmpty else line :: parts.dropLast) ++
        fill o room last (Text.width last) rest

/-- The line without the blanks at its end that are beyond `room` characters. -/
def dropExcess (room : Nat) (line : List Char) : List Char :=
  let blanks := line.length - (Text.trimRight line).length
  line.take (line.length - min blanks (line.length - room))

/-- The line, cut if it takes more than `room` cells. -/
def fit (o : Overflow) (room : Nat) (line : List Char) : List Char :=
  if Text.width line ≤ room then line
  else
    match o with
    | .fold => Text.cut room line
    | .ellipsis => Text.cut (room - 1) line ++ ['…']

/-- The parts that a line without tabs is broken into. Nothing of the line is lost. -/
def parts (o : Overflow) (room : Nat) (line : List Char) : List (List Char) :=
  match words line with
  | [] => [line]
  | ws => fill o room [] 0 ws

/-- The lines that one line is broken into, before they are cut. -/
def breakLine (o : Overflow) (room : Nat) (line : List Char) : List (List Char) :=
  (parts o room (expandTabs 0 line)).map (dropExcess room)

def breakText (o : Overflow) (room : Nat) (s : List Char) : List (List Char) :=
  (Text.split '\n' s).flatMap (breakLine o room)

def wrap (room : Nat) (s : List Char) : List (List Char) :=
  (breakText .fold room s).map (fit .fold room)

def unbroken (room : Nat) (s : List Char) : List (List Char) :=
  (Text.split '\n' s).map fun line => dropExcess room (expandTabs 0 line)

/-- Whether a character ends a line where widths are taken. -/
def endsLine (c : Char) : Bool :=
  c == '\n' || (0x1C ≤ c.toNat && c.toNat ≤ 0x1E) || c.toNat == 0x85 ||
    c.toNat == 0x2028 || c.toNat == 0x2029

/-- The widest line of a text whose current line takes `used` cells. -/
def widestFrom : Nat → List Char → Nat
  | used, [] => used
  | used, c :: rest =>
    if endsLine c then max used (widestFrom 0 rest)
    else widestFrom (used + Text.charWidth c) rest

def widest (s : List Char) : Nat := widestFrom 0 s

theorem flatten_wordsFrom (part : WordPart) (taken s : List Char) (h : part ≠ .lead) :
    (wordsFrom part taken s).flatten = taken.reverse ++ s := by
  induction s generalizing part taken with
  | nil => cases part <;> simp_all [wordsFrom]
  | cons c rest ih =>
    cases part with
    | lead => exact absurd rfl h
    | body =>
      simp only [wordsFrom]
      split <;> simp [ih]
    | tail =>
      simp only [wordsFrom]
      split <;> simp [ih]

theorem flatten_chop (room : Nat) (taken : List Char) (used : Nat) (s : List Char) :
    (chop room taken used s).flatten = taken.reverse ++ s := by
  induction s generalizing taken used with
  | nil => simp [chop]
  | cons c rest ih =>
    simp only [chop]
    split <;> simp [ih]

end Wrap
end Console
end AnalysisPlan
