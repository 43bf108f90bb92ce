import AnalysisPlan.Console.Wrap

/-!
# Paragraphs

A paragraph is a text that is laid out in lines of plain letters. It may be broken
behind blanks, and behind a hyphen that joins two letters; the places where it may
be broken cut it into pieces, and the pieces joined are the text. Blanks at the end
of a line are dropped.

A piece that is too long for a line of its own begins on the line at hand and is cut
where the line is full; a line that is full already stays as it is, with the blank
it ends with.
-/

namespace AnalysisPlan
namespace Console
namespace Paragraph

/-- Whether a paragraph may be broken behind a character, given its neighbours. -/
def breaksBehind (before : Option Char) (c : Char) (after : Option Char) : Bool :=
  c == ' ' || (c == '-' && before.any Char.isAlpha && after.any Char.isAlpha)

/-- The pieces of a text. `taken` is the part of the current piece that was met, in
reverse. -/
def piecesFrom : List Char → List Char → List (List Char)
  | taken, [] => [taken.reverse]
  | taken, c :: rest =>
    if breaksBehind taken.head? c rest.head? then (c :: taken).reverse :: piecesFrom [] rest
    else piecesFrom (c :: taken) rest

def pieces (s : List Char) : List (List Char) := piecesFrom [] s

/-- Puts pieces behind the line at hand, with at most `room` characters on a line. -/
def fill (room : Nat) : List Char → List (List Char) → List (List Char)
  | line, [] => [Text.trimRight line]
  | line, piece :: rest =>
    let word := Text.trimRight piece
    if line.length + word.length ≤ room then fill room (line ++ piece) rest
    else if word.length ≤ room then Text.trimRight line :: fill room piece rest
    else
      let parts := Wrap.chop room line.reverse line.length word
      parts.dropLast.map (·.take room) ++
        fill room (parts.getLast?.getD [] ++ piece.drop word.length) rest

def lines (room : Nat) (s : List Char) : List (List Char) := fill room [] (pieces s)

end Paragraph
end Console
end AnalysisPlan
