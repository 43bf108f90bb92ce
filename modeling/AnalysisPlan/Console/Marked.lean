import AnalysisPlan.Console.Wrap

/-!
# Marked texts

A text in which stretches are described by words. A marked text can be cut into parts,
and the parts joined again; then every stretch is cut at the ends of the parts, and
what is left of it in a part is described as before. A cut leaves no empty stretches,
but a text that is not cut keeps those it has.

Where a text is laid out in lines, only the stretches count of which something is shown.
-/

namespace AnalysisPlan
namespace Console

/-- A stretch of a text, from its first character to the one behind its last, and the
words that describe it. -/
structure Stretch where
  start : Nat
  stop : Nat
  words : String
deriving Repr, DecidableEq

namespace Stretch

/-- The stretch in a text that begins so many characters earlier. -/
def shift (offset : Nat) (s : Stretch) : Stretch :=
  { s with start := offset + s.start, stop := offset + s.stop }

/-- What is left of a stretch in the part of the text that begins at `offset` and has
`size` characters. -/
def within? (offset size : Nat) (s : Stretch) : Option Stretch :=
  let start := s.start - offset
  let stop := min (s.stop - offset) size
  if start < stop then some { s with start, stop } else none

end Stretch

/-- A text with described stretches. -/
structure Marked where
  chars : List Char
  stretches : List Stretch := []
deriving Repr, DecidableEq

namespace Marked

def append (a b : Marked) : Marked where
  chars := a.chars ++ b.chars
  stretches := a.stretches ++ b.stretches.map (·.shift a.chars.length)

def join (parts : List Marked) : Marked := parts.foldr append ⟨[], []⟩

/-- The parts of a text from `offset` on, which have the given sizes. -/
def partsFrom (m : Marked) : Nat → List Nat → List Marked
  | _, [] => []
  | offset, size :: sizes =>
    { chars := (m.chars.drop offset).take size,
      stretches := m.stretches.filterMap (·.within? offset size) } ::
      partsFrom m (offset + size) sizes

/-- A text cut into parts of the given sizes, which are as long together as the text. -/
def cut (m : Marked) (sizes : List Nat) : List Marked :=
  if sizes.length ≤ 1 then [m] else m.partsFrom 0 sizes

def lines (m : Marked) : List Marked :=
  let sizes := (Text.split '\n' m.chars).map List.length
  (m.cut (sizes.intersperse 1)).filter (·.chars ≠ ['\n'])

/-- A part of a line that has no tab but at its end, with blanks for the tab. What
describes the tab describes the blanks. -/
def withoutTab (used : Nat) (part : Marked) : Marked :=
  let chars := Wrap.expandTabs used part.chars
  { chars,
    stretches := part.stretches.map fun s =>
      if s.stop = part.chars.length then { s with stop := chars.length } else s }

/-- The parts of a line, of which none has a tab but at its end, without their tabs, if
the line takes `used` cells before them. -/
def withoutTabs : Nat → List Marked → List Marked
  | _, [] => []
  | used, part :: parts =>
    let part := part.withoutTab used
    part :: withoutTabs (used + Text.width part.chars) parts

/-- The line with blanks for its tabs. -/
def expandTabs (line : Marked) : Marked :=
  match ((Text.split '\t' line.chars).map (·.length + 1)).reverse with
  | last :: others =>
    if others.isEmpty then line
    else join (withoutTabs 0 (line.cut ((last - 1) :: others).reverse))
  | [] => line

/-- The stretches that are left when a text is cut off behind `size` characters. -/
def keptBefore (m : Marked) (size : Nat) : List Stretch :=
  if size < m.chars.length then m.stretches.filter (·.start < size) else m.stretches

/-- The stretches of which something is shown where a text is broken into lines, line
by line. `finish` makes of a part of the text the line that is shown. -/
def shown (o : Wrap.Overflow) (room : Nat) (finish : List Char → List Char) (m : Marked) :
    List Stretch :=
  m.lines.flatMap fun line =>
    let line := line.expandTabs
    let sizes := (Wrap.parts o room line.chars).map List.length
    (line.cut sizes).flatMap fun part => part.keptBefore (finish part.chars).length

end Marked
end Console
end AnalysisPlan
