import AnalysisPlan.Text.Ranges
import AnalysisPlan.Text.Width.Table

/-!
# Width on a terminal

The room a text takes on a terminal, counted in cells: two for an East Asian wide
character, none for a combining mark or a control, one for any other character.
A wide character that does not fit in what is left of a line is replaced by a
space when the line is cut. The cut is looked for by halving.
-/

namespace AnalysisPlan
namespace Text

def charWidth (c : Char) : Nat :=
  if 0x20 ≤ c.toNat ∧ c.toNat < 0x7F then 1
  else if inRanges zeroWidthRanges c.toNat then 0
  else if inRanges wideRanges c.toNat then 2
  else 1

def width : List Char → Nat
  | [] => 0
  | c :: s => charWidth c + width s

@[simp] theorem width_nil : width [] = 0 := rfl

theorem width_cons (c : Char) (s : List Char) : width (c :: s) = charWidth c + width s := rfl

theorem width_append (s t : List Char) : width (s ++ t) = width s + width t := by
  induction s with
  | nil => simp
  | cons c s ih => simp [width_cons, ih, Nat.add_assoc]

/-- A beginning of a text, which is wider than `room`, that fills `room` cells,
looked for by halving between two places in at most `n` tries. -/
def cutBetween (room : Nat) (s : List Char) : Nat → Nat → Nat → List Char
  | 0, low, _ => s.take low
  | n + 1, low, high =>
    let middle := (low + high) / 2
    let before := s.take (middle + 1)
    if width before = room + 1 ∧ before.getLast?.map charWidth = some 2 then
      before.dropLast ++ [' ']
    else if width before = room then before
    else if room < width before then cutBetween room s n low middle
    else cutBetween room s n middle high

/-- A text that is wider than `room`, cut to `room` cells. A wide character of which
only half would fit becomes a space. Where marks that take no room stand at the
cut, the first place that halving comes to decides which of them are kept. -/
def cut (room : Nat) (s : List Char) : List Char :=
  if room = 0 then [] else cutBetween room s s.length 0 s.length

end Text
end AnalysisPlan
