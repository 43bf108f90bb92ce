import AnalysisPlan.Console.Marked

/-!
# Grids

Texts in columns. Every column is as wide as its widest line, with a blank on
either side, and one blank stands between two columns. An entry may have several
lines; shorter ones of the same row are filled up, headers at the top and other
entries at the bottom. All lines of a grid are equally wide.

A grid that is wider than the screen is narrowed: time and again the widest columns are
made as wide as the next widest, or as narrow as it takes. In a column that has no room
beside its two blanks nothing is shown.
-/

namespace AnalysisPlan
namespace Console

/-- The side on which the texts of a column are lined up. -/
inductive Alignment where
  | left
  | right
deriving Repr, DecidableEq

/-- A column: its alignment, its header if headers are shown, and its entries. -/
structure Column where
  alignment : Alignment := .left
  header : Option Marked := none
  entries : List Marked
deriving Repr, DecidableEq

namespace Column

def texts (c : Column) : List Marked := c.header.toList ++ c.entries

/-- The cells that a column takes with a blank on either side, if it may take as many as
there is room for. One without texts takes all of them, and every column takes at least
one. -/
def width (room : Nat) (c : Column) : Nat :=
  let widest := (c.texts.map fun text => Wrap.widest text.chars + 2).foldl max 0
  max 1 (if c.texts.isEmpty then room else min room widest)

/-- The entry of a row, or none if the column is shorter. -/
def entry (c : Column) (row : Nat) : Marked := c.entries[row]?.getD ⟨[], []⟩

end Column

namespace Grid

def blanks (n : Nat) : List Char := List.replicate n ' '

/-- A quotient rounded to the nearest number, and to an even one from the middle between
two. -/
def nearest (n d : Nat) : Nat :=
  let q := n / d
  let r := n % d
  if 2 * r < d ∨ 2 * r = d ∧ q % 2 = 0 then q else q + 1

/-- Widths of which those of `widest` cells, `count` ones, get narrower by `excess` cells in
all, but none of them by more than `most`. -/
def reduce (widest most : Nat) : Nat → Nat → List Nat → List Nat
  | _, _, [] => []
  | excess, count, w :: ws =>
    if w = widest then
      let taken := min most (nearest excess count)
      (w - taken) :: reduce widest most (excess - taken) (count - 1) ws
    else w :: reduce widest most excess count ws

def total (widths : List Nat) : Nat := widths.foldr (· + ·) 0

/-- Widths that take no more than `room` cells in all. Every one of at most `n` steps makes
the widest columns narrower. -/
def narrow (room : Nat) : Nat → List Nat → List Nat
  | 0, widths => widths
  | n + 1, widths =>
    let excess := total widths - room
    if excess = 0 then widths
    else
      let widest := widths.foldl max 0
      let next := (widths.filter (· != widest)).foldl max 0
      narrow room n
        (reduce widest (min excess (widest - next)) excess (widths.count widest) widths)

theorem narrow_of_total_le {room : Nat} {widths : List Nat} (h : total widths ≤ room) (n : Nat) :
    narrow room n widths = widths := by
  cases n with
  | zero => rfl
  | succ n => simp [narrow, Nat.sub_eq_zero_of_le h]

def room (screen : Nat) (columns : List Column) : Nat := screen - (columns.length - 1)

def widths (screen : Nat) (columns : List Column) : List Nat :=
  let room := room screen columns
  let widths := columns.map (·.width room)
  narrow room (total widths) widths

def sized (screen : Nat) (columns : List Column) : List (Nat × Column) :=
  (widths screen columns).zip columns

def width (screen : Nat) (columns : List Column) : Nat :=
  total (widths screen columns) + (columns.length - 1)

def cutLine (a : Alignment) (width : Nat) (line : List Char) : List Char :=
  Wrap.fit .ellipsis width (match a with | .left => line | .right => Text.trimRight line)

/-- A line lined up in a column of the given width. -/
def align (a : Alignment) (width : Nat) (line : List Char) : List Char :=
  let line := cutLine a width line
  match a with
  | .left => line ++ blanks (width - Text.width line)
  | .right => blanks (width - Text.width line) ++ line

/-- The lines of an entry, with a blank on either side, in a column of the given width. In
a column without room there are none. -/
def entryLines (a : Alignment) (width : Nat) (text : Marked) : List (List Char) :=
  let inside := width - 2
  if inside = 0 then []
  else
    (Wrap.breakText .ellipsis inside text.chars).map fun line =>
      ' ' :: align a inside line ++ [' ']

def entryStretches (a : Alignment) (width : Nat) (text : Marked) : List Stretch :=
  let inside := width - 2
  if inside = 0 then []
  else text.shown .ellipsis inside fun line => cutLine a inside (Wrap.dropExcess inside line)

/-- Lines filled up to a height, at the top or at the bottom. -/
def fillUp (atTop : Bool) (height width : Nat) (lines : List (List Char)) : List (List Char) :=
  let filling := List.replicate (height - lines.length) (blanks width)
  if atTop then filling ++ lines else lines ++ filling

/-- The lines of a row, of which there is at least one. Each column gives its width
and the lines of its entry. -/
def rowLines (atTop : Bool) (row : List (Nat × List (List Char))) : List (List Char) :=
  let height := (row.map fun e => e.2.length).foldl max 1
  let filled := row.map fun e => fillUp atTop height e.1 e.2
  (List.range height).map fun i => [' '].intercalate (filled.map fun lines => lines[i]?.getD [])

def headLines (screen : Nat) (columns : List Column) : List (List Char) :=
  if columns.all (·.header.isNone) then []
  else
    rowLines true
        ((sized screen columns).map fun (w, c) =>
          (w, entryLines c.alignment w (c.header.getD ⟨[], []⟩))) ++
      [List.replicate (width screen columns) '─']

def height (columns : List Column) : Nat :=
  (columns.map fun c => c.entries.length).foldl max 0

def bodyLines (screen : Nat) (columns : List Column) : List (List Char) :=
  let sized := sized screen columns
  (List.range (height columns)).flatMap fun i =>
    rowLines false (sized.map fun (w, c) => (w, entryLines c.alignment w (c.entry i)))

def lines (screen : Nat) (columns : List Column) : List (List Char) :=
  headLines screen columns ++ bodyLines screen columns

/-- The stretches of which a grid shows something, headers first and then row by row. -/
def stretches (screen : Nat) (columns : List Column) : List Stretch :=
  let sized := sized screen columns
  (sized.flatMap fun (w, c) => c.header.toList.flatMap (entryStretches c.alignment w)) ++
    (List.range (height columns)).flatMap fun i =>
      sized.flatMap fun (w, c) => entryStretches c.alignment w (c.entry i)

def cutTitle (width : Nat) (line : List Char) : List Char :=
  Wrap.fit .fold width (Text.trimRight line)

/-- A line in the middle of the given width. An odd blank stands behind it. -/
def centre (width : Nat) (line : List Char) : List Char :=
  let line := cutTitle width line
  let shifted := blanks ((width - Text.width line) / 2) ++ line
  shifted ++ blanks (width - Text.width shifted)

def titleLines (width : Nat) (title : Marked) : List (List Char) :=
  (Wrap.breakText .fold width title.chars).map (centre width)

/-- The stretches of which a title over the given width shows something. -/
def titleStretches (width : Nat) (title : Marked) : List Stretch :=
  title.shown .fold width fun line => cutTitle width (Wrap.dropExcess width line)

end Grid
end Console
end AnalysisPlan
