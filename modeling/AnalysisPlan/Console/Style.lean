import AnalysisPlan.Console.Color
import AnalysisPlan.Text.Blank
import AnalysisPlan.Text.Casing

/-!
# Styles

How a text looks: attributes that are on or off, a color, a color behind it, and a
link. A style is described by words in any order: an attribute, `not` and an
attribute, a color, `on` and a color, `link` and where it leads. What is said later
counts. A style is shown by words in one order, so descriptions of one style are
shown alike. Colors are shown by the words that name them.
-/

namespace AnalysisPlan
namespace Console

open Color (ColorFault isColor)

/-- What a text can be or not be. -/
inductive Attribute where
  | bold
  | dim
  | italic
  | underline
  | blink
  | fastBlink
  | reverse
  | conceal
  | strike
  | doubleUnderline
  | frame
  | encircle
  | overline
deriving Repr, DecidableEq

namespace Attribute

def all : List Attribute :=
  [bold, dim, italic, underline, blink, fastBlink, reverse, conceal, strike,
   doubleUnderline, frame, encircle, overline]

def name : Attribute → String
  | bold => "bold"
  | dim => "dim"
  | italic => "italic"
  | underline => "underline"
  | blink => "blink"
  | fastBlink => "blink2"
  | reverse => "reverse"
  | conceal => "conceal"
  | strike => "strike"
  | doubleUnderline => "underline2"
  | frame => "frame"
  | encircle => "encircle"
  | overline => "overline"

def shortName? : Attribute → Option String
  | bold => some "b"
  | dim => some "d"
  | italic => some "i"
  | underline => some "u"
  | reverse => some "r"
  | conceal => some "c"
  | strike => some "s"
  | doubleUnderline => some "uu"
  | overline => some "o"
  | _ => none

def named? (word : String) : Option Attribute :=
  all.find? fun a => a.name = word ∨ a.shortName? = some word

end Attribute

/-- A style. Of several settings of an attribute the first counts. -/
structure Style where
  settings : List (Attribute × Bool) := []
  color : Option String := none
  background : Option String := none
  link : Option String := none
deriving Repr, DecidableEq

/-- Why words do not describe a style. -/
inductive StyleFault where
  | unknownWord
  | color (f : ColorFault)
deriving Repr, DecidableEq

namespace Style

def set (s : Style) (a : Attribute) (on : Bool) : Style :=
  { s with settings := (a, on) :: s.settings }

/-- Whether an attribute is on or off, if anything is said about it. -/
def setting? (s : Style) (a : Attribute) : Option Bool := s.settings.lookup a

def settingWords (s : Style) (a : Attribute) : List String :=
  match s.setting? a with
  | none => []
  | some true => [a.name]
  | some false => ["not", a.name]

def words (s : Style) : List String :=
  Attribute.all.flatMap s.settingWords ++ s.color.toList ++
    (s.background.map fun c => ["on", c]).getD [] ++ (s.link.map fun l => ["link", l]).getD []

def text (s : Style) : String :=
  if s.words.isEmpty then "none" else String.intercalate " " s.words

def colorOf (word : String) : Except StyleFault String :=
  let color := Text.lowerCase word
  match isColor color with
  | .error f => .error (.color f)
  | .ok true => .ok color
  | .ok false => .error .unknownWord

def withWord (s : Style) (word : String) : Except StyleFault Style :=
  match Attribute.named? (Text.lowerCase word) with
  | some a => .ok (s.set a true)
  | none => (colorOf word).map fun c => { s with color := some c }

/-- The style with what words add to it. Capital letters are as good as small ones, but
not for the attribute behind `not`. -/
def withWords : Style → List String → Except StyleFault Style
  | s, [] => .ok s
  | s, [word] => s.withWord word
  | s, word :: next :: rest =>
    match Text.lowerCase word with
    | "on" =>
      match colorOf next with
      | .error f => .error f
      | .ok c => withWords { s with background := some c } rest
    | "not" =>
      match Attribute.named? next with
      | none => .error .unknownWord
      | some a => withWords (s.set a false) rest
    | "link" => withWords { s with link := some next } rest
    | _ =>
      match s.withWord word with
      | .error f => .error f
      | .ok styled => withWords styled (next :: rest)

def read (s : List Char) : Except StyleFault Style :=
  withWords {} ((Text.words s).map String.ofList)

end Style
end Console
end AnalysisPlan
