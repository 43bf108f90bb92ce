import AnalysisPlan.Console.Handler
import AnalysisPlan.Console.Marked
import AnalysisPlan.Console.Style

/-!
# Markup

Texts for the rich console may hold tags, which begin with a bracket and a small
letter, `#`, `/` or `@`, and end at the next closing bracket; another opening
bracket in between makes them no tags. A backslash before a tag makes it plain
text, and two of them are one backslash. Reading markup gives what is left when
the tags are taken out, with the stretches between them, and checks that every closing
tag closes something: `[/name]` the last open tag of that name, `[/]` the last open tag
of all. A tag that is never closed reaches to the end of the text.

Two names are the same if they describe the same style, or if they describe none and
differ in case only. When a tag about an event is closed, its handler is looked at; it
describes nothing. How a stretch looks is looked at where it is shown.
-/

namespace AnalysisPlan
namespace Console
namespace Markup

/-- A tag: its name, what stands behind an equals sign, and where it begins. -/
structure Tag where
  name : List Char
  parameters : Option (List Char)
  position : Nat
deriving Repr, DecidableEq

/-- What can be wrong with markup: a tag that closes nothing, or one whose name or
handler cannot be understood. -/
inductive MarkupFault where
  | unmatched (tag : String) (position : Nat)
  | nothingOpen (position : Nat)
  | color (f : Color.ColorFault)
  | handler (f : Handler.HandlerFault)
deriving Repr, DecidableEq

def MarkupFault.message : MarkupFault → String
  | unmatched tag position =>
    s!"closing tag '[{tag}]' at position {position} doesn't match any open tag"
  | nothingOpen position => s!"closing tag '[/]' at position {position} has nothing to close"
  | color f => f.message
  | handler f => f.message

def opensTag (c : Char) : Bool :=
  ('a' ≤ c && c ≤ 'z') || c == '#' || c == '/' || c == '@'

/-- What stands before the next closing bracket, if no opening one comes first. -/
def untilBracket? : List Char → Option (List Char)
  | [] => none
  | c :: rest =>
    if c = ']' then some []
    else if c = '[' then none
    else (untilBracket? rest).map (c :: ·)

def tagBody? : List Char → Option (List Char)
  | '[' :: c :: rest => if opensTag c then (untilBracket? rest).map (c :: ·) else none
  | _ => none

def tagOf (body : List Char) (position : Nat) : Tag where
  name := body.takeWhile (· != '=')
  parameters := if '=' ∈ body then some ((body.dropWhile (· != '=')).drop 1) else none
  position

/-- A part of a text with markup. -/
inductive Token where
  | plain (chars : List Char)
  | tag (t : Tag)
deriving Repr, DecidableEq

/-- The parts that backslashes and a tag stand for. -/
def escaped (backslashes : Nat) (body : List Char) (offset : Nat) : List Token :=
  [.plain (List.replicate (backslashes / 2) '\\'),
   if backslashes % 2 = 1 then .plain ('[' :: body ++ [']'])
   else .tag (tagOf body (offset + backslashes))]

/-- The parts of a text that begins at `offset`, of which the first `skip`
characters belong to a tag that was already met. A backslash before a bracket
that begins no tag is dropped. -/
def tokens : Nat → Nat → List Char → List Token
  | _, _, [] => []
  | offset, skip + 1, _ :: rest => tokens (offset + 1) skip rest
  | offset, 0, c :: rest =>
    let backslashes := ((c :: rest).takeWhile (· == '\\')).length
    match tagBody? ((c :: rest).drop backslashes) with
    | some body =>
      escaped backslashes body offset ++
        tokens (offset + 1) (backslashes + body.length + 1) rest
    | none =>
      if c = '\\' ∧ rest.head? = some '[' then tokens (offset + 1) 0 rest
      else .plain [c] :: tokens (offset + 1) 0 rest

/-- The name under which a tag is opened and closed. -/
def normalName (name : List Char) : Except MarkupFault String :=
  match Style.read name with
  | .ok style => .ok style.text
  | .error .unknownWord => .ok (Text.lowerCase (String.ofList (Text.trim name)))
  | .error (.color f) => .error (.color f)

def Tag.shown (t : Tag) : String :=
  match t.parameters with
  | none => String.ofList t.name
  | some ps => String.ofList (t.name ++ '=' :: ps)

/-- A tag that is open: the name to close it by, what stands behind its equals sign, and
how much of the text stands before it. -/
structure OpenTag where
  name : String
  parameters : Option (List Char)
  start : Nat
deriving Repr, DecidableEq

/-- Opens a tag in a text of which so many characters stand before it. -/
def Tag.opened (t : Tag) (start : Nat) : Except MarkupFault OpenTag :=
  (normalName t.name).map fun name => ⟨name, t.parameters, start⟩

namespace OpenTag

def words (t : OpenTag) : String :=
  match t.parameters with
  | none => t.name
  | some ps => t.name ++ " " ++ String.ofList ps

/-- The stretch of a tag that ends at the given place. -/
def stretch (t : OpenTag) (stop : Nat) : Stretch := ⟨t.start, stop, t.words⟩

/-- What a tag describes that is closed at the given place, which is nothing if the tag
is about an event. -/
def closedAt (t : OpenTag) (stop : Nat) : Except MarkupFault (Option Stretch) :=
  if t.name.toList.head? = some '@' then
    match (t.parameters.map Handler.check).getD (.ok ()) with
    | .ok () => .ok none
    | .error f => .error (.handler f)
  else .ok (some (t.stretch stop))

end OpenTag

/-- The tag that a closing one closes, which is the last opened of its name, and the
others. The last opened tag stands first. -/
def matching (opened : List OpenTag) (t : Tag) : Except MarkupFault (OpenTag × List OpenTag) :=
  let name := Text.trim (t.name.drop 1)
  if name.isEmpty then
    match opened with
    | [] => .error (.nothingOpen t.position)
    | last :: others => .ok (last, others)
  else
    match normalName name with
    | .error f => .error f
    | .ok normal =>
      match opened.find? (·.name = normal) with
      | none => .error (.unmatched t.shown t.position)
      | some last => .ok (last, opened.eraseP (·.name = normal))

/-- The text without its tags, of which `before` characters are in front and where the
given tags are open. Its stretches stand in the order in which they end. -/
def strip : Nat → List OpenTag → List Token → Except MarkupFault Marked
  | before, opened, [] => .ok ⟨[], opened.map (·.stretch before)⟩
  | before, opened, .plain chars :: rest => do
    let seen := Wrap.visible chars
    let text ← strip (before + seen.length) opened rest
    return { text with chars := seen ++ text.chars }
  | before, opened, .tag t :: rest =>
    if t.name.head? = some '/' then do
      let (closed, others) ← matching opened t
      let stretch ← closed.closedAt before
      let text ← strip before others rest
      return { text with stretches := stretch.toList ++ text.stretches }
    else do
      strip before ((← t.opened before) :: opened) rest

/-- The stretches by where they begin; of those that begin in one place the one that
ends last stands first. -/
def inOrder (stretches : List Stretch) : List Stretch :=
  stretches.reverse.mergeSort fun a b => a.start ≤ b.start

def read (s : List Char) : Except MarkupFault Marked :=
  (strip 0 [] (tokens 0 0 s)).map fun m => { m with stretches := inOrder m.stretches }

/-- Whether words say how a text looks. Words that describe no style at all say that it
looks as always. -/
def checkWords (words : String) : Except MarkupFault Unit :=
  match Style.read words.toList with
  | .error (.color f) => .error (.color f)
  | _ => .ok ()

def checkLooks (stretches : List Stretch) : Except MarkupFault Unit :=
  stretches.forM fun s => checkWords s.words

end Markup
end Console
end AnalysisPlan
