import AnalysisPlan.Text.Digits
import AnalysisPlan.Text.Pieces
import AnalysisPlan.Text.Quoted

/-!
# The grammar of a command line

A command line is made of switches, which may take a value, and of arguments,
which fill slots. A switch is recognised by its name, by an unambiguous beginning
of a long name, and with its value attached behind an equals sign; a short switch
also when other letters follow it. After the word `--`, the marker, all words are
arguments. The marker itself is never a value: a switch that has it attached has
none, and neither has a slot that got nothing else.

All words are looked at before any is taken, so an ambiguous switch counts before
everything else. Slots are filled greedily by each run of arguments: as many slots
as the run can fill, the first ones first. Words that nothing takes are left over.

Option parsers differ in two of these points, and the rules here are those of release
3.11.3 and the ones before it. A later parser takes a marker that is attached to a switch
for its value (`attachedValue`). Among the letters behind a short switch it leaves over
those from the first one on that names no switch, instead of refusing them
(`Grammar.takeLetters`).
-/

namespace AnalysisPlan
namespace CommandLine

/-- What a switch does. -/
inductive Effect where
  | help
  | flag
  | value
deriving Repr, DecidableEq

/-- A switch with the names it goes by, the last of which is its own. -/
structure Switch where
  names : List String
  effect : Effect
deriving Repr, DecidableEq

/-- How many words a slot takes: at most one, exactly one, or one and all that
follow. -/
inductive Capacity where
  | optional
  | single
  | rest
deriving Repr, DecidableEq

/-- A place for arguments. -/
structure Slot where
  name : String
  capacity : Capacity
deriving Repr, DecidableEq

/-- The switches and slots of a command line. -/
structure Grammar where
  switches : List Switch
  slots : List Slot
deriving Repr, DecidableEq

/-- What a word is attached to its switch with. -/
inductive Attached where
  | behindEquals (value : List Char)
  | letters (letters : List Char)
deriving Repr, DecidableEq

/-- What a word is. A stranger looks like a switch and is none. -/
inductive Role where
  | argument
  | marker
  | switch (s : Switch) (attached : Option Attached)
  | stranger
deriving Repr, DecidableEq

/-- A word and what it is. -/
structure Word where
  text : String
  role : Role
deriving Repr, DecidableEq

/-- What can be wrong with a command line. -/
inductive UsageFault where
  | ambiguous (word : String) (candidates : List String)
  | valueIgnored (switch : Switch) (value : String)
  | valueMissing (switch : Switch)
  | invalidChoice (slot word : String) (choices : List String)
  | slotsEmpty (slots : List String)
  | unrecognized (words : List String)
deriving Repr, DecidableEq

def Switch.shown (s : Switch) : String := String.intercalate "/" s.names

def Switch.name (s : Switch) : String := s.names.getLast?.getD ""

def UsageFault.message : UsageFault → String
  | ambiguous word candidates =>
    s!"ambiguous option: {word} could match " ++ String.intercalate ", " candidates
  | valueIgnored switch value =>
    s!"argument {switch.shown}: ignored explicit argument " ++ Text.quoted value
  | valueMissing switch => s!"argument {switch.shown}: expected one argument"
  | invalidChoice slot word choices =>
    s!"argument {slot}: invalid choice: {Text.quoted word} (choose from " ++
      String.intercalate ", " (choices.map Text.quoted) ++ ")"
  | slotsEmpty slots =>
    "the following arguments are required: " ++ String.intercalate ", " slots
  | unrecognized words => "unrecognized arguments: " ++ String.intercalate " " words

namespace Grammar

def named? (g : Grammar) (name : List Char) : Option Switch :=
  g.switches.find? fun s => s.names.any fun n => n.toList == name

/-- What is attached to a name by an equals sign. Behind a short name it counts as
letters, if it is anything at all. -/
def attachedTo (name value : List Char) : Attached :=
  if ['-', '-'].isPrefixOf name ∨ value = [] then .behindEquals value else .letters value

/-- A word taken apart at its first equals sign. -/
def atEquals (word : List Char) : List Char × Option Attached :=
  let name := word.takeWhile (· != '=')
  (name,
   if '=' ∈ word then some (attachedTo name ((word.dropWhile (· != '=')).drop 1)) else none)

/-- What one name makes of a word that is not quite it: a long name may be cut
short, a short one be followed by letters. -/
def interpret? (word name : List Char) : Option (Option Attached) :=
  if ['-', '-'].isPrefixOf word then
    if (atEquals word).1.isPrefixOf name then some (atEquals word).2 else none
  else if word.take 2 = name then some (some (.letters (word.drop 2)))
  else if word.isPrefixOf name then some none
  else none

def candidates (g : Grammar) (word : List Char) :
    List (String × Switch × Option Attached) :=
  g.switches.flatMap fun s =>
    s.names.filterMap fun n => (interpret? word n.toList).map fun a => (n, s, a)

/-- What a word with a dash is that has no reading as a switch. -/
def roleOfUnknown (word : List Char) : Role :=
  if Text.isNegativeNumber word || word.contains ' ' then .argument else .stranger

/-- What a word is that is no name of a switch. -/
def roleOfInexact (g : Grammar) (word : List Char) : Except UsageFault Role :=
  match g.candidates word with
  | [] => .ok (roleOfUnknown word)
  | [(_, s, attached)] => .ok (.switch s attached)
  | many => .error (.ambiguous (String.ofList word) (many.map (·.1)))

def roleOf (g : Grammar) (word : List Char) : Except UsageFault Role :=
  if word.head? ≠ some '-' then .ok .argument
  else
    match g.named? word with
    | some s => .ok (.switch s none)
    | none =>
      if word.length = 1 then .ok .argument
      else
        match g.named? (atEquals word).1, (atEquals word).2 with
        | some s, some attached => .ok (.switch s (some attached))
        | _, _ => g.roleOfInexact word

def words (g : Grammar) : List String → Except UsageFault (List Word)
  | [] => .ok []
  | text :: rest =>
    if text = "--" then .ok (⟨text, .marker⟩ :: rest.map fun t => ⟨t, .argument⟩)
    else
      match g.roleOf text.toList with
      | .error f => .error f
      | .ok role => (words g rest).map (⟨text, role⟩ :: ·)

end Grammar

namespace Word

def isArgument (w : Word) : Bool := w.role == .argument

def isMarker (w : Word) : Bool := w.role == .marker

def isSwitch (w : Word) : Bool := !w.isArgument && !w.isMarker

end Word

def downFrom (n : Nat) : List Nat := (List.range (n + 1)).reverse

/-- How many markers may be taken from the front, the most first. -/
def markerLengths (ws : List Word) : List Nat := downFrom (ws.takeWhile Word.isMarker).length

/-- How many words the middle of a slot may take. -/
def Capacity.lengths (c : Capacity) (ws : List Word) : List Nat :=
  let one := match ws with
    | w :: _ => w.isArgument
    | [] => false
  match c with
  | optional => if one then [1, 0] else [0]
  | single => if one then [1] else []
  | rest => if one then [1] else []

/-- How many words may follow the middle of a slot. -/
def Capacity.endLengths (c : Capacity) (ws : List Word) : List Nat :=
  match c with
  | rest => downFrom ws.length
  | _ => markerLengths ws

/-- The numbers of words that a slot may take, the preferred ones first. -/
def Slot.lengths (s : Slot) (ws : List Word) : List Nat :=
  (markerLengths ws).flatMap fun a =>
    (s.capacity.lengths (ws.drop a)).flatMap fun b =>
      (s.capacity.endLengths (ws.drop (a + b))).map fun c => a + b + c

def fillAll? : List Slot → List Word → Option (List Nat)
  | [], _ => some []
  | s :: slots, ws =>
    (s.lengths ws).findSome? fun n => (fillAll? slots (ws.drop n)).map (n :: ·)

def fill (slots : List Slot) (ws : List Word) : List Nat :=
  ((downFrom slots.length).findSome? fun k => fillAll? (slots.take k) ws).getD []

/-- What was found on a command line. -/
inductive Binding where
  | help
  | flag (switch : String)
  | value (switch : String) (value : Option String)
  | slot (name : String) (values : List String)
deriving Repr, DecidableEq

/-- Why reading a command line ends early. -/
inductive Halt where
  | help
  | fault (f : UsageFault)
deriving Repr, DecidableEq

/-- What was found, what is left over, and the words still to be taken. -/
structure Taken where
  bindings : List Binding
  extras : List String := []
  rest : List Word

def Switch.bare (s : Switch) : Binding :=
  if s.effect = .help then .help else .flag s.name

/-- Takes a switch whose value, if it takes one, is the next word. -/
def Switch.take (s : Switch) (ws : List Word) : Except UsageFault Taken :=
  if s.effect = .value then
    match ws with
    | w :: rest =>
      if w.isArgument then .ok { bindings := [.value s.name (some w.text)], rest }
      else .error (.valueMissing s)
    | [] => .error (.valueMissing s)
  else .ok { bindings := [s.bare], rest := ws }

/-- The value that is attached to a switch. The marker is none. -/
def attachedValue (value : List Char) : Option String :=
  if value = ['-', '-'] then none else some (String.ofList value)

/-- Takes a switch with what is attached to it as its value. -/
def Switch.takeAttached (s : Switch) (value : List Char) (ws : List Word) :
    Except UsageFault Taken :=
  if s.effect = .value then
    .ok { bindings := [.value s.name (attachedValue value)], rest := ws }
  else .error (.valueIgnored s (String.ofList value))

/-- Takes a switch with letters behind it: its value, or further short switches. -/
def Grammar.takeLetters (g : Grammar) (ws : List Word) :
    Switch → List Char → Except UsageFault Taken
  | s, [] => s.take ws
  | s, c :: letters =>
    if s.effect = .value then s.takeAttached (c :: letters) ws
    else
      match g.named? ['-', c] with
      | none => .error (.valueIgnored s (String.ofList (c :: letters)))
      | some t =>
        (takeLetters g ws t letters).map fun taken =>
          { taken with bindings := s.bare :: taken.bindings }

/-- Takes the first word, which is or looks like a switch. -/
def Grammar.takeWord (g : Grammar) (w : Word) (ws : List Word) : Except UsageFault Taken :=
  match w.role with
  | .switch s none => s.take ws
  | .switch s (some (.behindEquals value)) => s.takeAttached value ws
  | .switch s (some (.letters letters)) => g.takeLetters ws s letters
  | _ => .ok { bindings := [], extras := [w.text], rest := ws }

/-- The values of a slot. The marker is no value, unless it belongs to the rest of a
command line. -/
def Slot.values (s : Slot) (ws : List Word) : List String :=
  let texts := ws.map (·.text)
  if s.capacity = .rest then texts else texts.erase "--"

def bindSlots : List Slot → List Nat → List Word → List Binding
  | s :: slots, n :: counts, ws =>
    .slot s.name (s.values (ws.take n)) :: bindSlots slots counts (ws.drop n)
  | _, _, _ => []

/-- What a command line says: what was found, what is left over, and the slots
that were not filled. -/
structure Reading where
  bindings : List Binding := []
  extras : List String := []
  unfilled : List Slot
deriving Repr, DecidableEq

/-- Reads words in at most `n` rounds, each of which takes at least one. -/
def Grammar.rounds (g : Grammar) : Nat → Reading → List Word → Except Halt Reading
  | 0, r, _ => .ok r
  | n + 1, r, ws =>
    let counts := fill r.unfilled ws
    let filled : Reading :=
      { bindings := r.bindings ++ bindSlots r.unfilled counts ws
        extras := r.extras
        unfilled := r.unfilled.drop counts.length }
    let total := counts.foldr (· + ·) 0
    let rest := ws.drop total
    if !ws.any Word.isSwitch then
      .ok { filled with extras := filled.extras ++ rest.map (·.text) }
    else
      match ws with
      | [] => .ok filled
      | w :: others =>
        if w.isSwitch then
          match g.takeWord w others with
          | .error f => .error (.fault f)
          | .ok taken =>
            if .help ∈ taken.bindings then .error .help
            else
              g.rounds n
                { r with
                  bindings := r.bindings ++ taken.bindings
                  extras := r.extras ++ taken.extras }
                taken.rest
        else if total = 0 then
          g.rounds n
            { filled with
              extras := filled.extras ++ (ws.takeWhile (!·.isSwitch)).map (·.text) }
            (ws.dropWhile (!·.isSwitch))
        else g.rounds n filled rest

/-- Reads a command line. A slot that takes exactly one word must be filled. -/
def Grammar.read (g : Grammar) (args : List String) : Except Halt Reading :=
  match g.words args with
  | .error f => .error (.fault f)
  | .ok ws => do
    let r ← g.rounds (ws.length + 1) { unfilled := g.slots } ws
    match (r.unfilled.filter (·.capacity == .single)).map (·.name) with
    | [] => return r
    | empty => .error (.fault (.slotsEmpty empty))

namespace Reading

def hasFlag (r : Reading) (switch : String) : Bool := r.bindings.contains (.flag switch)

def valuesOf (r : Reading) (switch : String) : List (Option String) :=
  r.bindings.filterMap fun
    | .value s v => if s = switch then some v else none
    | _ => none

def wordsIn (r : Reading) (slot : String) : List String :=
  (r.bindings.findSome? fun
    | .slot s values => if s = slot then some values else none
    | _ => none).getD []

end Reading

end CommandLine
end AnalysisPlan
