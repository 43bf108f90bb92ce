import AnalysisPlan.Text.Digits
import AnalysisPlan.Text.Quoted

/-!
# Console messages

What a command has to say, before it is decided how it is shown. A message is
shown by one of two backends: the plain one writes it as it is, the rich one
reads markup in it and lays it out for the width of the screen.
-/

namespace AnalysisPlan
namespace Console

/-- An entry of a table. -/
inductive Cell where
  | text (s : String)
  | number (n : Int)
deriving Repr, DecidableEq

def Cell.chars : Cell → List Char
  | text s => s.toList
  | number n => (toString n).toList

def Cell.isNumber : Cell → Bool
  | text _ => false
  | number _ => true

def Cell.isOverlong : Cell → Bool
  | text _ => false
  | number n => Text.isOverlong n

/-- What a command has to say. -/
inductive Message where
  | info (text : String)
  | success (text : String)
  | warning (text : String)
  | error (text : String)
  | raw (text : String)
  | step (current total : Int) (description : String)
  | stepDetail (text : String)
  | umbrella (name : String) (dependencies : List String)
  | table (headers : List String) (rows : List (List Cell)) (title : String)
  | pairs (entries : List (String × String)) (title : String)
deriving Repr, DecidableEq

def Message.hasNumber : Message → Bool
  | table _ rows _ => rows.any (·.any Cell.isNumber)
  | _ => false

/-- Whether a message counts steps by a number that cannot be printed. -/
def Message.countsOverlong : Message → Bool
  | step current total _ => Text.isOverlong current || Text.isOverlong total
  | _ => false

/-- Whether a message is a single text with nothing around it but marks. -/
def Message.isText : Message → Bool
  | raw _ => false
  | umbrella .. => false
  | table .. => false
  | pairs .. => false
  | _ => true

/-- The cells in a line of a screen that is said to have `asked` of them. What is less
than nothing says nothing. -/
def screenColumns (asked : Int) : Nat := if asked < 0 then 80 else asked.toNat

/-- The ways of showing messages. -/
inductive Backend where
  | plain
  | rich
deriving Repr, DecidableEq

/-- A name that stands for no backend. -/
structure UnknownBackend where
  name : String
deriving Repr, DecidableEq

def UnknownBackend.message (u : UnknownBackend) : String :=
  "Unknown console backend: " ++ Text.quoted u.name

/-- The backend of a name. Without a terminal, the automatic choice is plain. -/
def Backend.ofName (name : String) : Except UnknownBackend Backend :=
  if name = "plain" ∨ name = "auto" then .ok .plain
  else if name = "rich" then .ok .rich
  else .error ⟨name⟩

end Console
end AnalysisPlan
