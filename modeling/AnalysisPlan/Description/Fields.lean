import AnalysisPlan.Fault

/-!
# Typed fields

Reading the fields of a JSON object as values of a given shape. A field that is
there must have its shape; whether it must be there at all is up to the reader. A
truth value is no number here, whatever other formats make of it.
-/

namespace AnalysisPlan
namespace Description

/-- The fields of a JSON object. -/
abbrev Fields := List (String × Json.Value)

/-- What a field may hold: the kind that messages ask for, and the value of a
field of that kind. -/
structure Shape (α : Type) where
  kind : Json.Kind
  read : Json.Value → Option α

namespace Shape

def text : Shape String where
  kind := .str
  read
    | .str s => some s
    | _ => none

def flag : Shape Bool where
  kind := .bool
  read
    | .bool b => some b
    | _ => none

def number : Shape Int where
  kind := .int
  read
    | .int n => some n
    | _ => none

def list : Shape (List Json.Value) where
  kind := .list
  read
    | .list items => some items
    | _ => none

def object : Shape Fields where
  kind := .object
  read
    | .object fields => some fields
    | _ => none

end Shape

/-- A value of a shape. The key is the one that a complaint names. -/
def shaped {α : Type} (shape : Shape α) (key : String) (v : Json.Value) : Except Fault α :=
  match shape.read v with
  | some a => .ok a
  | none => .error (.wrongKind key shape.kind v.kind)

def optional {α : Type} (shape : Shape α) (fields : Fields) (key : String) :
    Except Fault (Option α) :=
  match fields.lookup key with
  | none => .ok none
  | some v => (shaped shape key v).map some

def withDefault {α : Type} (shape : Shape α) (fields : Fields) (key : String) (default : α) :
    Except Fault α :=
  (optional shape fields key).map (·.getD default)

def required {α : Type} (shape : Shape α) (fields : Fields) (key : String) : Except Fault α :=
  match fields.lookup key with
  | none => .error (.missingOption key)
  | some v => shaped shape key v

/-- The texts of a list that may hold nothing else. The place is the one that a
complaint names. -/
def texts (place : String) : List Json.Value → Except Fault (List String)
  | [] => .ok []
  | .str s :: items => (texts place items).map (s :: ·)
  | v :: _ => .error (.notText place v.kind)

def textsField (place : String) (fields : Fields) (key : String) : Except Fault (List String) := do
  texts place (← withDefault Shape.list fields key [])

theorem texts_map_str (place : String) (ss : List String) :
    texts place (ss.map .str) = .ok ss := by
  induction ss with
  | nil => rfl
  | cons s ss ih => simp [texts, ih, Except.map]

end Description
end AnalysisPlan
