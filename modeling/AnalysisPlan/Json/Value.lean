/-!
# JSON values

A JSON value with the fields of an object in the order of their first
occurrence; a later field of the same name replaces the value of the earlier one
and leaves its place. Whole numbers are of any size. A number with a fraction or
an exponent is kept as the decimal that was written, `mantissa * 10 ^ exponent`;
the three values that no decimal denotes stand beside it.
-/

namespace AnalysisPlan
namespace Json

/-- A number that is not written as a whole number. -/
inductive Real where
  | decimal (negative : Bool) (mantissa : Nat) (exponent : Int)
  | infinity (negative : Bool)
  | nan
deriving Repr, DecidableEq

/-- Whether a decimal is nearer to zero than to the least positive number of
double precision. Half of that number still goes to zero. -/
def Real.isZero : Real → Bool
  | decimal _ mantissa exponent =>
    let order := (Nat.toDigits 10 mantissa).length + exponent
    mantissa == 0 || order < -323 ||
      (order == -323 && mantissa * Nat.pow 2 1075 ≤ Nat.pow 10 exponent.natAbs)
  | infinity _ => false
  | nan => false

/-- The kinds of values, as messages name them. -/
inductive Kind where
  | null
  | bool
  | int
  | real
  | str
  | list
  | object
deriving Repr, DecidableEq

def Kind.name : Kind → String
  | null => "NoneType"
  | bool => "bool"
  | int => "int"
  | real => "float"
  | str => "str"
  | list => "list"
  | object => "dict"

/-- A JSON value. -/
inductive Value where
  | null
  | bool (b : Bool)
  | int (n : Int)
  | real (r : Real)
  | str (s : String)
  | list (items : List Value)
  | object (fields : List (String × Value))

instance : Inhabited Value := ⟨.null⟩

def Value.kind : Value → Kind
  | null => .null
  | bool _ => .bool
  | int _ => .int
  | real _ => .real
  | str _ => .str
  | list _ => .list
  | object _ => .object

/-- Whether a value says nothing: null, false, a zero, or something empty. -/
def Value.isVacant : Value → Bool
  | null => true
  | bool b => !b
  | int n => n == 0
  | real r => r.isZero
  | str s => s.isEmpty
  | list items => items.isEmpty
  | object fields => fields.isEmpty

/-- Puts a field into an object: in the place of the field of that name, or at
the end. -/
def putField {α : Type} (key : String) (value : α) :
    List (String × α) → List (String × α)
  | [] => [(key, value)]
  | (k, v) :: fields =>
    if k = key then (k, value) :: fields else (k, v) :: putField key value fields

def fieldsOfPairs {α : Type} (pairs : List (String × α)) : List (String × α) :=
  pairs.foldl (fun fields p => putField p.1 p.2 fields) []

end Json
end AnalysisPlan
