import AnalysisPlan.Text.Casing.Table

/-!
# Upper case, lower case and case folding

The full case mappings: a character may become several, and a capital sigma
becomes the final form where it ends a word. `capitalize` changes the first
character of a name only, and `foldCase` is what two names are compared by when
their case is to be ignored. Folding works character by character, so it respects
appending; lower case does not, because of the sigma.
-/

namespace AnalysisPlan
namespace Text

/-- The run of a case mapping that moves a code point, if there is one. -/
def caseRun? (runs : List CaseRun) (n : Nat) : Option CaseRun :=
  runs.find? fun r => r.first ≤ n && n ≤ r.last && (n - r.first) % r.stride == 0

/-- The image of one character under a case mapping. -/
def mapCase (runs : List CaseRun) (sequences : List (Nat × List Nat)) (c : Char) :
    List Char :=
  match sequences.lookup c.toNat with
  | some ns => ns.map Char.ofNat
  | none =>
    match caseRun? runs c.toNat with
    | some r => [Char.ofNat (c.toNat + r.shift).toNat]
    | none => [c]

def upperChar (c : Char) : List Char := mapCase upperRuns upperSequences c

def lowerChar (c : Char) : List Char := mapCase lowerRuns lowerSequences c

def foldChar (c : Char) : List Char := mapCase foldRuns foldSequences c

/-- Whether a character has case and counts when words are looked for. -/
def isCased (c : Char) : Bool := inRanges casedRanges c.toNat

/-- Whether a character is passed over when words are looked for. -/
def isCaseIgnorable (c : Char) : Bool := inRanges caseIgnorableRanges c.toNat

def meetsCased (s : List Char) : Bool :=
  match s.dropWhile isCaseIgnorable with
  | c :: _ => isCased c
  | [] => false

/-- Lower case of a text that follows `before`, which is held in reverse order.
A capital sigma that has a cased character before it and none after it is
final. -/
def lowerAfter : List Char → List Char → List Char
  | _, [] => []
  | before, c :: rest =>
    (if c = 'Σ' then
      (if meetsCased before && !meetsCased rest then ['ς'] else ['σ'])
    else lowerChar c) ++ lowerAfter (c :: before) rest

def lowerCase (s : String) : String := String.ofList (lowerAfter [] s.toList)

/-- The folded form of a text, in which case makes no difference. -/
def foldCase (s : String) : String := String.ofList (s.toList.flatMap foldChar)

def capitalize (name : String) : String :=
  match name.toList with
  | [] => ""
  | c :: rest => String.ofList (upperChar c ++ rest)

end Text
end AnalysisPlan
