/-!
# Dependency configurations

A named list of coordinates. What was declared counts; only where nothing was
declared does the fallback, which is looked up at the time of the question, so
that a later choice of the analyser's version is respected.
-/

namespace AnalysisPlan

/-- What a configuration without declared coordinates stands for. -/
inductive Fallback where
  | nothing
  | coordinates (list : List String)
  | analyser
deriving Repr, DecidableEq

/-- A named list of coordinates. -/
structure Configuration where
  name : String
  description : String := ""
  visible : Bool := false
  transitive : Bool := true
  declared : List String := []
  fallback : Fallback := .nothing
deriving Repr, DecidableEq

def defaultAnalyserVersion : String := "1.10.0"

/-- The version of the analyser; an empty choice is none. -/
def analyserVersion (chosen : Option String) : String :=
  match chosen with
  | none => defaultAnalyserVersion
  | some v => if v = "" then defaultAnalyserVersion else v

def analyserCoordinate (chosen : Option String) : String :=
  "io.gitlab.arturbosch.detekt:detekt-cli:" ++ analyserVersion chosen

/-- The coordinates a fallback stands for under the chosen version. -/
def Fallback.coordinatesFor (chosen : Option String) : Fallback → List String
  | nothing => []
  | coordinates list => list
  | analyser => [analyserCoordinate chosen]

namespace Configuration

def usesFallback (c : Configuration) : Bool := c.declared.isEmpty && c.fallback != .nothing

def resolved (c : Configuration) (chosen : Option String) : List String :=
  if c.declared.isEmpty then c.fallback.coordinatesFor chosen else c.declared

def declare (c : Configuration) (coordinates : List String) : Configuration :=
  { c with declared := c.declared ++ coordinates }

end Configuration

end AnalysisPlan
