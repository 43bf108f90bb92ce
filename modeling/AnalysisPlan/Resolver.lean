import AnalysisPlan.Registrar

/-!
# Resolving variants into tasks

Variant sources are collected while a project is configured, and read once. The
variants that survive the ignore rules become tasks: those of primary variants
are gathered by one umbrella task, those of their secondaries by another, and an
umbrella is created when the first task needs it.

A pass over the sources is a list of steps (`VariantSource.steps`), which depends
on the sources and the rules alone. What a step does depends on the tasks that
are registered and on the names claimed so far: two variants of a pass may not
lead to task names that differ only by case.
-/

namespace AnalysisPlan

/-- Where variants come from: the entries behind their class paths, the variants
or why there are none, and what enumerating them reports. -/
structure VariantSource where
  boot : List String := []
  variants : Except Fault (List PrimaryVariant)
  notes : List LogEvent := []

/-- The tasks that gather analyses. -/
inductive Umbrella where
  | main
  | test
deriving Repr, DecidableEq

namespace Umbrella

def name : Umbrella → String
  | main => Task.mainUmbrella
  | test => Task.testUmbrella

def description : Umbrella → String
  | main =>
    "EXPERIMENTAL & SLOW: Run detekt analysis for production classes across " ++
      "all variants with type resolution"
  | test =>
    "EXPERIMENTAL & SLOW: Run detekt analysis for test classes across " ++
      "all variants with type resolution"

def task (u : Umbrella) : Task := .lifecycle u.name u.description Task.verificationGroup

end Umbrella

/-- A step of a pass. -/
inductive PassStep where
  | openSource
  | note (event : LogEvent)
  | enlist (umbrella : Umbrella) (variant : Variant) (boot : List String)
  | stop (fault : Fault)

namespace VariantSource

def secondaryStep (rules : IgnoreRules) (boot : List String) (v : Variant) : PassStep :=
  if rules.ignores v then .note (.secondarySkipped v.name) else .enlist .test v boot

def primarySteps (rules : IgnoreRules) (boot : List String) (v : PrimaryVariant) :
    List PassStep :=
  .enlist .main v.toVariant boot :: v.secondaries.map (secondaryStep rules boot)

/-- The steps for variants. Those that are ignored are reported first. -/
def variantSteps (rules : IgnoreRules) (boot : List String) (vs : List PrimaryVariant) :
    List PassStep :=
  (rules.dropped vs).map (fun v => .note (.variantSkipped v.name v.secondaries.length)) ++
    (rules.kept vs).flatMap (primarySteps rules boot)

def steps (rules : IgnoreRules) (s : VariantSource) : List PassStep :=
  .openSource :: s.notes.map .note ++
    match s.variants with
    | .ok vs => variantSteps rules s.boot vs
    | .error f => [.stop f]

def fixed (variants : List PrimaryVariant) (boot : List String) : VariantSource where
  boot
  variants := .ok variants

end VariantSource

/-- The state of a pass. -/
structure Pass where
  registry : Registry
  opened : Nat := 0
  claimed : List (String × String) := []
  umbrellas : List Umbrella := []
  enlisted : List (Umbrella × Task) := []

/-- A computation of a pass. -/
abbrev Passing := EStateM Fault Pass

namespace Pass

def registering {α : Type} (x : Registration α) : Passing α := fun p =>
  match x p.registry with
  | .ok a r => .ok a { p with registry := r }
  | .error f r => .error f { p with registry := r }

/-- Claims the task name of a variant, case ignored. A variant of the same name
may claim it again. -/
def claim (variant : String) : Passing Unit := do
  let name ← registering (Registration.require (Task.nameFor? variant))
  let key := Text.foldCase name
  match (← get).claimed.lookup key with
  | none => modify fun p => { p with claimed := (key, variant) :: p.claimed }
  | some earlier =>
    if earlier = variant then return () else throw (.namesDifferOnlyByCase earlier variant)

def gather (u : Umbrella) (task : String) : Passing Unit := do
  if u ∉ (← get).umbrellas then
    registering (Registration.add u.task)
    modify fun p => { p with umbrellas := u :: p.umbrellas }
    registering (Registration.report [.umbrellaCreated u.name])
  registering (Registration.connect u.name task)

/-- The unit that a variant is analysed as. -/
def unitOf (v : Variant) (boot : List String) : AnalysisUnit where
  name := v.name
  sources := v.sources
  classpath := v.classpath
  extra := boot

/-- Registers the task of a variant and puts it under its umbrella. -/
def enlist (r : Registrar) (u : Umbrella) (v : Variant) (boot : List String) :
    Passing Unit := do
  claim v.name
  let task ← registering (r.register (unitOf v boot))
  gather u task.name
  modify fun p => { p with enlisted := p.enlisted ++ [(u, task)] }

def step (r : Registrar) : PassStep → Passing Unit
  | .openSource => modify fun p => { p with opened := p.opened + 1 }
  | .note event => registering (Registration.report [event])
  | .enlist u v boot => enlist r u v boot
  | .stop f => throw f

def run (r : Registrar) : List PassStep → Passing Unit
  | [] => return ()
  | s :: steps => do
    step r s
    run r steps

def under (u : Umbrella) (p : Pass) : List Task :=
  (p.enlisted.filter fun e => e.1 == u).map (·.2)

theorem run_cons (r : Registrar) (s : PassStep) (steps : List PassStep) :
    run r (s :: steps) = (do step r s; run r steps) := rfl

end Pass

/-- The tasks that a pass registered, in order. -/
structure Resolution where
  main : List Task := []
  test : List Task := []
deriving Repr, DecidableEq

namespace Resolution

def byName (tasks : List Task) : List Task :=
  tasks.mergeSort fun a b => decide (a.name ≤ b.name)

/-- The names of the tasks of primary variants. -/
def mainNames (r : Resolution) : NameSet := .ofList (r.main.map (·.name))

/-- The names of the tasks of secondary variants. -/
def testNames (r : Resolution) : NameSet := .ofList (r.test.map (·.name))

end Resolution

/-- Collects variant sources and resolves them once. -/
structure Resolver where
  registrar : Registrar
  rules : IgnoreRules
  sources : List VariantSource := []
  resolved : Bool := false
  opened : Nat := 0

namespace Resolver

def addSource (r : Resolver) (s : VariantSource) : Except Fault Resolver :=
  if r.resolved then .error .sourceAfterResolution
  else .ok { r with sources := r.sources ++ [s] }

def steps (r : Resolver) : List PassStep := r.sources.flatMap (VariantSource.steps r.rules)

/-- Resolves the variants of all sources. The resolver is spent afterwards, also
if it failed. -/
def resolve (r : Resolver) (registry : Registry) :
    Resolver × EStateM.Result Fault Registry Resolution :=
  if r.resolved then (r, .error .resolvedTwice registry)
  else
    match Pass.run r.registrar r.steps { registry } with
    | .error f p => ({ r with resolved := true, opened := p.opened }, .error f p.registry)
    | .ok _ p =>
      let resolution : Resolution := { main := p.under .main, test := p.under .test }
      let done := LogEvent.variantsResolved resolution.main.length resolution.test.length
      ({ r with resolved := true, opened := p.opened },
        (do Registration.report [done]; return resolution : Registration Resolution) p.registry)

def resolveVariants (registrar : Registrar) (rules : IgnoreRules)
    (variants : List PrimaryVariant) (boot : List String) : Registration Resolution :=
  fun registry =>
    (resolve { registrar, rules, sources := [.fixed variants boot] } registry).2

end Resolver

end AnalysisPlan
