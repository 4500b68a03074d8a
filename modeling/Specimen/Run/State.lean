import Specimen.Calendar.Reader
import Specimen.Config.Document
import Specimen.Generator.Choice
import Specimen.Plan.AgainstSchema
import Specimen.Plan.Contexts
import Specimen.Relation.State
import Specimen.Run.Report
import Specimen.Run.Selection

/-!
# The state of a run

What can be asked of a run beside its schema and configuration are its options.  They take precedence
over what the configuration says about the root, the seed and the mode.  With them comes what a run finds
around it and has no say in: libraries for patterns and realistic values, and a clock.

A run reads its setup (schema, plan, data, options), which never changes, and carries a state along:
random numbers, selection, relationships, the named types that are open on the current path, values
that siblings have used, the report, and a trace.  The state is kept when a run fails.
-/

namespace Specimen

/-! ## Options -/

/-- A clock, as far as a run looks at it: the nanoseconds that have passed when so many steps were taken. -/
structure Clock where
  elapsed : (steps : Nat) → Nat
  mono : ∀ {m n : Nat}, m ≤ n → elapsed m ≤ elapsed n

/-- The clock of runs that take next to no time: only a limit of zero is exceeded. -/
def Clock.swift : Clock := ⟨fun _ => 1, fun _ => Nat.le_refl 1⟩

instance : Inhabited Clock := ⟨.swift⟩

instance : Inhabited Libraries := ⟨.standard⟩

/-- Options of a run, and the surroundings in which it takes place. -/
structure Options where
  /-- How often a value is drawn before the last one is kept. -/
  valueAttempts : UInt32 := 5
  /-- How often a relationship is tried when it does not say so itself. -/
  relationshipAttempts : UInt32 := 10
  /-- How often a type may be nested directly inside itself. -/
  circularLimit : Option UInt32 := none
  /-- How many elements may be built. -/
  maxSteps : UInt64 := 1000000
  timeoutMs : Option UInt64 := none
  /-- Whether an unfinished document is kept when the budget runs out. -/
  allowPartial : Bool := false
  /-- The date near which dates are generated. -/
  baseDate : Date := ⟨2024, 1, 1⟩
  rootElement : Option String := none
  seed : Option UInt64 := none
  mode : Option String := none
  runId : Option String := none
  libraries : Libraries := .standard
  clock : Clock := .swift
  deriving Inhabited

open Json

def Date.readJson : Json → Decoded Date
  | .string s =>
    match Date.readOption s with
    | .ok d => .ok d
    | .error e => .error (.unreadableDate e.message)
  | j => wrongType j "a formatted date string"

namespace Options

def record : Record Options where
  name := "GenerateOptions"
  blank := {}
  fields := [
    .optional "max_value_attempts" readWord32 fun v o => { o with valueAttempts := v },
    .optional "max_relationship_attempts" readWord32 fun v o => { o with relationshipAttempts := v },
    .optional "circular_reference_limit" (readOption readWord32) fun v o =>
      { o with circularLimit := v },
    .optional "max_steps" readWord64 fun v o => { o with maxSteps := v },
    .optional "timeout_ms" (readOption readWord64) fun v o => { o with timeoutMs := v },
    .optional "allow_partial" readBool fun v o => { o with allowPartial := v },
    .optional "base_date" Date.readJson fun v o => { o with baseDate := v },
    .optional "root_element" (readOption readString) fun v o => { o with rootElement := v },
    .optional "seed" (readOption readWord64) fun v o => { o with seed := v },
    .optional "mode" (readOption readString) fun v o => { o with mode := v },
    .optional "run_id" (readOption readString) fun v o => { o with runId := v }]

def read (j : Json) : Decoded Options := record.read .direct j

/-- How often a value is drawn at most. -/
def valueTries (o : Options) : Nat := max o.valueAttempts.toNat 1

/-- Whether a number of steps is more than a run may take, by their number or by the time that they took. -/
def isExceededBy (o : Options) (steps : Nat) : Bool :=
  decide (o.maxSteps.toNat < steps) ||
    o.timeoutMs.any fun limit => decide (limit.toNat * 1000000 < o.clock.elapsed steps)

end Options

/-! ## Setup and state -/

open Specimen.Random

/-- What a run is about. -/
structure Setup where
  schema : Schema
  plan : Plan
  index : Index := {}
  contexts : Contexts := {}
  options : Options := {}

/-- What a run carries along. -/
structure RunState where
  /-- The seed that seeded picks go back to. -/
  seed : UInt64 := 0
  rng : Rng
  selection : SelectionState := {}
  relations : RelationState := {}
  report : Report := {}
  /-- The named types that are open on the current path, the innermost first. -/
  openTypes : List String := []
  /-- The values used in each scope at each path. -/
  used : Std.HashMap (Nat × String) (Std.HashSet String) := {}
  /-- The number of scopes opened so far. -/
  scopes : Nat := 0
  /-- Whether the walk was stopped. -/
  halted : Bool := false
  trace : Trace := #[]
  deriving Inhabited

/-- How a run can break down. -/
inductive Breakdown where
  | computation (fault : Fault)
  /-- Fields of relationships wait for each other. -/
  | endlessWait
  deriving DecidableEq, Repr

def Breakdown.message : Breakdown → String
  | .computation fault => fault.message
  | .endlessWait => "fields of relationships wait for each other"

/-- Why a run stops. -/
inductive RunError where
  | schema (e : SchemaError)
  | contexts (e : ContextError)
  /-- A field of a relationship stands for no leaf. -/
  | unmatchedField (field : String)
  /-- The budget ran out. -/
  | timeout (steps : Nat)
  | broken (breakdown : Breakdown)
  deriving DecidableEq, Repr

/-- A step of a run. -/
abbrev Run := ExceptT RunError (StateM RunState)

namespace RunState

def start (seed : UInt64) (report : Report) : RunState := { seed, rng := Rng.ofSeed seed, report }

def pushType (s : RunState) (type : String) : RunState := { s with openTypes := type :: s.openTypes }

def popType (s : RunState) : RunState := { s with openTypes := s.openTypes.tail }

/-- How often a named type is open on the current path. -/
def occurrences (s : RunState) (type : String) : Nat := s.openTypes.count type

/-- How often a named type is open without another one in between. -/
def directRecursion (s : RunState) (type : String) : Nat :=
  (s.openTypes.takeWhile (· == type)).length

/-- Whether a value was used in a scope at a path. -/
def isUsed (s : RunState) (scope : Nat) (path value : String) : Bool :=
  (s.used.getD (scope, path) {}).contains value

/-- Remembers that a value was used in a scope at a path. -/
def markUsed (s : RunState) (scope : Nat) (path value : String) : RunState :=
  { s with used := s.used.insert (scope, path) ((s.used.getD (scope, path) {}).insert value) }

/-- Stops the walk; what is unfinished is kept. -/
def halt (s : RunState) : RunState :=
  { s with halted := true, report := { s.report with isPartial := true } }

end RunState

namespace Run

/-- How an action ends that begins in a state. -/
def exec {α : Type} (m : Run α) (s : RunState) : Except RunError α × RunState := m.run s

def record (change : Report → Report) : Run Unit :=
  modify fun s => { s with report := change s.report }

def follow (e : TraceEvent) : Run Unit := modify fun s => { s with trace := s.trace.push e }

def followAll (events : List TraceEvent) : Run Unit :=
  modify fun s => { s with trace := s.trace ++ events }

def warn (n : Notice) : Run Unit := do
  follow (.warned n)
  record (.warn n)

/-- Draws from the random numbers of the run. -/
def draw {α : Type} (d : Draw α) : Run α :=
  modifyGet fun s => let (a, rng) := d s.rng; (a, { s with rng })

/-- Runs a generator; a refusal is returned, a broken computation stops the run. -/
def attempt {α : Type} (a : Attempt α) : Run (Except GeneratorFailure α) := do
  match ← draw a.run with
  | .error (.broken fault) => throw (.broken (.computation fault))
  | result => return result

def pick (path : String) (strategy : SelectionStrategy) (length : Nat) : Run (Option Nat) :=
  modifyGet fun s =>
    let (index, selection, rng) := s.selection.pick s.seed path strategy length s.rng
    (index, { s with selection, rng })

def pickFrom {α : Type} (path : String) (strategy : SelectionStrategy) (candidates : List α) :
    Run (Option α) := do
  return (← pick path strategy candidates.length).bind fun i => candidates[i]?

def relate (change : RelationState → RelationState) : Run Unit :=
  modify fun s => { s with relations := change s.relations }

def openScope : Run Nat := modifyGet fun s => (s.scopes + 1, { s with scopes := s.scopes + 1 })

def tick (options : Options) : Run Unit := do
  record fun r => { r with steps := r.steps + 1 }
  let steps := (← get).report.steps
  if options.isExceededBy steps then throw (.timeout steps)

/-- Takes a step and then changes the state, also when the step fails. -/
def andFinally {α : Type} (body : Run α) (change : RunState → RunState) : Run α :=
  ExceptT.mk fun s => let (result, s) := body.exec s; (result, change s)

/-- Continues with a value of the data contexts. -/
def ofContexts {α : Type} : Except ContextError α → Run α
  | .ok a => pure a
  | .error e => throw (.contexts e)

def ofSchema {α : Type} : Except SchemaError α → Run α
  | .ok a => pure a
  | .error e => throw (.schema e)

end Run
end Specimen
