import Specimen.Run.State

/-!
# Values from relationships

The owner of a field supplies its values, one instance after another.  Before a field is settled, so are
the fields of the relationships that come first.  Then the strategy of the owner decides:

* a persona takes one record for each instance and reads all its fields from it;
* a dependent field is drawn from those of its candidates that violate no constraint beside the values
  settled so far;
* constraint-based fields are drawn together, and drawn again while a constraint is violated.

A relationship can have fields that another one owns; they are settled by their owner and read here.
The values that a field can take by itself come from outside (`FieldSources`).
-/

namespace Specimen

/-- Where the values of fields come from when no relationship is asked. -/
structure FieldSources where
  /-- A value of a field by itself. -/
  independent : String → Run String
  /-- The candidates for a field of a relationship. -/
  pool : String → Relationship → Run (List String)
  /-- The path and strategy by which a field is picked. -/
  selection : String → String × SelectionStrategy

namespace Relationship

def attempts (r : Relationship) (options : Options) : Nat :=
  max (r.maxAttempts.getD options.relationshipAttempts).toNat 1

/-- Values of the fields of a relationship in order; a missing one is empty. -/
def combination (r : Relationship) (bindings : Bindings) : List String :=
  r.fields.map fun f => (bindings.get? f).getD ""

/-- Adds what a record says about the fields of a relationship. -/
def bindRecord (r : Relationship) (record : Json) (bindings : Bindings) : Bindings :=
  r.fields.foldl
    (fun b f =>
      match recordText? record (r.recordKey f) with
      | some v => b.insert f v
      | none => b) bindings

/-- The notice that constraints are violated by values that are kept. -/
def violationNotice (r : Relationship) (bindings : Bindings) (field : Option String) : Notice :=
  let failed := (Constraint.violated r.constraints bindings).map (·.source)
  let values := ", ".intercalate (bindings.entries.map fun e => e.1 ++ "=" ++ e.2)
  { code := "constraint_violation"
    message :=
      if failed.isEmpty then "no candidate satisfies the constraints; kept " ++ values
      else "constraint(s) " ++ "; ".intercalate failed ++ " violated with " ++ values
    path := field
    relationship := some r.id }

/-- The notice that there are no records to pick from. -/
def emptyNotice (r : Relationship) : Notice where
  code := "persona_pool_empty"
  message := "source '" ++ r.source.getD "" ++ "' holds no records"
  relationship := some r.id

def exhaustedNotice (r : Relationship) (count : Nat) : Notice where
  code := "persona_pool_exhausted"
  message := "all " ++ toString count ++ " records used; reusing records from the start"
  relationship := some r.id

/-- The key under which the picks of a persona are remembered. -/
def selectionPath (r : Relationship) : String := "relationships/" ++ r.id

end Relationship

namespace Relation

/-- The settled values of a relationship in an instance. -/
def bindings (r : Relationship) (ordinal : Nat) : Run Bindings := do
  return (← get).relations.bindings r ordinal

/-- Whether a field is settled in an instance. -/
def isSettled (field : String) (ordinal : Nat) : Run Bool := do
  return ((← get).relations.value? field ordinal).isSome

/-- Settles, by `resolve`, the fields of a relationship that another one owns. -/
def settleForeign (setup : Setup) (resolve : String → Run (Option String)) (r : Relationship)
    (field : String) : List String → Run Unit
  | [] => return ()
  | other :: rest => do
    if other ≠ field ∧ !setup.plan.owns r other then
      let _ ← resolve other
    settleForeign setup resolve r field rest

/-- Settles, by `resolve`, the fields that a relationship owns. -/
def settleOwned (setup : Setup) (resolve : String → Run (Option String)) (r : Relationship) :
    List String → Run Unit
  | [] => return ()
  | field :: rest => do
    if setup.plan.owns r field then
      let _ ← resolve field
    settleOwned setup resolve r rest

/-- Settles, by `resolve`, the fields of the relationships that come first. -/
def settleEarlier (setup : Setup) (resolve : String → Run (Option String)) : List String → Run Unit
  | [] => return ()
  | id :: rest => do
    match setup.plan.relationship? id with
    | some earlier => settleOwned setup resolve earlier earlier.fields
    | none => pure ()
    settleEarlier setup resolve rest

/-! ## Personas -/

/-- The records that a persona may take; those it has used are out until all of them are. -/
def personaCandidates (r : Relationship) (records : List Json) : Run (List Nat) := do
  let all := List.range records.length
  if !r.ensureUnique then return all
  if records.length ≤ ((← get).relations.recordsUsed r.id).length then
    Run.relate fun s => s.forgetRecords r.id
    Run.warn (r.exhaustedNotice records.length)
  let used := (← get).relations.recordsUsed r.id
  return all.filter fun i => !used.contains i

/-- Tries records, at most `tries` of them, until one violates no constraint; the last one is kept. -/
def tryRecords (r : Relationship) (records : List Json) (candidates : List Nat) (foreign : Bindings) :
    (tries : Nat) → Run (Option Nat)
  | 0 => return none
  | tries + 1 => do
    match ← Run.pickFrom r.selectionPath r.selection candidates with
    | none => return none
    | some index =>
      let bindings := r.bindRecord (records.getD index .null) foreign
      if Constraint.allBoundHold r.constraints bindings then return some index
      Run.record .countRetry
      if tries = 0 then
        Run.warn (r.violationNotice bindings none)
        return some index
      else tryRecords r records candidates foreign tries

def pickPersona (setup : Setup) (r : Relationship) (records : List Json) (ordinal : Nat) :
    Run (Option Nat) := do
  if records.isEmpty then
    Run.warn r.emptyNotice
    return none
  let candidates ← personaCandidates r records
  let foreign ← bindings r ordinal
  let chosen ← tryRecords r records candidates foreign (r.attempts setup.options)
  match chosen with
  | some index =>
    if r.ensureUnique then Run.relate fun s => s.useRecord r.id index
    Run.follow (.picked r.id ordinal index)
  | none => pure ()
  return chosen

/-- The record of an instance; it is picked when it is asked for first. -/
def personaOf (setup : Setup) (resolve : String → Run (Option String)) (r : Relationship)
    (records : List Json) (field : String) (ordinal : Nat) : Run (Option Nat) := do
  match (← get).relations.persona? r.id ordinal with
  | some index => return index
  | none =>
    settleForeign setup resolve r field r.fields
    let index ← pickPersona setup r records ordinal
    Run.relate fun s => s.setPersona r.id ordinal index
    return index

/-- Settles the fields that a persona owns by its record. -/
def settleRecord (setup : Setup) (r : Relationship) (record : Json) (ordinal : Nat) : Run Unit :=
  Run.relate fun s => r.fields.foldl
    (fun s f =>
      if setup.plan.owns r f then
        match recordText? record (r.recordKey f) with
        | some v => s.settle f ordinal v
        | none => s
      else s) s

/-- The value of a field of a persona; there is none when its record has none. -/
def personaValue (setup : Setup) (resolve : String → Run (Option String)) (r : Relationship)
    (field : String) (ordinal : Nat) : Run (Option String) := do
  match r.source with
  | none => return none
  | some source =>
    let records ← Run.ofContexts (setup.contexts.records source)
    match (← personaOf setup resolve r records field ordinal).bind fun i => records[i]? with
    | none => return none
    | some record =>
      settleRecord setup r record ordinal
      return (← get).relations.value? field ordinal

/-! ## Dependent values -/

/-- Settles the fields that others depend on, as far as the relationship owns them. -/
def settleDependencies (setup : Setup) (sources : FieldSources) (r : Relationship) (ordinal : Nat) :
    List String → Run Unit
  | [] => return ()
  | field :: rest => do
    if !(← isSettled field ordinal) && setup.plan.owns r field then
      let value ← sources.independent field
      Run.relate fun s => s.settle field ordinal value
    settleDependencies setup sources r ordinal rest

/-- The candidates that violate no constraint beside other values. -/
def fitting (r : Relationship) (bindings : Bindings) (field : String) (pool : List String) :
    List String :=
  pool.filter fun v => Constraint.allBoundHold r.constraints (bindings.insert field v)

/-- Those candidates that make up an unused combination; all of them if there are none. -/
def preferUnused (s : RelationState) (r : Relationship) (bindings : Bindings) (field : String)
    (candidates : List String) : List String :=
  let unused := candidates.filter fun v =>
    !s.isCombinationUsed r.id (r.combination (bindings.insert field v))
  if unused.isEmpty then candidates else unused

def drawDependent (sources : FieldSources) (r : Relationship) (bindings : Bindings) (field : String)
    (pool : List String) : Run String := do
  let relations := (← get).relations
  let fit := fitting r bindings field pool
  let fit := if r.ensureUnique then preferUnused relations r bindings field fit else fit
  let candidates := if fit.isEmpty then pool else fit
  let (path, strategy) := sources.selection field
  let value := (← Run.pickFrom path strategy candidates).getD ""
  let bound := bindings.insert field value
  if fit.isEmpty then Run.warn (r.violationNotice bound (some field))
  else Run.follow (.filtered r.id field candidates.length)
  if r.ensureUnique then Run.relate fun s => s.useCombination r.id (r.combination bound)
  return value

/-- The value of a field that depends on others, or that others depend on. -/
def dependentValue (setup : Setup) (sources : FieldSources) (resolve : String → Run (Option String))
    (r : Relationship) (field : String) (ordinal : Nat) : Run String := do
  if r.dependsOn.contains field then sources.independent field
  else
    settleDependencies setup sources r ordinal r.dependsOn
    settleForeign setup resolve r field r.fields
    let bound ← bindings r ordinal
    let pool ← sources.pool field r
    if pool.isEmpty then sources.independent field
    else drawDependent sources r bound field pool

/-! ## Values that are drawn together -/

/-- Draws a value for each of several fields. -/
def drawFields (sources : FieldSources) : List String → Bindings → Run Bindings
  | [], b => return b
  | field :: rest, b => do
    let value ← sources.independent field
    drawFields sources rest (b.insert field value)

/-- Draws fields again, at most `tries` times, while a constraint is violated. -/
def redraw (sources : FieldSources) (r : Relationship) (again : List String) :
    (tries : Nat) → Bindings → Run Bindings
  | 0, b => return b
  | tries + 1, b => do
    if again.isEmpty || (Constraint.violated r.constraints b).isEmpty then return b
    Run.record .countRetry
    redraw sources r again tries (← drawFields sources again b)

/-- The fields that a relationship owns and that are not settled. -/
def pendingFields (setup : Setup) (s : RelationState) (r : Relationship) (ordinal : Nat) :
    List String :=
  r.fields.filter fun f => setup.plan.owns r f && (s.value? f ordinal).isNone

/-- The value of a field whose relationship is drawn as a whole. -/
def constraintValue (setup : Setup) (sources : FieldSources) (resolve : String → Run (Option String))
    (r : Relationship) (field : String) (ordinal : Nat) : Run (Option String) := do
  settleForeign setup resolve r field r.fields
  let pending := pendingFields setup (← get).relations r ordinal
  let first ← drawFields sources pending (← bindings r ordinal)
  let again := pending.filter fun f => !r.dependsOn.contains f
  let last ← redraw sources r again (r.attempts setup.options) first
  if !(Constraint.violated r.constraints last).isEmpty then
    Run.warn (r.violationNotice last none)
  Run.relate fun s => pending.foldl
    (fun s f =>
      match last.get? f with
      | some v => s.settle f ordinal v
      | none => s) s
  return (← get).relations.value? field ordinal

/-! ## Fields -/

/-- The value that a relationship gives to a field. -/
def valueBy (setup : Setup) (sources : FieldSources) (resolve : String → Run (Option String))
    (r : Relationship) (field : String) (ordinal : Nat) : Run (Option String) :=
  match r.strategy with
  | .consistentPersona => personaValue setup resolve r field ordinal
  | .dependentValues => do return some (← dependentValue setup sources resolve r field ordinal)
  | .constraintBased => constraintValue setup sources resolve r field ordinal

/-- The value of a field in an instance.  Fields that wait for each other without end stop the run when
`budget` fields are waiting. -/
def resolveAt (setup : Setup) (sources : FieldSources) (ordinal : Nat) :
    (budget : Nat) → String → Run (Option String)
  | 0, _ => throw (.broken .endlessWait)
  | budget + 1, field => do
    match (← get).relations.value? field ordinal with
    | some value => return some value
    | none =>
      match setup.plan.owner? field with
      | none => return none
      | some r =>
        let resolve := resolveAt setup sources ordinal budget
        settleEarlier setup resolve r.after
        Run.record (.countRelationship r.id)
        let value ← valueBy setup sources resolve r field ordinal
        match value with
        | some v => Run.relate fun s => s.settle field ordinal v
        | none => pure ()
        return value

/-- The next value of a field; there is none when its relationship has none for it. -/
def resolveField (setup : Setup) (sources : FieldSources) (field : String) :
    Run (Option String) := do
  let ordinal ← modifyGet fun s =>
    let (n, relations) := s.relations.next field
    (n, { s with relations })
  resolveAt setup sources ordinal (setup.plan.owners.size + 1) field

end Relation

/-- Whether the owner of a field draws from the field's own sources. -/
def Plan.drawsFromField (plan : Plan) (field : String) : Bool :=
  match plan.owner? field with
  | some r => r.strategy != .consistentPersona
  | none => false

end Specimen
