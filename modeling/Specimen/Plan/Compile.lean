import Specimen.Config.Contract
import Specimen.Constraint.Parser
import Specimen.Graph
import Specimen.Plan.Basic

/-!
# From configurations to plans

A configuration becomes a plan when nothing in it is an error.  All faults are collected, so that one
attempt reports everything: first the settings, then the data contexts, the relationships and the
elements, each in the order of their keys, and last the dependencies between fields.

A relationship or element with an error is left out of what the later steps look at.
-/

namespace Specimen

def localName (key : String) : String :=
  String.ofList (key.toList.reverse.takeWhile (· ≠ '/')).reverse

/-- A value with the faults found on the way to it. -/
abbrev Checked (α : Type) := List ConfigFault × α

/-- The value, unless one of the faults is an error. -/
def Checked.ifSound {α : Type} (faults : List ConfigFault) (value : Option α) : Checked (Option α) :=
  (faults, if faults.any (·.isError) then none else value)

namespace Config

def compileSettings (s : GenerationSettings) : Checked PlanSettings :=
  let mode := GenerationMode.ofName? s.mode
  ((if mode.isNone then [.unknownMode s.mode] else []) ++
    (if s.maxDepth = 0 then [.zeroDepth] else []) ++
    (if s.unboundedCount = 0 then [.zeroUnbounded] else []),
   { mode := mode.getD .complete
     repeatCount := s.repeatCount
     maxDepth := s.maxDepth
     includeComments := s.includeComments
     seed := s.seed
     uniqueCombinations := s.uniqueCombinations
     unboundedCount := s.unboundedCount })

/-- The parents of each context among the contexts. -/
def inheritance (contexts : Dict DataContext) : Graph :=
  contexts.entries.foldl (fun g e => g.add e.1 (e.2.inherits.filter contexts.contains)) []

/-- The faults of data contexts: parents that do not exist, and cycles. -/
def contextFaults (contexts : Dict DataContext) : List ConfigFault :=
  let unknown := contexts.entries.flatMap fun e =>
    (e.2.inherits.zipIdx.filter fun p => !contexts.contains p.1).map fun p =>
      ConfigFault.unknownParent e.1 p.2 p.1
  match (inheritance contexts).stuck with
  | [] => unknown
  | stuck => unknown ++ [.contextCycle stuck]

def compileSelection (owner : StrategyOwner) (name : String) : Checked (Option SelectionStrategy) :=
  match SelectionStrategy.ofName? name with
  | some s => ([], some s)
  | none => ([.unknownSelectionStrategy owner name], none)

/-- The fields of a list that occur earlier in it. -/
def repeatedFields (seen : List String) : List String → List String
  | [] => []
  | f :: rest =>
    if seen.contains f then f :: repeatedFields seen rest else repeatedFields (f :: seen) rest

/-- What a dependency stands for: a field of the relationship or another relationship. -/
inductive Dependency where
  | field (name : String)
  | relationship (id : String)

def findDependency (c : Config) (id : String) (fields : List String) (name : String) :
    Except FieldNameError Dependency :=
  match findField fields name with
  | .ok f => .ok (.field f)
  | .error e => if name ≠ id ∧ c.relationships.contains name then .ok (.relationship name) else .error e

/-- The dependencies of a relationship: its own fields, and other relationships. -/
def compileDependencies (c : Config) (id : String) (d : RelationshipDef) :
    Checked (List String × List String) :=
  let found := d.dependsOn.zipIdx.map fun p => (p, c.findDependency id d.fields p.1)
  (found.filterMap fun (p, r) =>
      match r with
      | .error e => some (.unknownDependency id p.2 p.1 e)
      | .ok _ => none,
   found.filterMap fun (_, r) =>
      match r with
      | .ok (.field f) => some f
      | _ => none,
   found.filterMap fun (_, r) =>
      match r with
      | .ok (.relationship other) => some other
      | _ => none)

/-- Reads a constraint and replaces the names in it by those of fields. -/
def compileConstraint (id : String) (fields : List String) (position : Nat) (source : String) :
    Except ConfigFault Constraint :=
  match Expr.parse source with
  | .error e => .error (.constraintSyntax id position source e)
  | .ok parsed =>
    match parsed.rename? fun name => (findField fields name).mapError fun e => (name, e) with
    | .error (name, e) => .error (.constraintField id position source name e)
    | .ok expr => .ok ⟨source, expr, Graph.sorted expr.fields⟩

def compileConstraints (id : String) (d : RelationshipDef) : Checked (List Constraint) :=
  let read := d.constraints.zipIdx.map fun p => compileConstraint id d.fields p.2 p.1
  (read.filterMap fun r =>
      match r with
      | .error f => some f
      | .ok _ => none,
   read.filterMap fun r =>
      match r with
      | .error _ => none
      | .ok c => some c)

/-- How a relationship selects when nothing is said. -/
def defaultSelection : Option RelationshipStrategy → SelectionStrategy
  | some .consistentPersona => .template
  | _ => .random

def compileRelationship (c : Config) (settings : PlanSettings) (id : String) (d : RelationshipDef) :
    Checked (Option Relationship) :=
  let strategy := RelationshipStrategy.ofName? d.strategy
  let (selectionFaults, selection) :=
    match d.selectionStrategy with
    | some name => compileSelection (.relationship id) name
    | none => ([], some (defaultSelection strategy))
  let (dependencyFaults, dependsOn, after) := c.compileDependencies id d
  let (constraintFaults, constraints) := compileConstraints id d
  let faults :=
    (if d.fields.isEmpty then [ConfigFault.noFields id] else []) ++
    (repeatedFields [] d.fields).map (.repeatedField id) ++
    (if strategy.isNone then [.unknownRelationshipStrategy id d.strategy] else []) ++
    selectionFaults ++
    (if strategy = some .consistentPersona ∧ d.source.isNone then [.personaWithoutSource id] else []) ++
    dependencyFaults ++ constraintFaults ++
    (d.fieldMap.keys.filter fun f => !d.fields.contains f).map (.strayFieldMap id) ++
    (if d.maxAttempts = some 0 then [.zeroAttempts id] else [])
  Checked.ifSound faults <| do
    return {
      id
      strategy := ← strategy
      fields := d.fields
      dependsOn
      after
      constraints
      ensureUnique := d.ensureUnique.getD settings.uniqueCombinations
      source := d.source
      selection := ← selection
      priority := d.priority
      fieldMap := d.fieldMap
      maxAttempts := d.maxAttempts }

/-- What is wrong with the relationship that an element names. -/
def ownerFaults (relationships : List Relationship) (key : String) : Option String → List ConfigFault
  | none => []
  | some id =>
    match relationships.find? fun r => r.id == id with
    | none => [.unknownRelationship key id]
    | some r => if r.hasField (localName key) then [] else [.notAField key id]

def compileElement (relationships : List Relationship) (key : String) (e : ElementConfig) :
    Checked (Option ElementRule) :=
  let (selectionFaults, selection) :=
    match e.selectionStrategy with
    | some name => compileSelection (.element key) name
    | none => ([], none)
  let faults :=
    selectionFaults ++
    ((e.customValues.zipIdx.filter fun p => p.1.plainText?.isNone).map fun p =>
      .valueNotPlain key p.2) ++
    ownerFaults relationships key e.relationship ++
    (if e.templateField.isSome ∧ e.templateSource.isNone then [.templateFieldAlone key] else []) ++
    (if e.customValues.isEmpty ∧ e.dataContext.isSome ∧ e.templateSource.isSome then
      [.templateSourceShadowed key] else [])
  Checked.ifSound faults <| some {
    key
    customValues := e.customValues.filterMap (·.plainText?)
    dataContext := e.dataContext
    selection
    relationship := e.relationship
    repeatCount := e.repeatCount
    templateSource := e.templateSource
    templateField := e.templateField
    choice := e.choice
    nil := e.nil.getD false }

/-- Adds that every field of a relationship waits for the fields of one that comes first. -/
def addEarlier (relationships : List Relationship) (r : Relationship) (g : Graph) (id : String) : Graph :=
  match relationships.find? fun other => other.id == id with
  | none => g
  | some other => r.fields.foldl (fun g f => g.add f (other.fields.filter (· != f))) g

/-- Adds what the fields of a relationship wait for: fields that depend on others wait for those, and
every field waits for the fields of the relationships that come first. -/
def addPrecedence (relationships : List Relationship) (g : Graph) (r : Relationship) : Graph :=
  let g := r.fields.foldl (fun g f => g.add f []) g
  let g := r.dependents.foldl (fun g f => g.add f r.dependsOn) g
  r.after.foldl (addEarlier relationships r) g

def precedence (relationships : List Relationship) : Graph :=
  relationships.foldl (addPrecedence relationships) []

/-- Gives a field an owner unless it has one. -/
def addOwner (owners : Dict String) (field id : String) : Dict String :=
  if owners.contains field then owners else owners.insert field id

/-- Gives the field of a rule the relationship that the rule names. -/
def addNamedOwner (owners : Dict String) (rule : ElementRule) : Dict String :=
  match rule.relationship with
  | some id => addOwner owners (localName rule.key) id
  | none => owners

/-- Gives the fields of a relationship an owner unless they have one. -/
def addOwned (owners : Dict String) (r : Relationship) : Dict String :=
  r.fields.foldl (fun owners f => addOwner owners f r.id) owners

/-- The owner of each field: the relationship that an element names, and otherwise the first
relationship that has the field. -/
def fieldOwners (relationships : List Relationship) (rules : List ElementRule) : Dict String :=
  relationships.foldl addOwned (rules.foldl addNamedOwner {})

def precedes (a b : Relationship) : Bool :=
  decide (a.priority < b.priority) || (a.priority == b.priority && decide (a.id ≤ b.id))

/-- The plan of a configuration with everything that was found; the plan is meaningful when no fault is
an error. -/
def draft (c : Config) : Checked Plan :=
  let (settingFaults, settings) := compileSettings c.settings
  let relationships := c.relationships.entries.map fun e => c.compileRelationship settings e.1 e.2
  let sound := (relationships.filterMap (·.2)).mergeSort precedes
  let elements := c.elements.entries.map fun e => compileElement sound e.1 e.2
  let rules := elements.filterMap (·.2)
  let cycle := match (precedence sound).stuck with
    | [] => []
    | stuck => [ConfigFault.dependencyCycle stuck]
  let faults := settingFaults ++ contextFaults c.dataContexts ++ (relationships.map (·.1)).flatten ++
    (elements.map (·.1)).flatten ++ cycle
  (faults,
    { metadata := c.metadata
      settings
      dataContexts := c.dataContexts
      relationships := sound
      rules
      overrides := c.overrides
      owners := fieldOwners sound rules
      warnings := (ConfigReport.ofFaults faults).warnings })

/-- The plan of a configuration, or all its faults. -/
def compile (c : Config) : Except (List ConfigFault) Plan :=
  let (faults, plan) := c.draft
  if faults.any (·.isError) then .error faults else .ok plan

/-- The configuration in a document, once the document has the right shape. -/
def ofDocument (j : Json) : Except (List ConfigFault) Config :=
  match contract.violations j with
  | [] => (Config.read j).mapError fun e => [.unreadable e]
  | violations => .error (violations.map .shape)

/-- The plan of the configuration in a document. -/
def compileDocument (j : Json) : Except (List ConfigFault) Plan := do
  (← ofDocument j).compile

end Config
end Specimen
