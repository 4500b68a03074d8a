import Specimen.Relation.Resolution
import Specimen.Validity.Check

/-!
# Values of leaves

The value of a leaf comes from the first source that has one: a fixed value, its relationship, custom
values, a pool or records of the data contexts, and in the end a generator.  Custom values come before a
persona, but not before a relationship that draws from them itself.

A value has to satisfy the simple type of the leaf, and where siblings have to differ, it must not be
one of theirs.  A value that does not is drawn again a number of times.  After that the leaf is
generated, or the last value is kept with a warning.
-/

namespace Specimen

/-- A leaf whose value is asked for. -/
structure LeafRequest where
  /-- The local name of the element, or `@` and that of the attribute. -/
  name : String
  path : String
  facets : Facets
  fixed : Option String := none
  /-- The scope in which siblings have to differ. -/
  scope : Option Nat := none

/-- What came of a source. -/
inductive Picked where
  | value (text : String)
  /-- The source has nothing. -/
  | empty
  /-- No value was acceptable. -/
  | refused (reason : String)

/-- A value that was not acceptable, and why. -/
structure Refusal where
  value : String
  reason : String

namespace LeafRequest

/-- What a generator is told about a leaf. -/
def leaf (q : LeafRequest) (options : Options) : Leaf :=
  { name := q.name, path := q.path, facets := q.facets, baseDate := options.baseDate }

def warning (q : LeafRequest) (code message : String) : Notice :=
  { code, message, path := some q.path }

/-- The name under which records hold the value of a leaf. -/
def recordName (q : LeafRequest) : String :=
  String.ofList (q.name.toList.dropWhile (· = '@'))

end LeafRequest

namespace Leaf

/-- Whether a value is acceptable: it satisfies the simple type, and no sibling has it. -/
def accept (setup : Setup) (s : RunState) (q : LeafRequest) (value : String) : Except String Unit :=
  match q.facets.check value setup.options.libraries.isMatch with
  | .error r => .error r.message
  | .ok () =>
    match q.scope with
    | some scope =>
      if setup.plan.settings.uniqueCombinations && s.isUsed scope q.path value then
        .error ("'" ++ value ++ "' already used by a sibling")
      else .ok ()
    | none => .ok ()

def markUsed (setup : Setup) (q : LeafRequest) (value : String) : Run Unit :=
  match q.scope with
  | some scope =>
    if setup.plan.settings.uniqueCombinations then modify fun s => s.markUsed scope q.path value
    else pure ()
  | none => pure ()

/-- Keeps a value and counts it by its source. -/
def keep (setup : Setup) (q : LeafRequest) (source value : String) : Run Unit := do
  markUsed setup q value
  Run.record (.countValue source)

/-- What is done when no value of a source was acceptable. -/
def settle (setup : Setup) (q : LeafRequest) (source : String) : Option Refusal → Run Picked
  | none => return .empty
  | some refusal => do
    if setup.plan.overrides.enforceConstraints then return .refused refusal.reason
    Run.warn (q.warning "constraint_violation"
      (source ++ " value '" ++ refusal.value ++ "' kept: " ++ refusal.reason))
    keep setup q source refusal.value
    return .value refusal.value

/-- Picks from a pool, at most `tries` times, until a value is acceptable; `last` is the one refused
before. -/
def tryPool (setup : Setup) (q : LeafRequest) (pool : List String) (strategy : SelectionStrategy)
    (source : String) : (tries : Nat) → (last : Option Refusal) → Run Picked
  | 0, last => settle setup q source last
  | tries + 1, last => do
    match ← Run.pickFrom q.path strategy pool with
    | none => settle setup q source last
    | some value =>
      match accept setup (← get) q value with
      | .ok () =>
        keep setup q source value
        return .value value
      | .error reason =>
        Run.record .countRetry
        tryPool setup q pool strategy source tries (some ⟨value, reason⟩)

def pickFromPool (setup : Setup) (q : LeafRequest) (pool : List String) (strategy : SelectionStrategy)
    (source : String) : Run Picked :=
  if pool.isEmpty then return .empty
  else tryPool setup q pool strategy source setup.options.valueTries none

/-- Picks from the values that records have under a key, at most `tries` times. -/
def tryRecords (setup : Setup) (q : LeafRequest) (records : List Json) (key path : String)
    (strategy : SelectionStrategy) : (tries : Nat) → (last : Option Refusal) → Run Picked
  | 0, last => settle setup q "template" last
  | tries + 1, last => do
    match ← Run.pickFrom q.path strategy records with
    | none => settle setup q "template" last
    | some record =>
      match recordText? record key with
      | none =>
        Run.warn (q.warning "template_field_missing"
          ("template record from '" ++ path ++ "' has no field '" ++ key ++ "'"))
        return .empty
      | some value =>
        match accept setup (← get) q value with
        | .ok () =>
          keep setup q "template" value
          return .value value
        | .error reason =>
          Run.record .countRetry
          tryRecords setup q records key path strategy tries (some ⟨value, reason⟩)

def pickFromRecords (setup : Setup) (q : LeafRequest) (rule : ElementRule) (path : String) :
    Run Picked := do
  let records ← Run.ofContexts (setup.contexts.records path)
  if records.isEmpty then return .empty
  tryRecords setup q records (rule.templateField.getD q.recordName) path
    (rule.selection.getD .template) setup.options.valueTries none

/-! ## Generated values -/

/-- What came of one generator: an acceptable value, or else the last one it made. -/
abbrev Generated := Except (Option (Refusal × Generator)) (String × Generator)

/-- Lets a generator make values, at most `tries` of them, until one is acceptable. -/
def tryGenerator (setup : Setup) (q : LeafRequest) (g : Generator) :
    (tries : Nat) → (last : Option (Refusal × Generator)) → Run Generated
  | 0, last => return .error last
  | tries + 1, last => do
    match ← Run.attempt (g.run (q.leaf setup.options) setup.options.libraries) with
    | .error e =>
      Run.warn { q.warning "generator_failed" ("schema error: unsupported: " ++ e.message) with
        generator := some g.id }
      return .error last
    | .ok value =>
      match accept setup (← get) q value with
      | .ok () => return .ok (value, g)
      | .error reason =>
        Run.record .countRetry
        tryGenerator setup q g tries (some (⟨value, reason⟩, g))

def tryGenerators (setup : Setup) (q : LeafRequest) :
    List Generator → (last : Option (Refusal × Generator)) → Run Generated
  | [], last => return .error last
  | g :: rest, last => do
    match ← tryGenerator setup q g setup.options.valueTries last with
    | .ok made => return .ok made
    | .error last => tryGenerators setup q rest last

/-- Any text, when no generator made one. -/
def anyText (setup : Setup) (q : LeafRequest) : Run String := do
  match ← Run.attempt ((Generator.primitive .string).run (q.leaf setup.options)) with
  | .ok text => return text
  | .error _ => return ""

/-- The generator that the name of a leaf calls for, if names are taken as a hint. -/
def hinted? (setup : Setup) (name : String) (f : Facets) : Option Generator :=
  if setup.plan.overrides.realisticData then (Generator.forName? name f).map .semantic else none

/-- The generators for a leaf in the order in which they are asked. -/
def generatorsFor (setup : Setup) (name : String) (f : Facets) : List Generator :=
  (hinted? setup name f).toList ++ [.primitive (Generator.forFacets f)]

def finish (setup : Setup) (q : LeafRequest) (generator source value : String) : Run String := do
  markUsed setup q value
  Run.record fun r => (r.countGenerator generator).countValue source
  return value

/-- Generates a value; if none is acceptable, the last one is kept with a warning. -/
def generate (setup : Setup) (q : LeafRequest) (source : String) : Run String := do
  match ← tryGenerators setup q (generatorsFor setup q.name q.facets) none with
  | .ok (value, g) => finish setup q g.id source value
  | .error last =>
    let (value, id, reason) ← match last with
      | some (refusal, g) => pure (refusal.value, g.id, refusal.reason)
      | none => do
        pure (← anyText setup q, (Generator.primitive .string).id, "no generator produced a value")
    let tries := toString setup.options.valueTries
    Run.warn { q.warning "constraint_violation"
        ("no generated value satisfied the facets after " ++ tries ++ " attempts; kept '" ++ value ++
          "': " ++ reason) with
      generator := some id }
    finish setup q id source value

/-- Generates a value because a source had no acceptable one. -/
def fallBack (setup : Setup) (q : LeafRequest) (source reason : String) : Run String := do
  Run.record .countFallback
  Run.warn (q.warning "source_fallback"
    ("no " ++ source ++ " value satisfied the facets (" ++ reason ++ "); generating instead"))
  generate setup q "fallback"

/-! ## Sources in order -/

/-- Continues after a source: with its value, with a generated one when it was refused, and with the
next source when it was empty. -/
def orElse (setup : Setup) (q : LeafRequest) (source : String) (next : Run String) : Picked → Run String
  | .value text => return text
  | .refused reason => fallBack setup q source reason
  | .empty => next

/-- The value of a leaf from the records of its rule or a generator. -/
def fromRecords (setup : Setup) (q : LeafRequest) (rule : ElementRule) : Run String := do
  match rule.templateSource with
  | some path =>
    orElse setup q "template" (generate setup q "generator") (← pickFromRecords setup q rule path)
  | none => generate setup q "generator"

/-- The value of a leaf from the data contexts or what comes after them. -/
def fromContexts (setup : Setup) (q : LeafRequest) (rule : ElementRule) : Run String := do
  match rule.dataContext with
  | some path =>
    let pool ← Run.ofContexts (setup.contexts.pool path)
    orElse setup q "data_context" (fromRecords setup q rule)
      (← pickFromPool setup q pool (rule.selection.getD .random) "data_context")
  | none => fromRecords setup q rule

/-- The value of a leaf from the sources of its rule. -/
def fromRule (setup : Setup) (q : LeafRequest) (rule : ElementRule) : Run String := do
  orElse setup q "custom_values" (fromContexts setup q rule)
    (← pickFromPool setup q rule.customValues (rule.selection.getD .sequential) "custom_values")

/-- The value of a leaf from its own sources. -/
def fromSources (setup : Setup) (q : LeafRequest) : Run String :=
  match setup.plan.rule? q.name q.path with
  | some rule => fromRule setup q rule
  | none => generate setup q "generator"

/-! ## Fields of relationships -/

def fieldRequest (setup : Setup) (field : String) : Run LeafRequest :=
  match setup.index.fieldEntry? field with
  | some (entry, facets) => return { name := entry.name, path := entry.path, facets }
  | none => throw (.unmatchedField field)

/-- How many generated values stand in for a pool. -/
def sampleSize (options : Options) : Nat := max 8 options.relationshipAttempts.toNat

/-- Draws values, at most `tries` times, until there are `size` different ones; refusals are skipped. -/
def sample (setup : Setup) (q : LeafRequest) (g : Generator) (size : Nat) :
    (tries : Nat) → (found : Array String) → Run (List String)
  | 0, found => return found.toList
  | tries + 1, found => do
    if found.size = size then return found.toList
    match ← Run.attempt (g.run (q.leaf setup.options) setup.options.libraries) with
    | .ok value =>
      sample setup q g size tries (if found.contains value then found else found.push value)
    | .error _ => sample setup q g size tries found

def samplePool (setup : Setup) (q : LeafRequest) : Run (List String) :=
  let size := sampleSize setup.options
  let g := (hinted? setup q.name q.facets).getD (.primitive (Generator.forFacets q.facets))
  sample setup q g size (2 * size) #[]

/-- The pool that is configured for a field: its custom values, its data, or the data of its
relationship if that is a pool. -/
def configuredPool (setup : Setup) (q : LeafRequest) (r : Relationship) : Run (List String) :=
  let shared := match r.source with
    | some path => (setup.contexts.pool path).toOption.getD []
    | none => []
  match setup.plan.rule? q.name q.path with
  | some rule =>
    if !rule.customValues.isEmpty then return rule.customValues
    else match rule.dataContext with
      | some path => Run.ofContexts (setup.contexts.pool path)
      | none => return shared
  | none => return shared

/-- The candidates for a field; those that satisfy its simple type if there are any. -/
def candidatePool (setup : Setup) (field : String) (r : Relationship) : Run (List String) := do
  let q ← fieldRequest setup field
  let configured ← configuredPool setup q r
  let pool ← if configured.isEmpty then samplePool setup q else pure configured
  let conforming := pool.filter fun v => q.facets.accepts v setup.options.libraries.isMatch
  return if conforming.isEmpty then pool else conforming

/-- The path and strategy by which a field is picked. -/
def fieldSelection (setup : Setup) (field : String) : String × SelectionStrategy :=
  match setup.index.fieldEntry? field with
  | none => (field, .random)
  | some (entry, _) =>
    match setup.plan.rule? entry.name entry.path with
    | some rule =>
      (entry.path, rule.selection.getD (if rule.customValues.isEmpty then .random else .sequential))
    | none => (entry.path, .random)

def fieldSources (setup : Setup) : FieldSources where
  independent field := do fromSources setup (← fieldRequest setup field)
  pool := candidatePool setup
  selection := fieldSelection setup

/-! ## Leaves -/

/-- The field that a relationship supplies a leaf by, unless custom values come first. -/
def delegate? (setup : Setup) (q : LeafRequest) : Option String :=
  let customFirst := match setup.plan.rule? q.name q.path with
    | some rule => !rule.customValues.isEmpty
    | none => false
  (setup.plan.participantField? q.name q.path).filter fun field =>
    !customFirst || setup.plan.drawsFromField field

/-- Keeps a value from a relationship, with a warning if it does not satisfy the simple type. -/
def keepRelated (setup : Setup) (q : LeafRequest) (field value : String) : Run Unit := do
  match q.facets.check value setup.options.libraries.isMatch with
  | .ok () => pure ()
  | .error r =>
    Run.warn { q.warning "constraint_violation"
        ("relationship value kept despite facets: " ++ r.message) with
      relationship := some field }
  keep setup q "relationship" value

/-- The value of a leaf that is not fixed. -/
def resolveOpen (setup : Setup) (q : LeafRequest) : Run String := do
  match delegate? setup q with
  | none => fromSources setup q
  | some field =>
    match ← Relation.resolveField setup (fieldSources setup) field with
    | some value =>
      keepRelated setup q field value
      return value
    | none => fromSources setup q

def resolve (setup : Setup) (q : LeafRequest) : Run String := do
  match q.fixed with
  | some value =>
    Run.record (.countValue "fixed")
    return value
  | none => resolveOpen setup q

end Leaf
end Specimen
