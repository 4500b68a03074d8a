import Specimen.Plan.AgainstSchema
import Specimen.Plan.Compile
import Specimen.Schema.Validation
import Specimen.Walk.Build

/-!
# Generating documents

A document is generated from a schema, a configuration and options.  Everything that can be checked is
checked before the walk begins: the schema by itself, the configuration by itself and beside the schema,
the data that it refers to, and the root.  After that a run stops only when its steps run out or a
computation leaves its range.
-/

namespace Specimen

/-- Why there is no element to begin with. -/
inductive RootError where
  | unknown (name : String)
  | missing
  deriving DecidableEq, Repr

def RootError.detail : RootError → String
  | .unknown name => "root element '" ++ name ++ "' is not a global element"
  | .missing => "schema declares no global elements"

/-- Why there is no document. -/
inductive GenerationError where
  | schema (e : SchemaError)
  | root (e : RootError)
  | rejected (report : ConfigReport)
  | stopped (e : RunError)
  /-- A computation left its range; the report says how far the run came. -/
  | failed (report : Report)

def GenerationError.message : GenerationError → String
  | .schema e => "schema error: " ++ e.message
  | .root e => "schema error: invalid schema: " ++ e.detail
  | .rejected report => "configuration error: " ++ report.summary
  | .stopped e => e.message
  | .failed _ => "generation failed"

/-- What a run gives. -/
structure Generated where
  document : Node
  report : Report
  plan : Plan

namespace Generation

/-- A configuration with the seed and mode of the options. -/
def override (config : Config) (options : Options) : Config :=
  { config with
    settings :=
      { config.settings with
        seed := options.seed <|> config.settings.seed
        mode := options.mode.getD config.settings.mode } }

/-- The plan of a configuration that fits a schema. -/
def planFor (schema : Schema) (config : Config) (options : Options) :
    Except GenerationError Plan := do
  let plan ← (override config options).compile.mapError fun faults => .rejected (.ofFaults faults)
  let beside := ConfigReport.ofFaults (plan.faultsAgainst schema)
  if beside.isOk then return { plan with warnings := plan.warnings ++ beside.warnings }
  else throw (.rejected beside)

/-- Follows the references of a rule into the data. -/
def checkRule (contexts : Contexts) (rule : ElementRule) : Except ContextError Unit := do
  match rule.dataContext with
  | some path => discard (contexts.find path)
  | none => pure ()
  match rule.templateSource with
  | some path => discard (contexts.records path)
  | none => pure ()

/-- Follows the reference of a relationship into the data. -/
def checkSource (contexts : Contexts) (r : Relationship) : Except ContextError Unit :=
  match r.source with
  | some path => discard (contexts.records path)
  | none => pure ()

/-- The data of a plan, when every reference into it leads somewhere. -/
def contextsFor (plan : Plan) : Except ContextError Contexts := do
  let contexts ← Contexts.merge plan.dataContexts
  plan.rules.forM (checkRule contexts)
  plan.relationships.forM (checkSource contexts)
  return contexts

/-- The root of the document: the one that is asked for, or the first global element. -/
def selectRoot (schema : Schema) (plan : Plan) (options : Options) : Except RootError Element :=
  match options.rootElement <|> plan.metadata.rootElement with
  | some name =>
    match schema.root? name with
    | some e => .ok e
    | none => .error (.unknown name)
  | none =>
    match schema.elements with
    | e :: _ => .ok e
    | [] => .error .missing

/-- Everything that is settled before the walk: the setup and the root. -/
def prepare (schema : Schema) (config : Config) (options : Options) :
    Except GenerationError (Setup × Element) := do
  schema.validate.mapError .schema
  let plan ← planFor schema config options
  let contexts ← (contextsFor plan).mapError fun e => .stopped (.contexts e)
  let index ← (Index.ofSchema schema plan).mapError .schema
  let root ← (selectRoot schema plan options).mapError .root
  return ({ schema, plan, index, contexts, options }, root)

/-- A warning about the configuration as a notice. -/
def noticeOf (issue : Issue) : Notice where
  code := issue.code
  message := issue.message
  path := some issue.place

/-- The report before the first step, which warns of the configuration and of nothing else. -/
def firstReport (setup : Setup) (root : Element) (seed : UInt64) : Report :=
  let told : Report := (setup.plan.warnings.map noticeOf).foldl (fun r n => r.warn n) {}
  { root := some root.name
    seed
    mode := setup.plan.settings.mode.name
    warningsByCode := told.warningsByCode
    warnings := told.warnings }

def failureNotice (breakdown : Breakdown) : Notice where
  level := .error
  code := "generation_failed"
  message := breakdown.message

/-- What comes of a walk that ends in a state. -/
def outcome (setup : Setup) (s : RunState) : Except RunError Node → Except GenerationError Generated
  | .ok document => .ok { document, report := s.report, plan := setup.plan }
  | .error (.broken breakdown) => .error (.failed (s.report.warn (failureNotice breakdown)))
  | .error e => .error (.stopped e)

/-- The state before the first step, with random numbers that need not come from the seed. -/
def firstState (setup : Setup) (root : Element) (seed : UInt64) (rng : Random.Rng) : RunState :=
  { RunState.start seed (firstReport setup root seed) with rng }

def walkFrom (setup : Setup) (root : Element) (s : RunState) :
    Except GenerationError Generated × Trace :=
  let (result, s) := (Walk.buildDocument setup root).exec s
  (outcome setup s result, s.trace)

/-- Walks from the root with the random numbers of a seed. -/
def walk (setup : Setup) (root : Element) (seed : UInt64) :
    Except GenerationError Generated × Trace :=
  walkFrom setup root (firstState setup root seed (Random.Rng.ofSeed seed))

/-- The seed of a run; `fresh` is used when neither the options nor the configuration name one. -/
def seedOf (setup : Setup) (fresh : UInt64) : UInt64 := setup.plan.settings.seed.getD fresh

/-- Generates a document; `freshSeed` is used when neither the options nor the configuration name a
seed. -/
def run (schema : Schema) (config : Config) (options : Options) (freshSeed : UInt64) :
    Except GenerationError Generated := do
  let (setup, root) ← prepare schema config options
  (walk setup root (seedOf setup freshSeed)).1

end Generation
end Specimen
