import Specimen.Dict
import Specimen.Json.Decode

/-!
# Reports and traces

What a run says about itself: how much it generated and where the values came from, what had to be
retried, left out or cut off, and which problems it met.  Problems are kept as notices in the order in
which they arose.

A trace tells what happened on a walk, in order, for those who follow it in a log.  It decides nothing; what
has to outlast the run is in the report.
-/

namespace Specimen

/-- How grave a notice is. -/
inductive NoticeLevel where
  | info
  | warning
  | error
  deriving DecidableEq, Repr, Inhabited

def NoticeLevel.name : NoticeLevel → String
  | .info => "info"
  | .warning => "warning"
  | .error => "error"

/-- A problem that a run met. -/
structure Notice where
  level : NoticeLevel := .warning
  code : String
  message : String
  path : Option String := none
  relationship : Option String := none
  generator : Option String := none
  deriving DecidableEq, Repr, Inhabited

def Notice.toJson (n : Notice) : Json :=
  .object <|
    [("level", .string n.level.name), ("code", .string n.code), ("message", .string n.message),
      ("path", Json.ofOption .string n.path)] ++
    Json.memberIfSome "relationship" .string n.relationship ++
    Json.memberIfSome "generator_id" .string n.generator

/-- Counts by name. -/
abbrev Tally := Dict Nat

/-- Adds one to the count of a name. -/
def Tally.bump (t : Tally) (name : String) : Tally := t.insert name ((t.get? name).getD 0 + 1)

def Tally.count (t : Tally) (name : String) : Nat := (t.get? name).getD 0

/-- What a run says about itself. -/
structure Report where
  root : Option String := none
  seed : UInt64 := 0
  mode : String := ""
  /-- Whether the budget ran out and the unfinished document was kept. -/
  isPartial : Bool := false
  elements : Nat := 0
  attributes : Nat := 0
  values : Nat := 0
  steps : Nat := 0
  retries : Nat := 0
  fallbacks : Nat := 0
  truncationCount : Nat := 0
  /-- Optional declarations that were left out. -/
  omitted : Nat := 0
  valueSources : Tally := {}
  generators : Tally := {}
  relationships : Tally := {}
  warningsByCode : Tally := {}
  warnings : Array Notice := #[]
  truncations : Array Notice := #[]
  deriving Inhabited

namespace Report

/-- Counts a value by where it came from. -/
def countValue (source : String) (r : Report) : Report :=
  { r with values := r.values + 1, valueSources := r.valueSources.bump source }

def countGenerator (id : String) (r : Report) : Report :=
  { r with generators := r.generators.bump id }

def countRelationship (id : String) (r : Report) : Report :=
  { r with relationships := r.relationships.bump id }

def countRetry (r : Report) : Report := { r with retries := r.retries + 1 }

/-- Counts a value that had to be generated because its source had none. -/
def countFallback (r : Report) : Report := { r with fallbacks := r.fallbacks + 1 }

/-- Counts an optional declaration that was left out. -/
def countOmitted (r : Report) : Report := { r with omitted := r.omitted + 1 }

def countElement (r : Report) : Report := { r with elements := r.elements + 1 }

def countAttribute (r : Report) : Report := { r with attributes := r.attributes + 1 }

/-- Counts a warning under its code and keeps it. -/
def warn (n : Notice) (r : Report) : Report :=
  { r with warningsByCode := r.warningsByCode.bump n.code, warnings := r.warnings.push n }

/-- Counts a truncation and keeps it. -/
def truncate (n : Notice) (r : Report) : Report :=
  { r with truncationCount := r.truncationCount + 1, truncations := r.truncations.push n }

/-- How many warnings were counted under a code. -/
def warningCount (r : Report) (code : String) : Nat := r.warningsByCode.count code

def tallyJson (t : Tally) : Json := .object (t.mapValues .nat).entries

/-- The members of the document of a report that are plain. -/
def plainMembers (r : Report) : List (String × Json) := [
  ("root_element", Json.ofOption .string r.root),
  ("seed", .nat r.seed.toNat),
  ("mode", .string r.mode),
  ("partial", .bool r.isPartial),
  ("elements_generated", .nat r.elements),
  ("attributes_generated", .nat r.attributes),
  ("values_generated", .nat r.values),
  ("steps", .nat r.steps),
  ("retries_total", .nat r.retries),
  ("fallback_count", .nat r.fallbacks),
  ("truncation_count", .nat r.truncationCount),
  ("omitted_optional", .nat r.omitted)]

/-- The members of the document of a report that are not plain. -/
def nestedMembers (r : Report) : List (String × Json) := [
  ("value_source_usage", tallyJson r.valueSources),
  ("generator_usage", tallyJson r.generators),
  ("relationship_usage", tallyJson r.relationships),
  ("warnings_by_code", tallyJson r.warningsByCode),
  ("warnings", .array (r.warnings.toList.map Notice.toJson)),
  ("truncations", .array (r.truncations.toList.map Notice.toJson))]

def toJson (r : Report) : Json := .object (r.plainMembers ++ r.nestedMembers)

/-- A report as a document that also names the run and says how long it took. -/
def toJsonOfRun (r : Report) (run : String) (milliseconds : Nat) : Json :=
  .object (("run_id", .string run) :: r.plainMembers ++
    ("duration_ms", .nat milliseconds) :: r.nestedMembers)

end Report

/-! ## Traces -/

/-- Something that happened on a walk. -/
inductive TraceEvent where
  | warned (notice : Notice)
  /-- A dependent field was drawn from those of its candidates that fit. -/
  | filtered (relationship field : String) (candidates : Nat)
  /-- A type was nested too deeply to be entered again. -/
  | cut (path type : String) (depth : Nat) (required : Bool)
  /-- The configured branch of a choice was taken. -/
  | chosen (owner branch : String)
  /-- A branch of a choice was taken at random. -/
  | drawn (owner : String) (position : Nat)
  /-- A persona took a record for an instance; which values this leads to is told by the document. -/
  | picked (relationship : String) (ordinal record : Nat)
  /-- Something was not entered because its type was nested too deeply; what that leads to is told by
  other events. -/
  | passedOver (owner type : String)
  deriving DecidableEq, Repr, Inhabited

/-- Whether an event says that a type was nested too deeply. -/
def TraceEvent.isRefusal : TraceEvent → Bool
  | .cut .. => true
  | .passedOver .. => true
  | _ => false

/-- What happened on a walk, in order. -/
abbrev Trace := Array TraceEvent

end Specimen
