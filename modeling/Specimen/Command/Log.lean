import Specimen.Command.Host
import Specimen.Json.Basic
import Specimen.Run.Generate
import Specimen.Schema.TypeGraph

/-!
# Logs

A run is followed by a log: one JSON document a line, with the time, a level and what happened.
-/

namespace Specimen

/-- An entry of a log. -/
structure LogEntry where
  level : LogLevel := .info
  fields : List (String × Json)

namespace LogEntry

def line (e : LogEntry) (time : Instant) : String :=
  (Json.object [
    ("timestamp", .string (time.text "Z")), ("level", .string e.level.name),
    ("fields", .object e.fields), ("target", .string "xsdforge")]).compact ++ "\n"

def event (name : String) (fields : List (String × Json)) : LogEntry where
  fields := ("event", .string name) :: fields

def message (level : LogLevel) (text : String) (fields : List (String × Json)) : LogEntry where
  level
  fields := ("message", .string text) :: fields

/-- The entry of an event of a walk, if it is worth one.  A warning has a message of its own, which
comes last and stands. -/
def ofTrace? : TraceEvent → Option LogEntry
  | .warned n => some <| message .warn "generation warning" [
      ("code", .string n.code), ("path", .string (n.path.getD "")),
      ("relationship", .string (n.relationship.getD "")), ("message", .string n.message)]
  | .filtered relationship field candidates => some <| message .debug "dependent value filtered" [
      ("relationship", .string relationship), ("field", .string field),
      ("candidates", .nat candidates)]
  | .cut path type depth required => some <| message .debug "recursion truncated" [
      ("path", .string path), ("identity", .string type), ("depth", .nat depth),
      ("required", .bool required)]
  | .chosen owner branch => some <| message .debug "configured choice branch" [
      ("owner", .string owner), ("choice", .string branch)]
  | .drawn owner position => some <| message .debug "random choice branch" [
      ("owner", .string owner), ("index", .nat position)]
  | .picked .. => none
  | .passedOver .. => none

/-- The entry of the beginning of a walk. -/
def started (run : String) (setup : Setup) (root : Element) (seed : UInt64) : LogEntry :=
  message .info "generation started" [
    ("run_id", .string run), ("root", .string root.name), ("seed", .nat seed.toNat),
    ("mode", .string setup.plan.settings.mode.name),
    ("max_depth", .nat setup.plan.settings.maxDepth.toNat),
    ("relationships", .nat setup.plan.relationships.length)]

/-- Names in brackets, as a diagnostic shows them. -/
def nameList (names : List String) : String :=
  "[" ++ ", ".intercalate (names.map Text.showQuoted) ++ "]"

/-- The entry about the types of a schema. -/
def types (graph : TypeGraph) : LogEntry :=
  message .debug "type graph" [
    ("types", .nat graph.nodeCount), ("references", .nat graph.edgeCount),
    ("recursive", .string (nameList graph.recursive))]

/-- The entry of the end of a walk. -/
def ended (run : String) (milliseconds : Nat) : Except GenerationError Generated → LogEntry
  | .ok made => message .info "generation completed" [
      ("run_id", .string run), ("elements", .nat made.report.elements),
      ("values", .nat made.report.values), ("warnings", .nat made.report.warnings.size),
      ("truncations", .nat made.report.truncationCount),
      ("partial", .bool made.report.isPartial), ("duration_ms", .nat milliseconds)]
  | .error (.failed _) => message .warn "generation panicked" [("run_id", .string run)]
  | .error e => message .warn "generation failed" [
      ("run_id", .string run), ("error", .string e.message)]

end LogEntry
end Specimen
