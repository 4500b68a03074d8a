import Specimen.Command.Failure
import Specimen.Command.Log
import Specimen.Command.RunDirectory
import Specimen.Config.Format
import Specimen.Schema.Contract
import Specimen.Xml.Writer

/-!
# Running commands

What each command does on a host.  A command that fails says why on the output for errors and ends with
code 1; a command that cannot be understood ends with code 2.
-/

namespace Specimen

/-- A step of a command on a host. -/
abbrev Session (m : Type → Type) := ExceptT CommandFailure m

namespace Session

variable {m : Type → Type} [Monad m]

def demand {α : Type} (because : FileFault → CommandFailure) (a : m (Except FileFault α)) :
    Session m α := do
  match ← a with
  | .ok a => return a
  | .error fault => throw (because fault)

def readSchema (host : Host m) (path : String) : Session m Schema := do
  let text ← demand .schemaFile (host.read path)
  match Json.parse? text with
  | none => throw (.schemaText "not a document")
  | some j =>
    match Schema.read j with
    | .ok schema => return schema
    | .error e => throw (.schemaText e.message)

def readConfigDocument (host : Host m) (path : String) : Session m Json := do
  match ConfigFormat.ofPath path with
  | .error extension => throw (.configFormat extension)
  | .ok format =>
    let text ← demand .configFile (host.read path)
    match format.parse? text with
    | some j => return j
    | none => throw (.configText (match format with | .json => "Json" | .toml => "Toml"))

/-- The lines about an error in a configuration. -/
def errorLines (issue : Issue) : String :=
  "error: " ++ ConfigReport.line issue ++ "\n" ++
    match issue.hint with
    | some hint => "  hint: " ++ hint ++ "\n"
    | none => ""

/-- The line about a warning on a configuration. -/
def warningLine (issue : Issue) : String := "warning: " ++ ConfigReport.line issue ++ "\n"

/-- The lines about all issues of a configuration. -/
def issueLines (report : ConfigReport) : String :=
  String.join (report.errors.map errorLines) ++ String.join (report.warnings.map warningLine)

def readConfig (host : Host m) : Option String → Session m Config
  | none => return {}
  | some path => do
    let document ← readConfigDocument host path
    let sound := do
      let config ← Config.ofDocument document
      discard config.compile
      return config
    match sound with
    | .ok config => return config
    | .error faults =>
      let report := ConfigReport.ofFaults faults
      host.complain (issueLines report)
      throw (.config report.summary)

/-! ## Runs -/

/-- Writes an entry to the log of a run. -/
def follow (host : Host m) (directory : RunDirectory) (e : LogEntry) : Session m Unit := do
  let line := e.line (← host.now)
  discard (host.append directory.log line)
  host.watch e.level line

def writeRecord (host : Host m) (path : String) (j : Json) : Session m Unit :=
  demand .record (host.write path j.pretty)

/-- Begins a run: makes its directory, its record and its log. -/
def beginRun (host : Host m) (r : GenerateRequest) : Session m RunDirectory := do
  let id := randomId (← host.bytes 16)
  let directory : RunDirectory := { id, started := ← host.now, runs := r.runs }
  demand .record (host.makeDirectory directory.root)
  writeRecord host directory.record (directory.recordJson r (← host.revision))
  demand .record (host.append directory.log "")
  follow host directory <| .event "run_started" [
    ("run_id", .string id), ("run_dir", .string directory.root)]
  return directory

def freshSeed (host : Host m) : Session m UInt64 := do
  return (← host.bytes 8).foldl (fun n b => n * 256 + b.toUInt64) 0

/-- Generates a document and follows the walk in the log; also gives the time it took. -/
def generateFor (host : Host m) (directory : RunDirectory) (schema : Schema) (config : Config)
    (options : Options) : Session m (Except GenerationError Generated × Nat) := do
  let start ← host.ticks
  match Generation.prepare schema config options with
  | .error e => return (.error e, 0)
  | .ok (setup, root) =>
    let seed := Generation.seedOf setup (← freshSeed host)
    follow host directory (.started directory.id setup root seed)
    follow host directory (.types schema.typeGraph)
    let (result, trace) := Generation.walk setup root seed
    (trace.toList.filterMap LogEntry.ofTrace?).forM (follow host directory)
    let milliseconds := (← host.ticks) - start
    follow host directory (.ended directory.id milliseconds result)
    return (result, milliseconds)

/-- Notes the end of a run in its log. -/
def endRun (host : Host m) (directory : RunDirectory) (status : String)
    (more : List (String × Json)) : Session m Unit :=
  follow host directory (.event "run_finished" (("status", .string status) :: more))

/-- Ends a run without a document. -/
def abandonRun {α : Type} (host : Host m) (directory : RunDirectory) (milliseconds : Nat)
    (e : GenerationError) : Session m α := do
  match e with
  | .failed report => do
    writeRecord host directory.report (report.toJsonOfRun directory.id milliseconds)
    endRun host directory "failed" []
    throw (.generation e)
  | e =>
    match e.aboutConfig? with
    | some (summary, issues) => do
      host.complain
        (String.join (issues.map fun i => "error: " ++ ConfigReport.line i ++ "\n"))
      endRun host directory "invalid_config" []
      throw (.config summary)
    | none => do
      endRun host directory "failed" [("error", .string e.message)]
      throw (.generation e)

/-- Writes a document, also where it was asked for; gives its size. -/
def writeDocument (host : Host m) (directory : RunDirectory) (out : Option String)
    (made : Generated) : Session m Nat := do
  let text := Xml.write (.ofOverrides made.plan.overrides) made.document
  demand .document (host.write directory.document text)
  match out with
  | none => pure ()
  | some path => do
    let above := pathAbove path
    if !above.isEmpty then demand .record (host.makeDirectory above)
    demand .document (host.write path text)
  return text.utf8ByteSize

def completeRun (host : Host m) (directory : RunDirectory) (out : Option String)
    (milliseconds : Nat) (made : Generated) : Session m Unit := do
  let size ← writeDocument host directory out made
  follow host directory <| .event "document_written" [
    ("path", .string directory.document), ("bytes", .nat size)]
  writeRecord host directory.report (made.report.toJsonOfRun directory.id milliseconds)
  follow host directory (.event "report_written" [("path", .string directory.report)])
  endRun host directory (if made.report.isPartial then "partial" else "success")
    [("duration_ms", .nat milliseconds)]
  host.say (directory.root ++ "\n")

/-- Generates a document in a directory of its own. -/
def generate (host : Host m) (r : GenerateRequest) : Session m Unit := do
  let schema ← readSchema host r.schema
  let config ← readConfig host r.config
  let config := Generation.override config { seed := r.seed, mode := r.mode }
  let directory ← beginRun host r
  writeRecord host directory.config config.toJson
  let (result, milliseconds) ← generateFor host directory schema config {
    rootElement := r.root
    allowPartial := r.allowPartial
    timeoutMs := r.timeoutMs
    runId := some directory.id
    libraries := .standard
    clock := .swift }
  match result with
  | .ok made => completeRun host directory r.out milliseconds made
  | .error e => abandonRun host directory milliseconds e

/-! ## Other commands -/

/-- The report on a configuration, also beside a schema if one is named. -/
def reportOn (host : Host m) (document : Json) (schema : Option String) :
    Session m ConfigReport := do
  match Config.compileDocument document, schema with
  | .error faults, _ => return .ofFaults faults
  | .ok plan, none => return { warnings := plan.warnings }
  | .ok plan, some path =>
    let beside := ConfigReport.ofFaults (plan.faultsAgainst (← readSchema host path))
    return { errors := beside.errors, warnings := plan.warnings ++ beside.warnings }

def validateConfig (host : Host m) (config : String) (schema : Option String) :
    Session m Unit := do
  let report ← reportOn host (← readConfigDocument host config) schema
  host.complain (issueLines report)
  if report.isOk then
    host.say ("configuration ok (" ++ toString report.warnings.length ++ " warnings)\n")
  else throw (.config report.summary)

/-- Shows how the types of a schema refer to each other. -/
def inspectSchema (host : Host m) (path : String) : Session m Unit := do
  let schema ← readSchema host path
  match schema.validate with
  | .ok () => host.say (schema.typeGraph.toJson.pretty ++ "\n")
  | .error e => throw (.schema e)

def contractOf : ContractTarget → Json
  | .schema => Schema.contract
  | .config => Config.contract.toJson

end Session

namespace Command

variable {m : Type → Type} [Monad m]

def session (host : Host m) : Command → Session m Unit
  | .generate r => Session.generate host r
  | .validateConfig config schema => Session.validateConfig host config schema
  | .inspectSchema path => Session.inspectSchema host path
  | .emitContract target => host.say ((Session.contractOf target).pretty ++ "\n")

/-- Runs a command; gives the code with which the program ends. -/
def execute (host : Host m) (c : Command) : m Nat := do
  match ← (c.session host).run with
  | .ok () => return 0
  | .error failure =>
    host.complain ("Error: " ++ failure.shown ++ "\n")
    return 1

/-- What the program is called, with its version. -/
def versionLine : String := "xsdforge 0.1.0\n"

def usage : String :=
  "Schema-driven XML instance generator\n\nUsage: xsdforge <COMMAND>\n\nCommands:\n" ++
    "  generate --schema <FILE> [--config <FILE>] [--root <NAME>] [--seed <NUMBER>] [--mode <MODE>]\n" ++
    "           [--out <FILE>] [--run-dir <DIRECTORY>] [--allow-partial] [--timeout-ms <NUMBER>]\n" ++
    "  validate-config --config <FILE> [--schema <FILE>]\n" ++
    "  inspect-schema --schema <FILE>\n" ++
    "  emit-json-schema <schema|config>\n"

/-- Runs the program with its arguments; gives the code with which it ends. -/
def program (host : Host m) (arguments : List String) : m Nat := do
  match read arguments with
  | .ok c => execute host c
  | .error .version =>
    host.say versionLine
    return 0
  | .error .help =>
    host.say usage
    return 0
  | .error .misuse =>
    host.complain usage
    return 2

end Command
end Specimen
