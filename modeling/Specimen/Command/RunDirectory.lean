import Specimen.Command.Basic
import Specimen.Command.Host
import Specimen.Config.Document
import Specimen.Schema.Document
import Specimen.Text.Split

/-!
# Directories of runs

Every run has a directory of its own, named for the time of its beginning and its identifier, in which
it leaves a record, the configuration as it was used, the document, a report and a log.
-/

namespace Specimen

/-- A run that leaves files behind. -/
structure RunDirectory where
  id : String
  started : Instant
  /-- The directory in which runs have theirs. -/
  runs : String
  deriving Repr, Inhabited

/-- The path of what has a name in a directory. -/
def pathIn (directory name : String) : String :=
  if directory.toList.getLast? = some '/' then directory ++ name else directory ++ "/" ++ name

/-- The path of the directory in which something is; empty when that is the working directory. -/
def pathAbove (path : String) : String :=
  let blank (s : List Char) : Bool := s.isEmpty || s == ['.']
  let named := (Text.splitAt '/' path.toList).reverse.dropWhile blank
  match named with
  | [] => ""
  | _ :: above =>
    match (above.dropWhile blank).reverse with
    | [] => if path.toList.head? = some '/' then "/" else ""
    | parts => "/".intercalate (parts.map String.ofList)

def byteDigits (b : UInt8) : List Char :=
  [Nat.digitChar (b.toNat / 16), Nat.digitChar (b.toNat % 16)]

/-- The identifier made of sixteen random bytes, four and two bits of which say what it is. -/
def randomId (bytes : List UInt8) : String :=
  let marked := bytes.mapIdx fun i b =>
    if i = 6 then b % 16 + 64 else if i = 8 then b % 64 + 128 else b
  let digits := marked.flatMap byteDigits
  let part (start length : Nat) : String := String.ofList ((digits.drop start).take length)
  "-".intercalate [part 0 8, part 8 4, part 12 4, part 16 4, part 20 12]

namespace RunDirectory

def name (d : RunDirectory) : String := d.started.fileText ++ "__run_" ++ d.id

def root (d : RunDirectory) : String := pathIn d.runs d.name

def record (d : RunDirectory) : String := pathIn d.root "run.json"

/-- The path of the configuration as it was used. -/
def config (d : RunDirectory) : String := pathIn d.root "resolved_config.json"

def document (d : RunDirectory) : String := pathIn d.root "document.xml"

def report (d : RunDirectory) : String := pathIn d.root "generation_report.json"

def log (d : RunDirectory) : String := pathIn d.root "logs.ndjson"

def recordJson (d : RunDirectory) (r : GenerateRequest) (revision : Revision) : Json :=
  let number (n : UInt64) : Json := .nat n.toNat
  .object [
    ("run_id", .string d.id),
    ("started_at", .string (d.started.text "+00:00")),
    ("schema_path", .string r.schema),
    ("config_path", Json.ofOption .string r.config),
    ("schema_version", .string Schema.documentVersion),
    ("config_version", .string Config.documentVersion),
    ("options", .object [
      ("root_element", Json.ofOption .string r.root), ("seed", Json.ofOption number r.seed),
      ("mode", Json.ofOption .string r.mode), ("allow_partial", .bool r.allowPartial),
      ("timeout_ms", Json.ofOption number r.timeoutMs)]),
    ("git", .object [
      ("commit", Json.ofOption .string revision.commit),
      ("dirty", Json.ofOption .bool revision.dirty)])]

end RunDirectory
end Specimen
