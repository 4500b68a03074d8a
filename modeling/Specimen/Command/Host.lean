import Specimen.Calendar.Date
import Specimen.Json.Basic
import Specimen.Text.Quoted

/-!
# Hosts

What a command needs from the machine it runs on: files, output, time and chance.  A command is written
for any host, so that what it does can be seen on a machine in memory as well.
-/

namespace Specimen

/-- Why a file or directory could not be read or written. -/
inductive FileFault where
  | notFound
  | permissionDenied
  | alreadyExists
  | notADirectory
  | isADirectory
  /-- The file is not a text in UTF-8. -/
  | notText
  | other (code : Nat) (message : String)
  deriving DecidableEq, Repr, Inhabited

namespace FileFault

/-- A fault that the operating system reports, as a diagnostic shows it. -/
def showSystem (code : Nat) (kind message : String) : String :=
  "Os \x7b code: " ++ toString code ++ ", kind: " ++ kind ++ ", message: " ++
    Text.showQuoted message ++ " \x7d"

def shown : FileFault → String
  | .notFound => showSystem 2 "NotFound" "No such file or directory"
  | .permissionDenied => showSystem 13 "PermissionDenied" "Permission denied"
  | .alreadyExists => showSystem 17 "AlreadyExists" "File exists"
  | .notADirectory => showSystem 20 "NotADirectory" "Not a directory"
  | .isADirectory => showSystem 21 "IsADirectory" "Is a directory"
  | .notText =>
    "Error \x7b kind: InvalidData, message: \"stream did not contain valid UTF-8\" \x7d"
  | .other code message => showSystem code "Uncategorized" message

end FileFault

/-- A moment of the clock on the wall, with the nanoseconds of its second. -/
structure Instant where
  moment : Moment
  nanos : Nat := 0
  deriving DecidableEq, Repr, Inhabited

namespace Instant

/-- The instant a number of nanoseconds after the beginning of the year 1970. -/
def ofUnixNanos (n : Nat) : Instant :=
  let seconds := n / Nat.pow 10 9
  let day := (⟨1970, 1, 1⟩ : Date).dayNumber + (seconds / 86400 : Nat)
  ⟨⟨Date.ofDayNumber day, ⟨seconds % 86400, false⟩⟩, n % Nat.pow 10 9⟩

/-- An instant in the name of a file. -/
def fileText (i : Instant) : String :=
  String.ofList (i.moment.text.toList.map fun c => if c = ':' then '-' else c) ++ "Z"

/-- An instant with its fraction and the mark of its zone. -/
def text (i : Instant) (zone : String) : String :=
  i.moment.text ++ "." ++ paddedNat 9 i.nanos ++ zone

end Instant

/-- The state of the working directory as version control knows it. -/
structure Revision where
  commit : Option String := none
  dirty : Option Bool := none
  deriving DecidableEq, Repr, Inhabited

/-- How much attention an entry of a log asks for. -/
inductive LogLevel where
  | debug
  | info
  | warn
  deriving DecidableEq, Repr, Inhabited

def LogLevel.name : LogLevel → String
  | .debug => "DEBUG"
  | .info => "INFO"
  | .warn => "WARN"

/-- What a command needs from the machine it runs on. -/
structure Host (m : Type → Type) where
  read : String → m (Except FileFault String)
  /-- Writes a file in place of one that is there. -/
  write : String → String → m (Except FileFault Unit)
  /-- Writes at the end of a file; makes it when it is missing. -/
  append : String → String → m (Except FileFault Unit)
  /-- Makes a directory and those above it, as far as they are missing. -/
  makeDirectory : String → m (Except FileFault Unit)
  /-- Writes to the output. -/
  say : String → m Unit
  /-- Writes to the output for errors. -/
  complain : String → m Unit
  /-- Shows a line of a log to those who watch the run. -/
  watch : LogLevel → String → m Unit
  now : m Instant
  /-- Milliseconds since some moment of the past. -/
  ticks : m Nat
  /-- Random bytes. -/
  bytes : Nat → m (List UInt8)
  revision : m Revision

end Specimen
