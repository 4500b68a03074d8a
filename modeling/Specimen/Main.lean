import Specimen.Command.Execute
import Std.Time.DateTime

/-!
# The program

The program on the machine it is started on: files, clock and chance are those of the operating system.
Runs are also logged on the output for errors, from the level that the variable `RUST_LOG` names.
-/

namespace Specimen
namespace Program

/-- What the operating system says about a file. -/
def faultOf : IO.Error → FileFault
  | .noFileOrDirectory .. => .notFound
  | .permissionDenied .. => .permissionDenied
  | .alreadyExists .. => .alreadyExists
  | .inappropriateType _ code details =>
    if code = 20 then .notADirectory
    else if code = 21 then .isADirectory
    else .other code.toNat details
  | e => .other 5 (toString e)

def attempt {α : Type} (act : IO α) : IO (Except FileFault α) :=
  tryCatch (do return .ok (← act)) fun e => return .error (faultOf e)

def readText (path : String) : IO (Except FileFault String) := do
  match ← attempt (IO.FS.readBinFile path) with
  | .error fault => return .error fault
  | .ok bytes =>
    match String.fromUTF8? bytes with
    | some s => return .ok s
    | none => return .error .notText

def appendText (path text : String) : IO Unit := do
  let handle ← IO.FS.Handle.mk path .append
  handle.putStr text

/-- The name of the lowest level that is shown. -/
def levelNames : List (String × List LogLevel) := [
  ("off", []), ("error", []), ("warn", [.warn]), ("info", [.warn, .info]),
  ("debug", [.warn, .info, .debug]), ("trace", [.warn, .info, .debug])]

/-- Shows a line of a log if its level is shown. -/
def watch (level : LogLevel) (line : String) : IO Unit := do
  let named := (← IO.getEnv "RUST_LOG").getD "info"
  let shown := ((levelNames.find? fun n => n.1 == named).map (·.2)).getD [.warn, .info]
  if shown.contains level then (← IO.getStderr).putStr line

/-- The commit that is checked out in the working directory. -/
def revision : IO Revision := do
  match ← readText ".git/HEAD" with
  | .error _ => return {}
  | .ok head =>
    match head.trimAscii.toString.splitOn "ref: " with
    | [_, ref] =>
      match ← readText (".git/" ++ ref) with
      | .ok commit => return { commit := some commit.trimAscii.toString }
      | .error _ => return {}
    | _ => return { commit := some head.trimAscii.toString }

/-- The machine that the program is started on. -/
def host : Host IO where
  read := readText
  write path text := attempt (IO.FS.writeFile path text)
  append path text := attempt (appendText path text)
  makeDirectory path := attempt (IO.FS.createDirAll path)
  say text := do (← IO.getStdout).putStr text
  complain text := do (← IO.getStderr).putStr text
  watch
  now := do
    let t ← Std.Time.Timestamp.now
    return .ofUnixNanos t.toNanosecondsSinceUnixEpoch.val.toNat
  ticks := IO.monoMsNow
  bytes count := do return (← IO.getRandomBytes (USize.ofNat count)).toList
  revision

end Program
end Specimen

def main (arguments : List String) : IO UInt32 := do
  return UInt32.ofNat (← Specimen.Command.program Specimen.Program.host arguments)
