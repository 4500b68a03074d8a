import Specimen.Command.Host
import Specimen.Dict
import Specimen.Text.Split

/-!
# A machine in memory

A host whose files are a dictionary.  Paths are relative to one directory; above it there is nothing.
The clock stands still and chance gives zeros.
-/

namespace Specimen

/-- A machine in memory. -/
structure Machine where
  /-- Texts by path, the segments of which are separated by single slashes. -/
  files : Dict String := {}
  /-- The directories by path, besides the one that paths are relative to. -/
  directories : List String := []
  output : String := ""
  errors : String := ""
  deriving Inhabited

namespace Machine

/-- The segments of a path; empty ones and single points are left out. -/
def segments (path : String) : List String :=
  (Text.partsBetween '/' path).filter (· ≠ ".")

def ofSegments (segments : List String) : String := "/".intercalate segments

/-- A path without empty segments and single points. -/
def normal (path : String) : String := ofSegments (segments path)

/-- Whether a normal path leads to a directory. -/
def isDirectory (m : Machine) (path : String) : Bool := path.isEmpty || m.directories.contains path

/-- The paths above a path, the shortest first. -/
def above (path : String) : List String :=
  let parts := segments path
  (List.range parts.length).map fun n => ofSegments (parts.take n)

/-- What stands in the way to a path, if not all paths above it are directories. -/
def obstacle? (m : Machine) (path : String) : Option FileFault :=
  (above path).findSome? fun p =>
    if m.isDirectory p then none
    else if m.files.contains p then some .notADirectory
    else some .notFound

def read (m : Machine) (path : String) : Except FileFault String :=
  match m.obstacle? path with
  | some fault => .error fault
  | none =>
    if m.isDirectory (normal path) then .error .isADirectory
    else
      match m.files.get? (normal path) with
      | some text => .ok text
      | none => .error .notFound

def write (m : Machine) (path text : String) : Except FileFault Machine :=
  match m.obstacle? path with
  | some fault => .error fault
  | none =>
    if m.isDirectory (normal path) then .error .isADirectory
    else .ok { m with files := m.files.insert (normal path) text }

def append (m : Machine) (path text : String) : Except FileFault Machine :=
  m.write path ((m.files.get? (normal path)).getD "" ++ text)

/-- Adds a directory, unless it is there. -/
def addDirectory (m : Machine) (path : String) : Machine :=
  if m.isDirectory path then m else { m with directories := m.directories ++ [path] }

def makeDirectory (m : Machine) (path : String) : Except FileFault Machine :=
  if (above path).any m.files.contains then .error .notADirectory
  else if m.files.contains (normal path) then .error .alreadyExists
  else .ok ((above path ++ [normal path]).foldl addDirectory m)

/-- Puts a file into a machine, with the directories above it. -/
def withFile (m : Machine) (path text : String) : Machine :=
  let m := (above path).foldl addDirectory m
  { m with files := m.files.insert (normal path) text }

/-- The names of what is directly inside a directory, in order. -/
def list (m : Machine) (path : String) : List String :=
  let parts := segments path
  let inside := (m.files.keys ++ m.directories).filterMap fun p =>
    let ps := segments p
    if ps.length = parts.length + 1 ∧ ps.take parts.length = parts then ps.getLast? else none
  inside.mergeSort (· ≤ ·)

/-- Keeps the machine that a step leaves behind. -/
def settle (m : Machine) : Except FileFault Machine → Except FileFault Unit × Machine
  | .ok m => (.ok (), m)
  | .error fault => (.error fault, m)

def host : Host (StateM Machine) where
  read path := do return (← get).read path
  write path text := modifyGet fun m => m.settle (m.write path text)
  append path text := modifyGet fun m => m.settle (m.append path text)
  makeDirectory path := modifyGet fun m => m.settle (m.makeDirectory path)
  say text := modify fun m => { m with output := m.output ++ text }
  complain text := modify fun m => { m with errors := m.errors ++ text }
  watch _ _ := return ()
  now := return Instant.ofUnixNanos 0
  ticks := return 0
  bytes count := return List.replicate count 0
  revision := return {}

end Machine
end Specimen
