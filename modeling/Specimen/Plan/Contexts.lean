import Specimen.Decimal.Reader
import Specimen.Graph
import Specimen.Plan.Basic
import Specimen.Text.Split

/-!
# Data contexts

A data context shows its own values laid over those of the contexts it inherits from, of which a later
one covers an earlier one.  Values are found by paths: the name of a context, then keys and positions.

A path is read as a single value, as a pool of plain values, or as a list of records.
-/

namespace Specimen

/-- Why data contexts cannot be merged, or a path does not lead to what is asked for. -/
inductive ContextError where
  | unknownParent (context parent : String)
  | cycle (contexts : List String)
  | emptyPath
  | unknownContext (path context : String)
  | unresolved (path segment : String)
  | notPlain (path : String)
  | notPool (path : String)
  | notRecords (path : String)
  deriving DecidableEq, Repr

namespace ContextError

def atPath (path complaint : String) : String := "data context path '" ++ path ++ "'" ++ complaint

def message : ContextError → String
  | .unknownParent context parent =>
    "data context '" ++ context ++ "' inherits unknown context '" ++ parent ++ "'"
  | .cycle contexts => "data context inheritance cycle among: " ++ ", ".intercalate contexts
  | .emptyPath => "empty data context path"
  | .unknownContext path context => atPath path (": unknown context '" ++ context ++ "'")
  | .unresolved path segment => atPath path (": segment '" ++ segment ++ "' does not resolve")
  | .notPlain path => atPath path " must hold scalar values"
  | .notPool path => atPath path " is not a list of values"
  | .notRecords path => atPath path " is not a list of records"

end ContextError

/-- Data contexts after merging: what each of them shows. -/
structure Contexts where
  views : Dict (Dict Json) := {}
  deriving Inhabited

namespace Contexts

/-- The parents of each context, itself included if it says so. -/
def parents (contexts : Dict DataContext) : Graph :=
  contexts.entries.foldl (fun g e => g.add e.1 e.2.inherits) []

/-- The first parent that does not exist, with the context that names it. -/
def missingParent? (contexts : Dict DataContext) : Option (String × String) :=
  contexts.entries.findSome? fun e =>
    (e.2.inherits.find? fun parent => !contexts.contains parent).map fun parent => (e.1, parent)

/-- What a context shows, given what its parents show. -/
def view (views : Dict (Dict Json)) (context : DataContext) : Dict Json :=
  let inherited := context.inherits.foldl
    (fun done parent =>
      match views.get? parent with
      | some shown => done.merge shown
      | none => done) Dict.empty
  inherited.merge context.values

/-- Merges contexts in an order in which parents come first. -/
def mergeInOrder (contexts : Dict DataContext) (order : List String) : Contexts :=
  ⟨order.foldl
    (fun views name =>
      match contexts.get? name with
      | some context => views.insert name (view views context)
      | none => views) Dict.empty⟩

/-- The contexts in an order in which parents come first, unless a parent is missing or a context is its own
ancestor.  All parents of a context are counted, since none of them is missing. -/
def inheritanceOrder (contexts : Dict DataContext) : Except ContextError (List String) :=
  match missingParent? contexts with
  | some (context, parent) => .error (.unknownParent context parent)
  | none =>
    let g := parents contexts
    match g.listing (fun _ _ => true) g.hasEdge with
    | .ok order => .ok order
    | .error left => .error (.cycle left)

def merge (contexts : Dict DataContext) : Except ContextError Contexts :=
  (inheritanceOrder contexts).map (mergeInOrder contexts)

/-- One step into a value: by key into an object, by position into an array. -/
def step? (segment : String) : Json → Option Json
  | .object members => (Json.object members).get? segment
  | .array items => (Decimal.readIntWithin? 0 (Nat.pow 2 64 - 1) segment).bind fun i => items[i.toNat]?
  | _ => none

def follow (path : String) (value : Json) : List String → Except ContextError Json
  | [] => .ok value
  | segment :: rest =>
    match step? segment value with
    | some next => follow path next rest
    | none => .error (.unresolved path segment)

def find (c : Contexts) (path : String) : Except ContextError Json :=
  match Text.partsBetween '.' path with
  | [] => .error .emptyPath
  | context :: rest =>
    match c.views.get? context with
    | some shown => follow path (.object shown.entries) rest
    | none => .error (.unknownContext path context)

/-- The texts of the plain values at a path; a single plain value is a pool of one. -/
def pool (c : Contexts) (path : String) : Except ContextError (List String) := do
  match ← c.find path with
  | .array items =>
    items.mapM fun j =>
      match j.plainText? with
      | some s => .ok s
      | none => .error (.notPlain path)
  | j =>
    match j.plainText? with
    | some s => return [s]
    | none => .error (.notPool path)

def isRecord : Json → Bool
  | .object _ => true
  | _ => false

def records (c : Contexts) (path : String) : Except ContextError (List Json) := do
  match ← c.find path with
  | .array items => if items.all isRecord then return items else .error (.notRecords path)
  | _ => .error (.notRecords path)

end Contexts

/-- The value of a record under a key; a key that differs only in case will do. -/
def recordField? (record : Json) (key : String) : Option Json :=
  match record with
  | .object members =>
    match members.find? fun m => m.1 == key with
    | some m => some m.2
    | none => (members.find? fun m => Text.eqIgnoringAsciiCase m.1 key).map (·.2)
  | _ => none

/-- The text of a record under a key. -/
def recordText? (record : Json) (key : String) : Option String :=
  (recordField? record key).bind (·.plainText?)

end Specimen
