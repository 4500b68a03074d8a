import Specimen.Json.Basic

/-!
# Tables of TOML

A document fills a tree of tables, by headers and by keys of several parts.  A table comes about in one
of three ways, which decide what may still be added to it: its own header, the header of a table inside
it, or a key of several parts.  A value is never changed once it is there.
-/

namespace Specimen
namespace Toml

/-- How a table came about. -/
inductive TableKind where
  /-- By its own header, or as the whole document. -/
  | headed
  /-- By the header of a table inside it. -/
  | implied
  /-- By a key of several parts. -/
  | dotted
  deriving DecidableEq, Repr

/-- Something in a table: a value, a table, or a list of tables of which only the last one grows. -/
inductive Item where
  | value (j : Json)
  | table (kind : TableKind) (members : List (String × Item))
  | tables (earlier : List (List (String × Item))) (last : List (String × Item))

/-- The members of a table. -/
abbrev Members := List (String × Item)

def put (key : String) (item : Item) : Members → Members
  | [] => [(key, item)]
  | (k, i) :: rest => if k = key then (k, item) :: rest else (k, i) :: put key item rest

def find? (key : String) (members : Members) : Option Item :=
  (members.find? fun m => m.1 == key).map (·.2)

/-- Changes the table at the end of a path; tables that are missing on the way are added as tables of a
kind.  A key of several parts (`.dotted`) does not lead through tables with a header of their own. -/
def change? (missing : TableKind) (change : TableKind → Members → Option Members) :
    List String → TableKind → Members → Option Members
  | [], kind, members => change kind members
  | key :: path, _, members =>
    match find? key members with
    | none => (change? missing change path missing []).map fun ms => put key (.table missing ms) members
    | some (.table kind inner) =>
      if missing = .dotted ∧ kind = .headed then none
      else (change? missing change path kind inner).map fun ms => put key (.table kind ms) members
    | some (.tables earlier last) =>
      (change? missing change path .headed last).map fun ms => put key (.tables earlier ms) members
    | some (.value _) => none

/-- Adds a value to the table at the end of the path of a key. -/
def addValue? (path : List String) (key : String) (j : Json) : TableKind → Members → Option Members :=
  change? .dotted
    (fun kind members =>
      if (kind == .dotted) == path.isEmpty then none
      else if (find? key members).isSome then none
      else some (put key (.value j) members))
    path

def openTable? (path : List String) (key : String) (root : Members) : Option Members :=
  change? .implied
    (fun _ members =>
      match find? key members with
      | none => some (put key (.table .headed []) members)
      | some (.table .implied inner) => some (put key (.table .headed inner) members)
      | some _ => none)
    path .headed root

/-- Adds a table to a list of tables by its header. -/
def openListed? (path : List String) (key : String) (root : Members) : Option Members :=
  change? .implied
    (fun _ members =>
      match find? key members with
      | none => some (put key (.tables [] []) members)
      | some (.tables earlier last) => some (put key (.tables (earlier ++ [last]) []) members)
      | some _ => none)
    path .headed root

/-- Adds a value inside the table of the last header. -/
def addUnder? (header path : List String) (key : String) (j : Json) (root : Members) : Option Members :=
  change? .implied (addValue? path key j) header .headed root

mutual

def itemJson : Item → Json
  | .value j => j
  | .table _ members => .object (membersJson members)
  | .tables earlier last => .array (listedJson earlier ++ [.object (membersJson last)])

/-- The members of a table as those of an object, in the order of their keys. -/
def membersJson : List (String × Item) → List (String × Json)
  | [] => []
  | (key, item) :: rest => Json.insertMember key (itemJson item) (membersJson rest)

def listedJson : List (List (String × Item)) → List Json
  | [] => []
  | members :: rest => .object (membersJson members) :: listedJson rest

end

end Toml
end Specimen
