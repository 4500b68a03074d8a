import Specimen.Decimal.Writer

/-!
# JSON documents

The document type in which schemas, configurations, reports and records are exchanged.  Integers and
floating-point numbers are told apart, as a document writes `1` and `1.0` differently.  Objects list
their members in the order in which they are written; a document that was read has its keys in
increasing order and each key once.

Documents are written compactly, or with every member and item on a line of its own, indented by two
blanks a level.  Both forms keep the order of members.
-/

namespace Specimen

/-! ## Documents -/

/-- A JSON document. -/
inductive Json where
  | null
  | bool (value : Bool)
  | int (value : Int)
  | float (value : Float)
  | string (value : String)
  | array (items : List Json)
  | object (members : List (String × Json))
  deriving Inhabited

namespace Json

/-- Puts a member into its place among members with increasing keys; an earlier member with the same
key is replaced. -/
def insertMember {α : Type} (key : String) (value : α) : List (String × α) → List (String × α)
  | [] => [(key, value)]
  | (k, v) :: rest =>
    if key < k then (key, value) :: (k, v) :: rest
    else if key = k then (key, value) :: rest
    else (k, v) :: insertMember key value rest

/-- Members with increasing keys, the last of several members with one key. -/
def sortMembers {α : Type} (members : List (String × α)) : List (String × α) :=
  members.foldl (fun done m => insertMember m.1 m.2 done) []

/-- The member of an object with a key. -/
def get? (j : Json) (key : String) : Option Json :=
  match j with
  | .object members => (members.find? fun m => m.1 == key).map (·.2)
  | _ => none

/-- An optional document, absent as null. -/
def ofOption {α : Type} (write : α → Json) : Option α → Json
  | none => .null
  | some a => write a

def nat (n : Nat) : Json := .int n

/-- Text of a document that is a text. -/
def string? : Json → Option String
  | .string s => some s
  | _ => none

mutual

/-- Whether two documents have the same members in the same order. -/
def same : Json → Json → Bool
  | .null, .null => true
  | .bool a, .bool b => a == b
  | .int a, .int b => a == b
  | .float a, .float b => a == b
  | .string a, .string b => a == b
  | .array a, .array b => sameItems a b
  | .object a, .object b => sameMembers a b
  | _, _ => false

def sameItems : List Json → List Json → Bool
  | [], [] => true
  | a :: as, b :: bs => same a b && sameItems as bs
  | _, _ => false

def sameMembers : List (String × Json) → List (String × Json) → Bool
  | [], [] => true
  | (k, a) :: as, (l, b) :: bs => k == l && same a b && sameMembers as bs
  | _, _ => false

end

instance : BEq Json := ⟨same⟩

mutual

/-- How deeply a document is nested; a plain value counts as one. -/
def depth : Json → Nat
  | .array items => depthOfItems items + 1
  | .object members => depthOfMembers members + 1
  | _ => 1

/-- How deeply any of several items is nested. -/
def depthOfItems : List Json → Nat
  | [] => 0
  | j :: rest => max j.depth (depthOfItems rest)

/-- How deeply any of several members is nested. -/
def depthOfMembers : List (String × Json) → Nat
  | [] => 0
  | (_, j) :: rest => max j.depth (depthOfMembers rest)

end

/-! ## Writing -/

/-- A digit of base sixteen, in lower case. -/
def hexDigit (n : Nat) : Char :=
  if n < 10 then Char.ofNat ('0'.toNat + n) else Char.ofNat ('a'.toNat + (n - 10))

/-- A character inside a quoted text: quotes, backslashes and control characters are escaped. -/
def escapeChar (c : Char) : List Char :=
  if c = '"' then ['\\', '"']
  else if c = '\\' then ['\\', '\\']
  else if c = '\n' then ['\\', 'n']
  else if c = '\r' then ['\\', 'r']
  else if c = '\t' then ['\\', 't']
  else if c.toNat = 8 then ['\\', 'b']
  else if c.toNat = 12 then ['\\', 'f']
  else if c.toNat < 32 then
    ['\\', 'u', '0', '0', hexDigit (c.toNat / 16), hexDigit (c.toNat % 16)]
  else [c]

def quote (s : String) : String :=
  "\"" ++ String.ofList (s.toList.flatMap escapeChar) ++ "\""

mutual

/-- Writes a document without blanks. -/
def compact : Json → String
  | .null => "null"
  | .bool true => "true"
  | .bool false => "false"
  | .int n => toString n
  | .float x => Decimal.document.write x
  | .string s => quote s
  | .array items => "[" ++ compactItems "" items ++ "]"
  | .object members => "\x7b" ++ compactMembers "" members ++ "\x7d"

/-- Writes items with commas between them; `lead` stands before the first. -/
def compactItems (lead : String) : List Json → String
  | [] => ""
  | j :: rest => lead ++ compact j ++ compactItems "," rest

/-- Writes members with commas between them; `lead` stands before the first. -/
def compactMembers (lead : String) : List (String × Json) → String
  | [] => ""
  | (k, j) :: rest => lead ++ quote k ++ ":" ++ compact j ++ compactMembers "," rest

end

/-- The start of a line at a level of nesting. -/
def newLine (level : Nat) : String :=
  String.ofList ('\n' :: List.replicate (2 * level) ' ')

mutual

/-- Writes a document over several lines, from a level of nesting. -/
def prettyFrom (level : Nat) : Json → String
  | .null => "null"
  | .bool true => "true"
  | .bool false => "false"
  | .int n => toString n
  | .float x => Decimal.document.write x
  | .string s => quote s
  | .array [] => "[]"
  | .array (j :: rest) =>
    "[" ++ newLine (level + 1) ++ prettyFrom (level + 1) j ++ prettyItems (level + 1) rest ++
      newLine level ++ "]"
  | .object [] => "\x7b\x7d"
  | .object ((k, j) :: rest) =>
    "\x7b" ++ newLine (level + 1) ++ quote k ++ ": " ++ prettyFrom (level + 1) j ++
      prettyMembers (level + 1) rest ++ newLine level ++ "\x7d"

def prettyItems (level : Nat) : List Json → String
  | [] => ""
  | j :: rest => "," ++ newLine level ++ prettyFrom level j ++ prettyItems level rest

def prettyMembers (level : Nat) : List (String × Json) → String
  | [] => ""
  | (k, j) :: rest =>
    "," ++ newLine level ++ quote k ++ ": " ++ prettyFrom level j ++ prettyMembers level rest

end

def pretty (j : Json) : String := prettyFrom 0 j

end Json
end Specimen
