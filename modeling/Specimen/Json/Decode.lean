import Specimen.Json.Basic
import Specimen.Text.Quoted

/-!
# Reading records from documents

Typed values are read from documents field by field.  A record is described by its fields in order;
it may be written as an object, whose members are read in the order in which they stand, or as an
array of the fields' values.  Unknown members are ignored.  A record reports the first member that
cannot be read, and a missing field only when every member could be read.

Values below a tagged choice are read from a copy of the document; a copy is a little more lenient
about units and words its complaint about surplus items differently (`Source.copied`).
-/

namespace Specimen
namespace Json

/-- Why a document could not be read. -/
inductive DecodeError where
  | missingField (name : String)
  | invalidType (found expected : String)
  | invalidValue (found expected : String)
  | invalidLength (length : Nat) (expected : String)
  | unknownVariant (found : String) (variants : List String)
  | noVariant (type : String)
  | unreadableDate (reason : String)
  deriving DecidableEq, Repr, Inhabited

/-- Names in backquotes, as a list of alternatives. -/
def alternatives : List String → String
  | [] => "there are no variants"
  | [a] => "expected \x60" ++ a ++ "\x60"
  | [a, b] => "expected \x60" ++ a ++ "\x60 or \x60" ++ b ++ "\x60"
  | many => "expected one of " ++ ", ".intercalate (many.map fun a => "\x60" ++ a ++ "\x60")

def DecodeError.message : DecodeError → String
  | .missingField name => "missing field \x60" ++ name ++ "\x60"
  | .invalidType found expected => "invalid type: " ++ found ++ ", expected " ++ expected
  | .invalidValue found expected => "invalid value: " ++ found ++ ", expected " ++ expected
  | .invalidLength length expected =>
    "invalid length " ++ toString length ++ ", expected " ++ expected
  | .unknownVariant found variants =>
    "unknown variant \x60" ++ found ++ "\x60, " ++ alternatives variants
  | .noVariant type => "data did not match any variant of untagged enum " ++ type
  | .unreadableDate reason => reason

/-- The result of reading. -/
abbrev Decoded (α : Type) := Except DecodeError α

/-- Where a document is read from: the document itself or a copy of a part. -/
inductive Source where
  | direct
  | copied
  deriving DecidableEq, Repr

/-- What a document is, as a reading error names it. -/
def describe : Json → String
  | .null => "null"
  | .bool b => "boolean \x60" ++ (if b then "true" else "false") ++ "\x60"
  | .int n => "integer \x60" ++ toString n ++ "\x60"
  | .float x => "floating point \x60" ++ Decimal.document.write x ++ "\x60"
  | .string s => "string " ++ Text.showQuoted s
  | .array _ => "sequence"
  | .object _ => "map"

def wrongType {α : Type} (j : Json) (expected : String) : Decoded α :=
  .error (.invalidType (describe j) expected)

def readString : Json → Decoded String
  | .string s => .ok s
  | j => wrongType j "a string"

def readBool : Json → Decoded Bool
  | .bool b => .ok b
  | j => wrongType j "a boolean"

/-- Reads an integer within bounds; `type` names the kind of integer. -/
def readInt (low high : Int) (type : String) : Json → Decoded Int
  | .int n =>
    if low ≤ n ∧ n ≤ high then .ok n
    else .error (.invalidValue (describe (.int n)) type)
  | j => wrongType j type

/-- Reads a natural number of at most 32 bits. -/
def readNat32 (j : Json) : Decoded Nat :=
  (readInt 0 (Nat.pow 2 32 - 1) "u32" j).map Int.toNat

/-- Reads a natural number of at most 64 bits. -/
def readNat64 (j : Json) : Decoded Nat :=
  (readInt 0 (Nat.pow 2 64 - 1) "u64" j).map Int.toNat

def readInt32 (j : Json) : Decoded Int :=
  readInt (-(Nat.pow 2 31)) (Nat.pow 2 31 - 1) "i32" j

def readOption {α : Type} (read : Json → Decoded α) : Json → Decoded (Option α)
  | .null => .ok none
  | j => (read j).map some

/-- Reads the items of a list in order, up to the first that fails. -/
def readItems {α : Type} (read : Json → Decoded α) : List Json → Decoded (List α)
  | [] => .ok []
  | j :: rest =>
    match read j with
    | .error e => .error e
    | .ok a => (readItems read rest).map (a :: ·)

def readList {α : Type} (read : Json → Decoded α) : Json → Decoded (List α)
  | .array items => readItems read items
  | j => wrongType j "a sequence"

/-- Reads the members of an object in order, up to the first that fails. -/
def readMembers {α : Type} (read : Json → Decoded α) :
    List (String × Json) → Decoded (List (String × α))
  | [] => .ok []
  | (k, j) :: rest =>
    match read j with
    | .error e => .error e
    | .ok a => (readMembers read rest).map ((k, a) :: ·)

/-- Reads an object whose members all have one type. -/
def readMap {α : Type} (read : Json → Decoded α) : Json → Decoded (List (String × α))
  | .object members => readMembers read members
  | j => wrongType j "a map"

def readWord (variants : List String) (word : String) : Decoded String :=
  if word ∈ variants then .ok word else .error (.unknownVariant word variants)

/-- Reads one of a fixed list of words, written as a text or as an object with the word as its only
key and nothing behind it. -/
def readVariant (source : Source) (variants : List String) : Json → Decoded String
  | .string s => readWord variants s
  | .object [(k, j)] =>
    match readWord variants k with
    | .error e => .error e
    | .ok word =>
      match source, j with
      | _, .null => .ok word
      | .copied, .object [] => .ok word
      | _, j => wrongType j "unit"
  | .object _ => .error (.invalidValue "map" "map with a single key")
  | j => wrongType j "string or map"

/-- One field of a record: its key, whether it has to be present, and how its value changes the record
read so far. -/
structure Field (α : Type) where
  key : String
  required : Bool
  read : Json → Decoded (α → α)

def Field.needed {α β : Type} (key : String) (read : Json → Decoded β) (put : β → α → α) : Field α :=
  ⟨key, true, fun j => (read j).map put⟩

/-- A field that keeps its default when it is absent. -/
def Field.optional {α β : Type} (key : String) (read : Json → Decoded β) (put : β → α → α) :
    Field α :=
  ⟨key, false, fun j => (read j).map put⟩

/-- How a record is written in a document; `blank` is the record before anything was read. -/
structure Record (α : Type) where
  name : String
  blank : α
  fields : List (Field α)

namespace Record

def elements (n : Nat) : String :=
  toString n ++ (if n = 1 then " element" else " elements")

/-- Reads members one after the other into a record. -/
def readMembersInto {α : Type} (fields : List (Field α)) (a : α) :
    List (String × Json) → Decoded α
  | [] => .ok a
  | (k, j) :: rest =>
    match fields.find? fun f => f.key == k with
    | none => readMembersInto fields a rest
    | some f =>
      match f.read j with
      | .error e => .error e
      | .ok put => readMembersInto fields (put a) rest

/-- Reads items one after the other into the fields of a record; `index` counts those read. -/
def readItemsInto {α : Type} (expected : String) (index : Nat) (a : α) :
    List (Field α) → List Json → Decoded α
  | [], _ => .ok a
  | f :: fields, [] =>
    if f.required then .error (.invalidLength index expected)
    else readItemsInto expected (index + 1) a fields []
  | f :: fields, j :: items =>
    match f.read j with
    | .error e => .error e
    | .ok put => readItemsInto expected (index + 1) (put a) fields items

def read {α : Type} (record : Record α) (source : Source) : Json → Decoded α
  | .object members =>
    match readMembersInto record.fields record.blank members with
    | .error e => .error e
    | .ok a =>
      match record.fields.find? fun f => f.required && !(members.any fun m => m.1 == f.key) with
      | some f => .error (.missingField f.key)
      | none => .ok a
  | .array items =>
    let count := record.fields.length
    let expected := "struct " ++ record.name ++ " with " ++ elements count
    match readItemsInto expected 0 record.blank record.fields items with
    | .error e => .error e
    | .ok a =>
      if count < items.length then
        match source with
        | .direct => .error (.invalidLength items.length "fewer elements in array")
        | .copied => .error (.invalidLength items.length (elements count ++ " in sequence"))
      else .ok a
  | j => wrongType j ("struct " ++ record.name)

end Record

/-- A member that is written only when it has a value. -/
def memberIfSome {α : Type} (key : String) (write : α → Json) : Option α → List (String × Json)
  | none => []
  | some a => [(key, write a)]

/-- A member that is written only when its list has items. -/
def memberIfAny {α : Type} (key : String) (write : α → Json) : List α → List (String × Json)
  | [] => []
  | items => [(key, .array (items.map write))]

end Json
end Specimen
