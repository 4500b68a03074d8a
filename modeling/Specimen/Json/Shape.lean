import Specimen.Json.Basic

/-!
# Shapes of documents

A shape says which documents are allowed: of which kind they are, what their members and items look
like, and which members have to be present.  Shapes can refer to named definitions.

A shape is used in two ways.  `Shape.violations` lists everything in a document that departs from it,
following the document depth first and objects in the order of their keys; a place in a document is told
by a pointer, the keys and positions on the way to it.  `Contract.toJson` writes a shape with its
definitions in the notation of JSON Schema.
-/

namespace Specimen
namespace Json

/-! ## Pointers -/

/-- A key as it stands in a pointer: `~` and `/` are written `~0` and `~1`. -/
def pointerSegment (key : String) : String :=
  String.ofList <| key.toList.flatMap fun c =>
    if c = '~' then ['~', '0'] else if c = '/' then ['~', '1'] else [c]

/-- The pointer to a place; the whole document is `/`. -/
def pointer : List String → String
  | [] => "/"
  | segments => String.join (segments.map fun s => "/" ++ pointerSegment s)

/-! ## Shapes -/

/-- A plain value: a text, a truth value, or an integer of a named format. -/
inductive Scalar where
  | text
  | flag
  | integer (format : String) (unsigned : Bool)

/-- What is said about a member of an object besides its shape. -/
structure Note where
  description : Option String := none
  default : Option Json := none

/-- Which documents are allowed. -/
inductive Shape where
  | any
  | never
  | scalar (kind : Scalar) (nullable : Bool)
  | list (items : Shape)
  /-- Objects whose members all have one shape. -/
  | map (values : Shape)
  /-- Objects with known members, some of them required; an open one is meant to have others too. -/
  | record (members : List (String × Note × Shape)) (required : List String) (isOpen : Bool)
  | named (definition : String)

/-- Shapes by name, each with its description. -/
abbrev Definitions := List (String × String × Shape)

/-- A departure of a document from a shape. -/
inductive Mismatch where
  | wrongKind (found : Json) (expected : List String)
  | negative (found : Json)
  | missing (key : String)
  | forbidden (found : Json)

def Mismatch.message : Mismatch → String
  | .wrongKind found [kind] => found.compact ++ " is not of type \"" ++ kind ++ "\""
  | .wrongKind found kinds =>
    found.compact ++ " is not of types " ++ ", ".intercalate (kinds.map fun k => "\"" ++ k ++ "\"")
  | .negative found => found.compact ++ " is less than the minimum of 0.0"
  | .missing key => (Json.string key).compact ++ " is a required property"
  | .forbidden found => "False schema does not allow " ++ found.compact

/-- A departure and the place of it. -/
structure Violation where
  place : List String
  mismatch : Mismatch

namespace Scalar

/-- The name of a kind of plain value. -/
def name : Scalar → String
  | .text => "string"
  | .flag => "boolean"
  | .integer .. => "integer"

/-- Whether a document is a plain value of a kind; a number without a fraction counts as an integer. -/
def matches? : Scalar → Json → Bool
  | .text, .string _ => true
  | .flag, .bool _ => true
  | .integer .., .int _ => true
  | .integer .., .float x => x.floor == x && x.isFinite
  | _, _ => false

/-- The names of the kinds that are allowed, in alphabetical order. -/
def kinds (kind : Scalar) (nullable : Bool) : List String :=
  if !nullable then [kind.name]
  else match kind with
    | .text => ["null", "string"]
    | other => [other.name, "null"]

/-- Whether a document is a number below zero. -/
def isNegative : Json → Bool
  | .int n => decide (n < 0)
  | .float x => decide (x < 0.0)
  | _ => false

/-- The departures of a document from a plain value. -/
def mismatches (kind : Scalar) (nullable : Bool) (j : Json) : List Mismatch :=
  (match kind with
    | .integer _ true => if isNegative j then [.negative j] else []
    | _ => []) ++
  if kind.matches? j then []
  else match nullable, j with
    | true, .null => []
    | _, j => [.wrongKind j (kind.kinds nullable)]

end Scalar

namespace Shape

def resolve (definitions : Definitions) : Shape → Shape
  | .named n =>
    match definitions.find? fun d => d.1 == n with
    | some (_, _, shape) => shape
    | none => .any
  | shape => shape

/-- The shape of the items of an array. -/
def itemShape : Shape → Shape
  | .list items => items
  | _ => .any

/-- The shape of the member with a key. -/
def memberShape (key : String) : Shape → Shape
  | .map values => values
  | .record members _ _ =>
    match members.find? fun m => m.1 == key with
    | some (_, _, shape) => shape
    | none => .any
  | _ => .any

/-- The departures of a document as a whole, those of its parts aside. -/
def ownMismatches (shape : Shape) (j : Json) : List Mismatch :=
  match shape with
  | .any => []
  | .named _ => []
  | .never => [.forbidden j]
  | .scalar kind nullable => kind.mismatches nullable j
  | .list _ =>
    match j with
    | .array _ => []
    | _ => [.wrongKind j ["array"]]
  | .map _ =>
    match j with
    | .object _ => []
    | _ => [.wrongKind j ["object"]]
  | .record _ required _ =>
    match j with
    | .object members =>
      (required.filter fun key => !(members.any fun m => m.1 == key)).map .missing
    | _ => [.wrongKind j ["object"]]

mutual

/-- All departures of a document at a place from a shape. -/
def violations (definitions : Definitions) (shape : Shape) (place : List String) :
    Json → List Violation
  | .array items =>
    violationsOfItems definitions (shape.resolve definitions).itemShape place 0 items ++
      ((shape.resolve definitions).ownMismatches (.array items)).map (.mk place)
  | .object members =>
    violationsOfMembers definitions (shape.resolve definitions) place members ++
      ((shape.resolve definitions).ownMismatches (.object members)).map (.mk place)
  | .null => ((shape.resolve definitions).ownMismatches .null).map (.mk place)
  | .bool b => ((shape.resolve definitions).ownMismatches (.bool b)).map (.mk place)
  | .int n => ((shape.resolve definitions).ownMismatches (.int n)).map (.mk place)
  | .float x => ((shape.resolve definitions).ownMismatches (.float x)).map (.mk place)
  | .string s => ((shape.resolve definitions).ownMismatches (.string s)).map (.mk place)

/-- The departures of the items of an array, the first of which has a position. -/
def violationsOfItems (definitions : Definitions) (shape : Shape) (place : List String)
    (position : Nat) : List Json → List Violation
  | [] => []
  | j :: rest =>
    violations definitions shape (place ++ [toString position]) j ++
      violationsOfItems definitions shape place (position + 1) rest

/-- The departures of the members of an object of a shape. -/
def violationsOfMembers (definitions : Definitions) (shape : Shape) (place : List String) :
    List (String × Json) → List Violation
  | [] => []
  | (key, j) :: rest =>
    violations definitions (shape.memberShape key) (place ++ [key]) j ++
      violationsOfMembers definitions shape place rest

end

def reference (definition : String) : Json :=
  .object [("$ref", .string ("#/definitions/" ++ definition))]

def noteMembers (note : Note) : List (String × Json) :=
  (match note.description with
    | some text => [("description", Json.string text)]
    | none => []) ++
  match note.default with
  | some j => [("default", j)]
  | none => []

/-- The members by which a plain value is written. -/
def scalarMembers (kind : Scalar) (nullable : Bool) : List (String × Json) :=
  (match kind with
    | .integer format unsigned =>
      ("format", Json.string format) :: if unsigned then [("minimum", .float 0.0)] else []
    | _ => []) ++
  [("type", if nullable then .array [.string kind.name, .string "null"] else .string kind.name)]

mutual

/-- A shape in the notation of JSON Schema. -/
def write (note : Note) : Shape → Json
  | .any => .bool true
  | .never => .bool false
  | .scalar kind nullable => .object (sortMembers (noteMembers note ++ scalarMembers kind nullable))
  | .list items =>
    .object (sortMembers (noteMembers note ++ [("items", items.write {}), ("type", .string "array")]))
  | .map values =>
    .object (sortMembers (noteMembers note ++
      [("additionalProperties", values.write {}), ("type", .string "object")]))
  | .record members required isOpen =>
    .object (sortMembers (noteMembers note ++
      (if isOpen then [("additionalProperties", .bool true)] else []) ++
      [("properties", .object (sortMembers (writeMembers members)))] ++
      (if required.isEmpty then [] else [("required", .array (required.map .string))]) ++
      [("type", .string "object")]))
  | .named definition =>
    match noteMembers note with
    | [] => reference definition
    | extra => .object (sortMembers (extra ++ [("allOf", .array [reference definition])]))

/-- The members of a record in the notation of JSON Schema. -/
def writeMembers : List (String × Note × Shape) → List (String × Json)
  | [] => []
  | (key, note, shape) :: rest => (key, shape.write note) :: writeMembers rest

end

/-- Reads the shapes that allow everything and nothing. -/
def ofJson? : Json → Option Shape
  | .bool true => some .any
  | .bool false => some .never
  | .object [] => some .any
  | _ => none

end Shape

/-- A titled shape with its definitions. -/
structure Contract where
  title : String
  description : String
  definitions : Definitions
  shape : Shape

namespace Contract

/-- A contract in the notation of JSON Schema. -/
def toJson (c : Contract) : Json :=
  let definitions := c.definitions.map fun d =>
    (d.1, d.2.2.write { description := some d.2.1 })
  match c.shape.write { description := some c.description } with
  | .object members =>
    .object <| sortMembers <| members ++ [
      ("$schema", .string "http://json-schema.org/draft-07/schema#"),
      ("definitions", .object (sortMembers definitions)), ("title", .string c.title)]
  | other => other

/-- Everything in a document that departs from a contract. -/
def violations (c : Contract) (j : Json) : List Violation :=
  c.shape.violations c.definitions [] j

end Contract
end Json
end Specimen
