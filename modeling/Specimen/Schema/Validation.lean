import Specimen.Schema.Resolution

/-!
# Valid schemas

A schema is checked before anything is generated from it: names are there and unique, occurrence bounds
are in order, every element has exactly one type, and every reference leads somewhere.  The first
fault in document order is reported: named types first, then global elements with all they contain,
then the attributes and members of the named types.
-/

namespace Specimen
namespace Schema

/-- Checks the names of the types and that none is both simple and complex; `seen` holds the names of
earlier types. -/
def checkTypes (seen : List String) : List TypeDefinition → Except SchemaError Unit
  | [] => .ok ()
  | t :: rest =>
    if Text.isAllBlank t.name then .error .unnamedType
    else if t.name ∈ seen then .error (.duplicateType t.name)
    else if t.simpleType.isSome && t.content.isSome then .error (.mixedType t.name)
    else checkTypes (t.name :: seen) rest

def checkAttributeType (schema : Schema) (path : String) (a : AttributeDecl) :
    Except SchemaError Unit :=
  match a.typeRef with
  | none => .ok ()
  | some ref =>
    match Primitive.ofTypeName? ref with
    | some _ => .ok ()
    | none =>
      match schema.type? ref with
      | none => .error (.unknownAttributeType a.name path ref)
      | some t =>
        if t.simpleType.isSome then .ok () else .error (.complexAttributeType a.name path ref)

/-- Checks the attributes declared in one place; `seen` holds the names of earlier ones. -/
def checkAttributes (schema : Schema) (path : String) (seen : List String) :
    List AttributeDecl → Except SchemaError Unit
  | [] => .ok ()
  | a :: rest =>
    if a.name ∈ seen then .error (.duplicateAttribute a.name path)
    else do
      checkAttributeType schema path a
      checkAttributes schema path (a.name :: seen) rest

/-- The upper bound that a lower bound exceeds, if it does. -/
def exceeded? (low : Nat) (high : MaxOccurs) : Option Nat :=
  high.limit?.filter fun limit => limit < low

/-- Checks what an element declares apart from the members of its anonymous type. -/
def checkDecl (schema : Schema) (path : String) (e : Element) : Except SchemaError Unit := do
  if Text.isAllBlank e.name then throw (.unnamedElement path)
  if let some high := exceeded? e.minOccurs e.maxOccurs then
    throw (.elementOccurs path e.minOccurs high)
  if e.decl.simpleType.isSome && e.content.isSome then throw (.mixedElement path)
  if (e.decl.simpleType.isSome || e.content.isSome) && (typeRef? e.decl).isSome then
    throw (.doublyTyped path)
  discard <| schema.resolveType e
  checkAttributes schema path [] e.decl.attributes

mutual

def checkElement (schema : Schema) (path : String) : Element → Except SchemaError Unit
  | .mk decl none => checkDecl schema path (.mk decl none)
  | .mk decl (some g) => do
    checkDecl schema path (.mk decl (some g))
    checkGroup schema path g

def checkGroup (schema : Schema) (path : String) : Group → Except SchemaError Unit
  | .mk decl members =>
    match exceeded? decl.minOccurs.toNat decl.maxOccurs with
    | some high => .error (.groupOccurs path decl.minOccurs.toNat high)
    | none => checkMembers schema path members

/-- Checks the members of a group one after the other. -/
def checkMembers (schema : Schema) (path : String) : List Particle → Except SchemaError Unit
  | [] => .ok ()
  | .element e :: rest => do
    checkElement schema (path ++ "/" ++ e.name) e
    checkMembers schema path rest
  | .group g :: rest => do
    checkGroup schema path g
    checkMembers schema path rest

end

/-- Checks the global elements; `seen` holds the names of earlier ones. -/
def checkElements (schema : Schema) (seen : List String) : List Element → Except SchemaError Unit
  | [] => .ok ()
  | e :: rest =>
    if e.name ∈ seen then .error (.duplicateElement e.name)
    else do
      checkElement schema e.name e
      checkElements schema (e.name :: seen) rest

/-- Checks the attributes and the content of a named type. -/
def checkDefinition (schema : Schema) (t : TypeDefinition) : Except SchemaError Unit := do
  checkAttributes schema t.name [] t.attributes
  match t.content with
  | some g => checkGroup schema t.name g
  | none => return ()

def validate (schema : Schema) : Except SchemaError Unit := do
  checkTypes [] schema.types
  checkElements schema [] schema.elements
  schema.types.forM (checkDefinition schema)

end Schema
end Specimen
