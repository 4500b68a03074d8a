import Specimen.Schema.Basic
import Specimen.Text.Property

/-!
# The type of an element

Following a type reference: an element has an anonymous type, a built-in type, or the named type that
it refers to.  Attributes of the element come before those of its named type.

`SchemaError` lists what can be wrong with a schema.
-/

namespace Specimen

/-- What is wrong with a schema. -/
inductive SchemaError where
  | untyped (element : String)
  | unknownType (element type : String)
  | mixedType (type : String)
  | unknownSimpleType (name type : String)
  | unnamedType
  | duplicateType (name : String)
  | duplicateElement (name : String)
  | unnamedElement (path : String)
  | elementOccurs (path : String) (low high : Nat)
  | mixedElement (path : String)
  | doublyTyped (path : String)
  | groupOccurs (path : String) (low high : Nat)
  | duplicateAttribute (name path : String)
  | unknownAttributeType (name path type : String)
  | complexAttributeType (name path type : String)
  deriving DecidableEq, Repr, Inhabited

namespace SchemaError

/-- What an error says, without the kind of error. -/
def detail : SchemaError → String
  | .untyped element => "element '" ++ element ++ "' has no type reference or inline type"
  | .unknownType element type => "element '" ++ element ++ "' references unknown type '" ++ type ++ "'"
  | .mixedType type => "type '" ++ type ++ "' declares both simple and complex content"
  | .unknownSimpleType name type =>
    "attribute '" ++ name ++ "' references unknown simple type '" ++ type ++ "'"
  | .unnamedType => "type with empty name"
  | .duplicateType name => "duplicate type name: " ++ name
  | .duplicateElement name => "duplicate global element: " ++ name
  | .unnamedElement path => "element with empty name under '" ++ path ++ "'"
  | .elementOccurs path low high =>
    "element '" ++ path ++ "' has minOccurs " ++ toString low ++ " greater than maxOccurs " ++
      toString high
  | .mixedElement path => "element '" ++ path ++ "' declares both simple and complex inline types"
  | .doublyTyped path =>
    "element '" ++ path ++ "' declares both a type reference and an inline type"
  | .groupOccurs path low high =>
    "group under '" ++ path ++ "' has minOccurs " ++ toString low ++ " greater than maxOccurs " ++
      toString high
  | .duplicateAttribute name path => "duplicate attribute '" ++ name ++ "' on '" ++ path ++ "'"
  | .unknownAttributeType name path type =>
    "attribute '" ++ name ++ "' on '" ++ path ++ "' references unknown type '" ++ type ++ "'"
  | .complexAttributeType name path type =>
    "attribute '" ++ name ++ "' on '" ++ path ++ "' references complex type '" ++ type ++ "'"

/-- Whether an error is a construct that is legal but not supported. -/
def isUnsupported : SchemaError → Bool
  | .complexAttributeType .. => true
  | _ => false

def message (e : SchemaError) : String :=
  (if e.isUnsupported then "unsupported: " else "invalid schema: ") ++ e.detail

end SchemaError

/-- The content of an element. -/
inductive TypeContent where
  | builtin (primitive : Primitive)
  | simple (facets : Facets)
  | complex (group : Group)
  | empty

namespace TypeContent

/-- The simple type of the text of an element; an element with members or without content has none. -/
def facets? : TypeContent → Option Facets
  | .builtin p => some (Facets.ofBase p)
  | .simple f => some f
  | .complex _ => none
  | .empty => none

end TypeContent

/-- The type of an element after its reference was followed. -/
structure ResolvedType where
  /-- The name of the type; anonymous and built-in types have none. -/
  identity : Option String
  content : TypeContent
  attributes : List AttributeDecl

namespace Schema

/-- The reference of an element to a type, unless it is blank. -/
def typeRef? (decl : ElementDecl) : Option String :=
  decl.typeRef.filter fun ref => !Text.isAllBlank ref

def resolveType (schema : Schema) (e : Element) : Except SchemaError ResolvedType :=
  match e.decl.simpleType, e.content with
  | some f, _ => .ok ⟨none, .simple f, e.decl.attributes⟩
  | none, some g => .ok ⟨none, .complex g, e.decl.attributes⟩
  | none, none =>
    match typeRef? e.decl with
    | none => .error (.untyped e.name)
    | some ref =>
      match Primitive.ofTypeName? ref with
      | some p => .ok ⟨none, .builtin p, e.decl.attributes⟩
      | none =>
        match schema.type? ref with
        | none => .error (.unknownType e.name ref)
        | some t =>
          let attributes := e.decl.attributes ++ t.attributes
          match t.simpleType, t.content with
          | some f, none => .ok ⟨some t.name, .simple f, attributes⟩
          | none, some g => .ok ⟨some t.name, .complex g, attributes⟩
          | none, none => .ok ⟨some t.name, .empty, attributes⟩
          | some _, some _ => .error (.mixedType t.name)

/-- The simple type of an attribute; a string when nothing is said. -/
def resolveAttribute (schema : Schema) (a : AttributeDecl) : Except SchemaError Facets :=
  match a.simpleType with
  | some f => .ok f
  | none =>
    match a.typeRef with
    | none => .ok (Facets.ofBase .string)
    | some ref =>
      match Primitive.ofTypeName? ref with
      | some p => .ok (Facets.ofBase p)
      | none =>
        match (schema.type? ref).bind (·.simpleType) with
        | some f => .ok f
        | none => .error (.unknownSimpleType a.name ref)

end Schema
end Specimen
