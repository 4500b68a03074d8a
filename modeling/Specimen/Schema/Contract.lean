import Specimen.Json.Shape
import Specimen.Schema.Primitive

/-!
# The contract of schemas

The form of schema documents in the notation of JSON Schema.  Forms have alternatives here, unlike those
of configurations, so they are written directly.
-/

namespace Specimen
namespace Schema
namespace Contract

def adding (key : String) (value : Json) : Json → Json
  | .object members => .object (Json.sortMembers ((key, value) :: members))
  | j => j

def remarked (text : String) (form : Json) : Json := adding "description" (.string text) form

def defaulting (value : Json) (form : Json) : Json := adding "default" value form

def kind (name : String) : Json := .object [("type", .string name)]

/-- Documents of a kind, or null. -/
def kindOrNull (name : String) : Json :=
  .object [("type", .array [.string name, .string "null"])]

def text : Json := kind "string"

def optionalText : Json := kindOrNull "string"

/-- A natural number of 32 bits, from its kind. -/
def bounded (form : Json) : Json :=
  adding "format" (.string "uint32") (adding "minimum" (.float 0.0) form)

def count : Json := bounded (kind "integer")

def optionalCount : Json := bounded (kindOrNull "integer")

/-- A truth value that is false unless it is given. -/
def flag : Json := defaulting (.bool false) (kind "boolean")

def oneOfTexts (names : List String) : Json := adding "enum" (.array (names.map .string)) text

def list (items : Json) : Json := adding "items" items (kind "array")

def named (name : String) : Json := Json.Shape.reference name

/-- A form by its name, or null. -/
def namedOrNull (name : String) : Json := .object [("anyOf", .array [named name, kind "null"])]

/-- Objects with known members, some of them required. -/
def record (members : List (String × Json)) (required : List String) : Json :=
  adding "properties" (.object (Json.sortMembers members)) <|
    adding "required" (.array (required.map .string)) (kind "object")

def occurrenceMembers : List (String × Json) := [
  ("max_occurs", defaulting (.nat 1) (.object [("allOf", .array [named "MaxOccurs"])])),
  ("min_occurs", defaulting (.nat 1) count)]

def attributeMembers : List (String × Json) := [
  ("default", optionalText), ("fixed", optionalText), ("name", text), ("namespace", optionalText),
  ("required", flag), ("simple_type", namedOrNull "SimpleTypeFacets"),
  ("type_ref",
    remarked "Named simple type or built-in; absent means \x60xs:string\x60." optionalText)]

def elementMembers : List (String × Json) := occurrenceMembers ++ [
  ("attributes", list (named "AttributeDecl")),
  ("content", remarked "Anonymous complex type content." (namedOrNull "ContentModelGroup")),
  ("default", optionalText), ("fixed", optionalText), ("name", text), ("namespace", optionalText),
  ("nillable", flag),
  ("simple_type", remarked "Anonymous simple type." (namedOrNull "SimpleTypeFacets")),
  ("type_ref", remarked "Named type or built-in (\x60xs:string\x60, ...)." optionalText)]

def groupMembers : List (String × Json) := occurrenceMembers ++ [
  ("kind", named "GroupKind"),
  ("members",
    remarked "Ordered members (element declarations or nested groups)."
      (defaulting (.array []) (list (named "Particle"))))]

def facetMembers : List (String × Json) := [
  ("base", named "PrimitiveType"), ("enumeration", list text), ("fraction_digits", optionalCount),
  ("length", optionalCount), ("max_exclusive", optionalText), ("max_inclusive", optionalText),
  ("max_length", optionalCount), ("min_exclusive", optionalText),
  ("min_inclusive",
    remarked "Numeric or temporal bounds, kept in lexical form." optionalText),
  ("min_length", optionalCount), ("pattern", optionalText), ("total_digits", optionalCount)]

def typeMembers : List (String × Json) := [
  ("attributes", list (named "AttributeDecl")), ("content", namedOrNull "ContentModelGroup"),
  ("name", text), ("simple_type", namedOrNull "SimpleTypeFacets")]

/-- The members of a form, and one that tells it apart from others. -/
def tagged (tag : String) (members : List (String × Json)) : List (String × Json) :=
  ("particle", oneOfTexts [tag]) :: members

def elementRemark : String := "Element declaration."

def groupRemark : String :=
  "Group structure governing child ordering/selection for a complex type."

def definitions : List (String × Json) := [
  ("AttributeDecl", remarked "Attribute declaration." (record attributeMembers ["name"])),
  ("ContentModelGroup", remarked groupRemark (record groupMembers ["kind"])),
  ("GroupKind",
    remarked "Compositor of a content model group." (oneOfTexts ["sequence", "choice", "all"])),
  ("MaxOccurs",
    remarked "Upper occurrence bound; serialized as a number or the \x60\"unbounded\"\x60 keyword."
      (.object [("anyOf", .array [count, named "UnboundedKeyword"])])),
  ("Particle",
    remarked "Member of a content model group." <| .object [("oneOf", .array [
      remarked elementRemark (record (tagged "element" elementMembers) ["name", "particle"]),
      remarked groupRemark (record (tagged "group" groupMembers) ["kind", "particle"])])]),
  ("PrimitiveType",
    remarked "Built-in XSD primitive (or derived built-in) a simple type restricts."
      (oneOfTexts (Primitive.all.map (·.xsdName)))),
  ("SchemaNode", remarked elementRemark (record elementMembers ["name"])),
  ("SimpleTypeFacets",
    remarked "XSD constraints on a simple type." (record facetMembers ["base"])),
  ("TypeDefinition",
    remarked "Named type definition. Exactly one of \x60simple_type\x60/\x60content\x60 may be set; neither means an empty complex type."
      (record typeMembers ["name"])),
  ("UnboundedKeyword", remarked "The literal \x60\"unbounded\"\x60." (oneOfTexts ["unbounded"]))]

def schemaMembers : List (String × Json) := [
  ("elements",
    remarked "Global element declarations; candidates for the document root."
      (list (named "SchemaNode"))),
  ("schema_version", remarked "Contract version for this model format." text),
  ("target_namespace",
    remarked "Target namespace of the schema, when declared." optionalText),
  ("types",
    remarked "Named type definitions referenced by \x60type_ref\x60."
      (defaulting (.array []) (list (named "TypeDefinition"))))]

end Contract

def contract : Json :=
  Contract.adding "$schema" (.string "http://json-schema.org/draft-07/schema#") <|
    Contract.adding "definitions" (.object Contract.definitions) <|
    Contract.adding "title" (.string "SchemaModel") <|
    Contract.remarked "Navigable schema model produced by the external XSD parser." <|
    Contract.record Contract.schemaMembers ["elements", "schema_version"]

end Schema
end Specimen
