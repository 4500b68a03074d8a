import Specimen.Json.Decode
import Specimen.Schema.Basic

/-!
# Schemas as documents

The document form of schemas: keys, defaults, which members may be left out, and how bounds and kinds
are spelled.  Writing leaves out what is absent and reading puts it back.

Groups contain elements and elements contain groups, so the readers of this file follow the document
down and stop at its depth (`Json.depth`), which no schema inside it exceeds.
-/

namespace Specimen

open Json

/-- Reads a natural number into a word of 32 bits. -/
def readWord32 (j : Json) : Decoded UInt32 :=
  (readNat32 j).map UInt32.ofNat

def writeWord32 (n : UInt32) : Json := .nat n.toNat

namespace Primitive

def read (source : Source) (j : Json) : Decoded Primitive :=
  (readVariant source (all.map xsdName) j).map fun name => (ofName? name).getD .string

end Primitive

namespace Facets

def record (source : Source) : Record Facets where
  name := "SimpleTypeFacets"
  blank := ofBase .string
  fields := [
    .needed "base" (Primitive.read source) fun v f => { f with base := v },
    .optional "pattern" (readOption readString) fun v f => { f with pattern := v },
    .optional "enumeration" (readList readString) fun v f => { f with enumeration := v },
    .optional "length" (readOption readWord32) fun v f => { f with length := v },
    .optional "min_length" (readOption readWord32) fun v f => { f with minLength := v },
    .optional "max_length" (readOption readWord32) fun v f => { f with maxLength := v },
    .optional "min_inclusive" (readOption readString) fun v f => { f with minInclusive := v },
    .optional "max_inclusive" (readOption readString) fun v f => { f with maxInclusive := v },
    .optional "min_exclusive" (readOption readString) fun v f => { f with minExclusive := v },
    .optional "max_exclusive" (readOption readString) fun v f => { f with maxExclusive := v },
    .optional "total_digits" (readOption readWord32) fun v f => { f with totalDigits := v },
    .optional "fraction_digits" (readOption readWord32) fun v f => { f with fractionDigits := v }]

def read (source : Source) (j : Json) : Decoded Facets := (record source).read source j

def toJson (f : Facets) : Json :=
  .object <|
    [("base", .string f.base.xsdName)] ++
    memberIfSome "pattern" .string f.pattern ++
    memberIfAny "enumeration" .string f.enumeration ++
    memberIfSome "length" writeWord32 f.length ++
    memberIfSome "min_length" writeWord32 f.minLength ++
    memberIfSome "max_length" writeWord32 f.maxLength ++
    memberIfSome "min_inclusive" .string f.minInclusive ++
    memberIfSome "max_inclusive" .string f.maxInclusive ++
    memberIfSome "min_exclusive" .string f.minExclusive ++
    memberIfSome "max_exclusive" .string f.maxExclusive ++
    memberIfSome "total_digits" writeWord32 f.totalDigits ++
    memberIfSome "fraction_digits" writeWord32 f.fractionDigits

end Facets

namespace MaxOccurs

/-- Reads an upper bound: a number or the word `unbounded`. -/
def read (j : Json) : Decoded MaxOccurs :=
  match readWord32 j with
  | .ok n => .ok (.bounded n)
  | .error _ =>
    match readVariant .direct ["unbounded"] j with
    | .ok _ => .ok .unbounded
    | .error _ => .error (.noVariant "MaxOccurs")

def toJson : MaxOccurs → Json
  | .bounded n => writeWord32 n
  | .unbounded => .string "unbounded"

end MaxOccurs

namespace GroupKind

def name : GroupKind → String
  | .sequence => "sequence"
  | .choice => "choice"
  | .all => "all"

def read (source : Source) (j : Json) : Decoded GroupKind :=
  (readVariant source ["sequence", "choice", "all"] j).map fun word =>
    if word = "sequence" then .sequence else if word = "choice" then .choice else .all

end GroupKind

namespace AttributeDecl

def record (source : Source) : Record AttributeDecl where
  name := "AttributeDecl"
  blank := { name := "" }
  fields := [
    .needed "name" readString fun v a => { a with name := v },
    .optional "namespace" (readOption readString) fun v a => { a with uri := v },
    .optional "type_ref" (readOption readString) fun v a => { a with typeRef := v },
    .optional "simple_type" (readOption (Facets.read source)) fun v a => { a with simpleType := v },
    .optional "required" readBool fun v a => { a with required := v },
    .optional "fixed" (readOption readString) fun v a => { a with fixed := v },
    .optional "default" (readOption readString) fun v a => { a with default := v }]

def read (source : Source) (j : Json) : Decoded AttributeDecl := (record source).read source j

def toJson (a : AttributeDecl) : Json :=
  .object <|
    [("name", .string a.name)] ++
    memberIfSome "namespace" .string a.uri ++
    memberIfSome "type_ref" .string a.typeRef ++
    memberIfSome "simple_type" Facets.toJson a.simpleType ++
    [("required", .bool a.required)] ++
    memberIfSome "fixed" .string a.fixed ++
    memberIfSome "default" .string a.default

end AttributeDecl

/-- Puts a value into the declaration of an element that is being read. -/
def putDecl {β : Type} (put : β → ElementDecl → ElementDecl) (v : β)
    (e : ElementDecl × Option Group) : ElementDecl × Option Group :=
  (put v e.1, e.2)

/-- The document form of an element; `readContent` reads the content of an anonymous type. -/
def Element.record (source : Source) (readContent : Json → Decoded Group) :
    Record (ElementDecl × Option Group) where
  name := "SchemaNode"
  blank := ({ name := "" }, none)
  fields := [
    .needed "name" readString <| putDecl fun v e => { e with name := v },
    .optional "namespace" (readOption readString) <| putDecl fun v e => { e with uri := v },
    .optional "type_ref" (readOption readString) <| putDecl fun v e => { e with typeRef := v },
    .optional "min_occurs" readWord32 <| putDecl fun v e => { e with minOccurs := v },
    .optional "max_occurs" MaxOccurs.read <| putDecl fun v e => { e with maxOccurs := v },
    .optional "nillable" readBool <| putDecl fun v e => { e with nillable := v },
    .optional "simple_type" (readOption (Facets.read source)) <|
      putDecl fun v e => { e with simpleType := v },
    .optional "content" (readOption readContent) fun v e => (e.1, v),
    .optional "attributes" (readList (AttributeDecl.read source)) <|
      putDecl fun v e => { e with attributes := v },
    .optional "fixed" (readOption readString) <| putDecl fun v e => { e with fixed := v },
    .optional "default" (readOption readString) <| putDecl fun v e => { e with default := v }]

/-- The document form of a group; `readMember` reads a member. -/
def Group.record (source : Source) (readMember : Json → Decoded Particle) :
    Record (GroupDecl × List Particle) where
  name := "ContentModelGroup"
  blank := ({ kind := .sequence }, [])
  fields := [
    .needed "kind" (GroupKind.read source) fun v g => ({ g.1 with kind := v }, g.2),
    .optional "members" (readList readMember) fun v g => (g.1, v),
    .optional "min_occurs" readWord32 fun v g => ({ g.1 with minOccurs := v }, g.2),
    .optional "max_occurs" MaxOccurs.read fun v g => ({ g.1 with maxOccurs := v }, g.2)]

/-- What a member of a group is, by its tag. -/
inductive ParticleTag where
  | element
  | group
  deriving DecidableEq, Repr

/-- Reads the tag of a member of a group. -/
def ParticleTag.read (source : Source) (j : Json) : Decoded ParticleTag :=
  match source, j with
  | _, .string s =>
    (readWord ["element", "group"] s).map fun w => if w = "element" then .element else .group
  | .copied, .int n =>
    if n = 0 then .ok .element
    else if n = 1 then .ok .group
    else if 0 ≤ n then .error (.invalidValue (describe j) "variant index 0 <= i < 2")
    else wrongType j "variant identifier"
  | _, j => wrongType j "variant identifier"

/-- The tag of a member of a group, and the document without it. -/
def ParticleTag.split (source : Source) : Json → Decoded (ParticleTag × Json)
  | .object members =>
    match members.find? fun m => m.1 == "particle" with
    | some (_, j) =>
      (ParticleTag.read source j).map fun tag =>
        (tag, .object (members.filter fun m => m.1 != "particle"))
    | none => .error (.missingField "particle")
  | .array (j :: rest) => (ParticleTag.read source j).map fun tag => (tag, .array rest)
  | .array [] => .error (.missingField "particle")
  | j => wrongType j "internally tagged enum Particle"

mutual

/-- Reads an element of a document nested at most `fuel` deep. -/
def Element.readWithin (fuel : Nat) (source : Source) (j : Json) : Decoded Element :=
  match fuel with
  | 0 => wrongType j "struct SchemaNode"
  | fuel + 1 =>
    ((Element.record source (Group.readWithin fuel source)).read source j).map fun e => .mk e.1 e.2

/-- Reads a group of a document nested at most `fuel` deep. -/
def Group.readWithin (fuel : Nat) (source : Source) (j : Json) : Decoded Group :=
  match fuel with
  | 0 => wrongType j "struct ContentModelGroup"
  | fuel + 1 =>
    ((Group.record source (Particle.readWithin fuel source)).read source j).map fun g => .mk g.1 g.2

/-- Reads a member of a document nested at most `fuel` deep. -/
def Particle.readWithin (fuel : Nat) (source : Source) (j : Json) : Decoded Particle :=
  match fuel with
  | 0 => wrongType j "internally tagged enum Particle"
  | fuel + 1 =>
    match ParticleTag.split source j with
    | .error e => .error e
    | .ok (.element, body) => (Element.readWithin fuel .copied body).map .element
    | .ok (.group, body) => (Group.readWithin fuel .copied body).map .group

end

/-- The fuel that reading a document needs: a member takes two steps a level. -/
def readingFuel (j : Json) : Nat := 2 * j.depth + 2

def Element.read (j : Json) : Decoded Element := Element.readWithin (readingFuel j) .direct j

def Group.read (j : Json) : Decoded Group := Group.readWithin (readingFuel j) .direct j

mutual

/-- The members of the document of an element. -/
def Element.members : Element → List (String × Json)
  | .mk e content =>
    [("name", .string e.name)] ++
    memberIfSome "namespace" .string e.uri ++
    memberIfSome "type_ref" .string e.typeRef ++
    [("min_occurs", writeWord32 e.minOccurs), ("max_occurs", e.maxOccurs.toJson),
      ("nillable", .bool e.nillable)] ++
    memberIfSome "simple_type" Facets.toJson e.simpleType ++
    (match content with
      | none => []
      | some g => [("content", .object g.documentMembers)]) ++
    memberIfAny "attributes" AttributeDecl.toJson e.attributes ++
    memberIfSome "fixed" .string e.fixed ++
    memberIfSome "default" .string e.default

/-- The members of the document of a group. -/
def Group.documentMembers : Group → List (String × Json)
  | .mk g members =>
    [("kind", .string g.kind.name), ("members", .array (writeParticles members)),
      ("min_occurs", writeWord32 g.minOccurs), ("max_occurs", g.maxOccurs.toJson)]

/-- The documents of the members of a group. -/
def writeParticles : List Particle → List Json
  | [] => []
  | .element e :: rest =>
    .object (("particle", .string "element") :: e.members) :: writeParticles rest
  | .group g :: rest =>
    .object (("particle", .string "group") :: g.documentMembers) :: writeParticles rest

end

def Element.toJson (e : Element) : Json := .object e.members

def Group.toJson (g : Group) : Json := .object g.documentMembers

namespace TypeDefinition

def record : Record TypeDefinition where
  name := "TypeDefinition"
  blank := { name := "" }
  fields := [
    .needed "name" readString fun v t => { t with name := v },
    .optional "simple_type" (readOption (Facets.read .direct)) fun v t => { t with simpleType := v },
    .optional "content" (readOption Group.read) fun v t => { t with content := v },
    .optional "attributes" (readList (AttributeDecl.read .direct)) fun v t =>
      { t with attributes := v }]

def read (j : Json) : Decoded TypeDefinition := record.read .direct j

def toJson (t : TypeDefinition) : Json :=
  .object <|
    [("name", .string t.name)] ++
    memberIfSome "simple_type" Facets.toJson t.simpleType ++
    memberIfSome "content" Group.toJson t.content ++
    memberIfAny "attributes" AttributeDecl.toJson t.attributes

end TypeDefinition

namespace Schema

def record : Record Schema where
  name := "SchemaModel"
  blank := { version := "", elements := [] }
  fields := [
    .needed "schema_version" readString fun v s => { s with version := v },
    .optional "target_namespace" (readOption readString) fun v s => { s with targetNamespace := v },
    .needed "elements" (readList Element.read) fun v s => { s with elements := v },
    .optional "types" (readList TypeDefinition.read) fun v s => { s with types := v }]

def read (j : Json) : Decoded Schema := record.read .direct j

def toJson (s : Schema) : Json :=
  .object <|
    [("schema_version", .string s.version)] ++
    memberIfSome "target_namespace" .string s.targetNamespace ++
    [("elements", .array (s.elements.map Element.toJson)),
      ("types", .array (s.types.map TypeDefinition.toJson))]

end Schema

/-- The version of the document form that is written. -/
def Schema.documentVersion : String := "0.1"

end Specimen
