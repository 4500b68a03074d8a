import Specimen.Schema.Primitive

/-!
# Schemas

A schema declares global elements and named types.  An element has a type of its own, simple or
complex, or refers to a named or built-in type.  The content of a complex type is a group of members,
each of them an element or a group again.

Elements, groups and members are defined together.  What an element or a group says apart from its
parts is its declaration (`ElementDecl`, `GroupDecl`).
-/

namespace Specimen

/-- How the members of a group are combined. -/
inductive GroupKind where
  | sequence
  | choice
  | all
  deriving DecidableEq, Repr, Inhabited

/-- How often something may occur at most. -/
inductive MaxOccurs where
  | bounded (limit : UInt32)
  | unbounded
  deriving DecidableEq, Repr, Inhabited

namespace MaxOccurs

/-- The bound, when there is one. -/
def limit? : MaxOccurs → Option Nat
  | .bounded n => some n.toNat
  | .unbounded => none

def isRepeatable (m : MaxOccurs) : Bool :=
  match m.limit? with
  | some n => decide (1 < n)
  | none => true

def text : MaxOccurs → String
  | .bounded n => toString n.toNat
  | .unbounded => "unbounded"

/-- Whether a number of occurrences is not too large. -/
def allows (m : MaxOccurs) (n : Nat) : Bool :=
  match m.limit? with
  | some limit => decide (n ≤ limit)
  | none => true

end MaxOccurs

/-- An attribute of an element or of a type. -/
structure AttributeDecl where
  name : String
  uri : Option String := none
  /-- A named simple type or a built-in one; without it the attribute is a string. -/
  typeRef : Option String := none
  simpleType : Option Facets := none
  required : Bool := false
  fixed : Option String := none
  default : Option String := none
  deriving DecidableEq, Repr, Inhabited

/-- What an element declaration says apart from an anonymous complex type. -/
structure ElementDecl where
  name : String
  uri : Option String := none
  /-- A named type or a built-in one. -/
  typeRef : Option String := none
  minOccurs : UInt32 := 1
  maxOccurs : MaxOccurs := .bounded 1
  nillable : Bool := false
  /-- An anonymous simple type. -/
  simpleType : Option Facets := none
  attributes : List AttributeDecl := []
  fixed : Option String := none
  default : Option String := none
  deriving DecidableEq, Repr, Inhabited

/-- What a group says apart from its members. -/
structure GroupDecl where
  kind : GroupKind
  minOccurs : UInt32 := 1
  maxOccurs : MaxOccurs := .bounded 1
  deriving DecidableEq, Repr, Inhabited

mutual

/-- An element declaration, with the content of its anonymous complex type if it has one. -/
inductive Element where
  | mk (decl : ElementDecl) (content : Option Group)

/-- A group and its members in order. -/
inductive Group where
  | mk (decl : GroupDecl) (members : List Particle)

/-- A member of a group. -/
inductive Particle where
  | element (element : Element)
  | group (group : Group)

end

namespace Element

def decl : Element → ElementDecl
  | .mk d _ => d

/-- The content of the anonymous complex type of an element. -/
def content : Element → Option Group
  | .mk _ c => c

def name (e : Element) : String := e.decl.name

def minOccurs (e : Element) : Nat := e.decl.minOccurs.toNat

def maxOccurs (e : Element) : MaxOccurs := e.decl.maxOccurs

end Element

instance : Inhabited Element := ⟨.mk default none⟩

namespace Group

def decl : Group → GroupDecl
  | .mk d _ => d

def members : Group → List Particle
  | .mk _ ms => ms

def kind (g : Group) : GroupKind := g.decl.kind

/-- How often a group is repeated at least. -/
def minOccurs (g : Group) : Nat := g.decl.minOccurs.toNat

/-- How often a group is repeated at most. -/
def maxOccurs (g : Group) : MaxOccurs := g.decl.maxOccurs

end Group

instance : Inhabited Group := ⟨.mk default []⟩

namespace Particle

def minOccurs : Particle → Nat
  | .element e => e.minOccurs
  | .group g => g.minOccurs

def maxOccurs : Particle → MaxOccurs
  | .element e => e.maxOccurs
  | .group g => g.maxOccurs

end Particle

/-- A named type: simple, complex, or without content. -/
structure TypeDefinition where
  name : String
  simpleType : Option Facets := none
  content : Option Group := none
  attributes : List AttributeDecl := []
  deriving Inhabited

/-- A schema. -/
structure Schema where
  version : String
  targetNamespace : Option String := none
  /-- The global elements; each can be the root of a document. -/
  elements : List Element
  types : List TypeDefinition := []
  deriving Inhabited

namespace Schema

def type? (schema : Schema) (name : String) : Option TypeDefinition :=
  schema.types.find? fun t => t.name == name

def root? (schema : Schema) (name : String) : Option Element :=
  schema.elements.find? fun e => e.name == name

end Schema

mutual

/-- How deeply elements are nested in an element without leaving its anonymous types, itself included. -/
def Element.depth : Element → Nat
  | .mk _ none => 1
  | .mk _ (some g) => g.depth + 1

/-- How deeply elements are nested in a group. -/
def Group.depth : Group → Nat
  | .mk _ members => depthOfMembers members

/-- How deeply elements are nested in a member. -/
def Particle.depth : Particle → Nat
  | .element e => e.depth
  | .group g => g.depth

/-- How deeply elements are nested in any of several members. -/
def depthOfMembers : List Particle → Nat
  | [] => 0
  | p :: rest => max p.depth (depthOfMembers rest)

end

end Specimen
