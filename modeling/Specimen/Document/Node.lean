import Specimen.Json.Decode
import Specimen.Text.Split

/-!
# Generated documents

A document is a tree of elements.  An element has attributes and either a text or children, which are
elements and comments in order.  An element can be marked as nil, and as truncated when something is
missing from it.
-/

namespace Specimen

/-- An attribute of a generated element. -/
structure Attribute where
  name : String
  uri : Option String := none
  value : String
  deriving DecidableEq, Repr, Inhabited

/-- A generated element without its children. -/
structure NodeHead where
  name : String
  uri : Option String := none
  attributes : List Attribute := []
  text : Option String := none
  nil : Bool := false
  truncated : Bool := false
  deriving DecidableEq, Repr, Inhabited

mutual

/-- A generated element. -/
inductive Node where
  | mk (head : NodeHead) (children : List NodeChild)

/-- A child of a generated element. -/
inductive NodeChild where
  | element (node : Node)
  | comment (text : String)

end

instance : Inhabited Node := ⟨.mk default []⟩

namespace NodeChild

def element? : NodeChild → Option Node
  | .element n => some n
  | .comment _ => none

/-- The text of the comment that a child is. -/
def comment? : NodeChild → Option String
  | .element _ => none
  | .comment text => some text

end NodeChild

namespace Node

/-- An element without its children. -/
def head : Node → NodeHead
  | .mk h _ => h

def children : Node → List NodeChild
  | .mk _ cs => cs

def name (n : Node) : String := n.head.name

def elements (n : Node) : List Node := n.children.filterMap NodeChild.element?

/-- The texts of the children that are comments. -/
def comments (n : Node) : List String := n.children.filterMap NodeChild.comment?

def childrenNamed (n : Node) (name : String) : List Node := n.elements.filter fun c => c.name == name

def child? (n : Node) (name : String) : Option Node := n.elements.find? fun c => c.name == name

/-- The value of the first attribute with a name. -/
def attribute? (n : Node) (name : String) : Option String :=
  (n.head.attributes.find? fun a => a.name == name).map (·.value)

mutual

/-- All elements below an element that have a name, in the order of the document. -/
def descendantsNamed (name : String) : Node → List Node
  | .mk _ children => namedAmong name children

/-- All elements among children and below them that have a name. -/
def namedAmong (name : String) : List NodeChild → List Node
  | [] => []
  | .comment _ :: rest => namedAmong name rest
  | .element n :: rest =>
    (if n.name == name then [n] else []) ++ descendantsNamed name n ++ namedAmong name rest

end

/-- Follows the names of children, each time to the first one. -/
def follow? (n : Node) : List String → Option Node
  | [] => some n
  | name :: rest => (n.child? name).bind fun c => follow? c rest

/-- The element at a path of names separated by slashes. -/
def find? (n : Node) (path : String) : Option Node := n.follow? (Text.partsBetween '/' path)

mutual

/-- How deeply elements are nested in an element, itself included. -/
def depth : Node → Nat
  | .mk _ children => depthAmong children + 1

/-- How deeply elements are nested in any of several children. -/
def depthAmong : List NodeChild → Nat
  | [] => 0
  | .comment _ :: rest => depthAmong rest
  | .element n :: rest => max n.depth (depthAmong rest)

end

def truncate : Node → Node
  | .mk h cs => .mk { h with truncated := true } cs

mutual

def mapValues (f : String → String) : Node → Node
  | .mk h children =>
    .mk { h with
        attributes := h.attributes.map fun a => { a with value := f a.value }
        text := h.text.map f }
      (mapValuesAmong f children)

def mapValuesAmong (f : String → String) : List NodeChild → List NodeChild
  | [] => []
  | .comment text :: rest => .comment text :: mapValuesAmong f rest
  | .element n :: rest => .element (mapValues f n) :: mapValuesAmong f rest

end
end Node

def Attribute.toJson (a : Attribute) : Json :=
  .object (("name", .string a.name) :: Json.memberIfSome "namespace" .string a.uri ++
    [("value", .string a.value)])

/-- The members before the children of the document of an element. -/
def NodeHead.membersBefore (h : NodeHead) : List (String × Json) :=
  ("name", .string h.name) :: Json.memberIfSome "namespace" .string h.uri ++
    Json.memberIfAny "attributes" Attribute.toJson h.attributes

/-- The members after the children of the document of an element. -/
def NodeHead.membersAfter (h : NodeHead) : List (String × Json) :=
  Json.memberIfSome "text" .string h.text ++
    [("nil", .bool h.nil), ("truncated", .bool h.truncated)]

mutual

/-- The members of the document of an element. -/
def Node.members : Node → List (String × Json)
  | .mk h children =>
    h.membersBefore ++
      (match children with
        | [] => []
        | cs => [("children", .array (writeChildren cs))]) ++
      h.membersAfter

def writeChildren : List NodeChild → List Json
  | [] => []
  | .comment text :: rest =>
    .object [("kind", .string "comment"), ("text", .string text)] :: writeChildren rest
  | .element n :: rest => .object (("kind", .string "element") :: n.members) :: writeChildren rest

end

def Node.toJson (n : Node) : Json := .object n.members

end Specimen
