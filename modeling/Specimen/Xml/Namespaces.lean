import Specimen.Config.Basic
import Specimen.Document.Node

/-!
# Namespaces

All namespaces of a document are declared on its root.  That of the root itself is the default, unless
a prefix is configured for it; every other one has a prefix, configured or numbered.  Attributes do not
take part in the default, so their namespaces have prefixes in any case.
-/

namespace Specimen
namespace Xml

/-- How a document is written. -/
structure Format where
  /-- Blanks for each level. -/
  indent : Nat := 2
  /-- Prefixes by namespace. -/
  prefixes : Dict String := {}
  /-- Whether the document begins with a declaration. -/
  declaration : Bool := true
  deriving Inhabited

/-- The format with the prefixes that a configuration names; of several prefixes for one namespace the
last one stands. -/
def Format.ofOverrides (o : Overrides) : Format :=
  { prefixes := Dict.ofList (o.prefixes.entries.map fun e => (e.2, e.1)) }

/-- The namespaces of a document. -/
structure Namespaces where
  /-- The namespace of names without a prefix. -/
  default : Option String := none
  /-- Prefixes with their namespaces in the order of their declaration. -/
  declared : List (String × String) := []
  /-- Whether an element is marked as nil. -/
  usesNil : Bool := false
  deriving Inhabited

/-- Adds a text to a list unless it is there. -/
def addNew (names : List String) (name : String) : List String :=
  if names.contains name then names else names ++ [name]

mutual

/-- Adds the namespaces of an element and all below it. -/
def elementUris (found : List String) : Node → List String
  | .mk h children => elementUrisAmong (h.uri.toList.foldl addNew found) children

/-- Adds the namespaces of the elements among children and below. -/
def elementUrisAmong (found : List String) : List NodeChild → List String
  | [] => found
  | .comment _ :: rest => elementUrisAmong found rest
  | .element n :: rest => elementUrisAmong (elementUris found n) rest

end

mutual

/-- Adds the namespaces of the attributes of an element and all below it. -/
def attributeUris (found : List String) : Node → List String
  | .mk h children => attributeUrisAmong ((h.attributes.filterMap (·.uri)).foldl addNew found) children

/-- Adds the namespaces of the attributes among children and below. -/
def attributeUrisAmong (found : List String) : List NodeChild → List String
  | [] => found
  | .comment _ :: rest => attributeUrisAmong found rest
  | .element n :: rest => attributeUrisAmong (attributeUris found n) rest

end

mutual

/-- Whether an element or one below it is marked as nil. -/
def usesNil : Node → Bool
  | .mk h children => h.nil || usesNilAmong children

/-- Whether an element among children or below is marked as nil. -/
def usesNilAmong : List NodeChild → Bool
  | [] => false
  | .comment _ :: rest => usesNilAmong rest
  | .element n :: rest => usesNil n || usesNilAmong rest

end

/-- The first numbered prefix behind a number that is not taken, with its number. -/
def freePrefix (taken : List String) : (tries : Nat) → (number : Nat) → String × Nat
  | 0, number => ("ns" ++ toString (number + 1), number + 1)
  | tries + 1, number =>
    let candidate := "ns" ++ toString (number + 1)
    if taken.contains candidate then freePrefix taken tries (number + 1)
    else (candidate, number + 1)

namespace Namespaces

def prefixOf? (ns : Namespaces) (uri : String) : Option String :=
  (ns.declared.find? fun d => d.2 == uri).map (·.1)

/-- Gives a namespace a prefix unless it has one; `number` is the last number that was given. -/
def assign (format : Format) (state : Namespaces × Nat) (uri : String) : Namespaces × Nat :=
  let (ns, number) := state
  if (ns.prefixOf? uri).isSome then (ns, number)
  else
    let (name, number) :=
      match format.prefixes.get? uri with
      | some name => (name, number)
      | none =>
        let taken := format.prefixes.values ++ ns.declared.map (·.1)
        freePrefix taken taken.length number
    ({ ns with declared := ns.declared ++ [(name, uri)] }, number)

def defaultOf (root : Node) (format : Format) : Option String :=
  root.head.uri.filter fun uri => !format.prefixes.contains uri

def collect (root : Node) (format : Format) : Namespaces :=
  let start : Namespaces := { default := defaultOf root format, usesNil := Xml.usesNil root }
  let uris := (elementUris [] root).filter (fun uri => start.default != some uri) ++
    attributeUris [] root
  (uris.foldl (assign format) (start, 0)).1

/-- The name of an element as it is written. -/
def elementName (ns : Namespaces) (h : NodeHead) : String :=
  match h.uri with
  | none => h.name
  | some uri =>
    if ns.default = some uri then h.name
    else
      match ns.prefixOf? uri with
      | some p => p ++ ":" ++ h.name
      | none => h.name

/-- The name of an attribute as it is written. -/
def attributeName (ns : Namespaces) (a : Attribute) : String :=
  match a.uri.bind ns.prefixOf? with
  | some p => p ++ ":" ++ a.name
  | none => a.name

end Namespaces
end Xml
end Specimen
