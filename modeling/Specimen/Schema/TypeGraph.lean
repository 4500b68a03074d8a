import Specimen.Graph
import Specimen.Json.Basic
import Specimen.Schema.Basic

/-!
# References between named types

The graph of a schema has an edge from each named type to every type name that its content refers to,
however deep in anonymous types and nested groups.  A type is recursive when it reaches itself.  When
none is, the types have an order in which each comes after those it refers to.
-/

namespace Specimen

/-- The type name that a declaration refers to, unless it is built in. -/
def ElementDecl.typeRefs (decl : ElementDecl) : List String :=
  match decl.typeRef with
  | some ref => if ref = "" || (Primitive.ofTypeName? ref).isSome then [] else [ref]
  | none => []

mutual

/-- The type names that an element refers to. -/
def Element.typeRefs : Element → List String
  | .mk decl none => decl.typeRefs
  | .mk decl (some g) => decl.typeRefs ++ g.typeRefs

/-- The type names that a group refers to. -/
def Group.typeRefs : Group → List String
  | .mk _ members => typeRefsOfMembers members

/-- The type names that the members of a group refer to. -/
def typeRefsOfMembers : List Particle → List String
  | [] => []
  | .element e :: rest => e.typeRefs ++ typeRefsOfMembers rest
  | .group g :: rest => g.typeRefs ++ typeRefsOfMembers rest

end

/-- What is known about the references between the named types of a schema. -/
structure TypeGraph where
  nodeCount : Nat
  edgeCount : Nat
  order : Option (List String)
  recursive : List String
  deriving DecidableEq, Repr

namespace Schema

def references (schema : Schema) : Graph :=
  schema.types.foldl
    (fun g t => g.add t.name (match t.content with | some c => c.typeRefs | none => [])) []

/-- The report on the references between named types. -/
def typeGraph (schema : Schema) : TypeGraph :=
  let g := schema.references
  { nodeCount := g.length
    edgeCount := g.edgeCount
    order := g.targetsFirst.toOption
    recursive := g.nodes.filter g.isRecursive }

end Schema

def TypeGraph.toJson (t : TypeGraph) : Json :=
  .object [
    ("summary", .object [("nodes", .nat t.nodeCount), ("edges", .nat t.edgeCount)]),
    ("topo_order", Json.ofOption (fun names => .array (names.map .string)) t.order),
    ("recursive_types", .array (t.recursive.map .string))]

end Specimen
