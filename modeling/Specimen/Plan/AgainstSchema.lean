import Specimen.Plan.Basic
import Specimen.Text.Split
import Std.Data.HashSet

/-!
# Plans beside schemas

A plan and a schema fit together when the root and every field of a relationship are found in the
catalog of the schema, the fields among what holds a value.  Rules that name nothing are harmless.

The index of a schema for a plan is its catalog together with the paths that the plan cannot do without:
those of the leaves that belong to relationships, those of everything that has a rule, and all paths
above them.
-/

namespace Specimen

/-! ## What does not fit -/

namespace Plan

/-- What is wrong with the root that a plan asks for. -/
def rootFaults (plan : Plan) (schema : Schema) : List ConfigFault :=
  match plan.metadata.rootElement with
  | some name =>
    if (schema.root? name).isNone then [.unknownRoot name (schema.elements.map (·.name))] else []
  | none => []

def ruleFaults (catalog : List CatalogEntry) (rule : ElementRule) : List ConfigFault :=
  match catalog.filter (·.matchesKey rule.key) with
  | [] => [.unmatchedElement rule.key]
  | found =>
    if rule.repeatCount = some 0 ∧ found.any (fun e => decide (0 < e.minOccurs)) then
      [.zeroOfRequired rule.key] else []

/-- What is wrong with a field of a relationship. -/
def fieldFaults (catalog : List CatalogEntry) (id : String) (field : String) (position : Nat) :
    List ConfigFault :=
  match catalog.filter (·.matchesKey field) with
  | [] => [.unmatchedField id position field]
  | found => if found.any (·.isLeaf) then [] else [.fieldWithContent id position field]

/-- Everything in which a plan does not fit a schema. -/
def faultsAgainst (plan : Plan) (schema : Schema) : List ConfigFault :=
  match schema.catalog with
  | .error e => [.invalidSchema e]
  | .ok catalog =>
    plan.rootFaults schema ++ plan.rules.flatMap (ruleFaults catalog) ++
      plan.relationships.flatMap fun r =>
        r.fields.zipIdx.flatMap fun p => fieldFaults catalog r.id p.1 p.2

end Plan

/-! ## What is needed -/

/-- The catalog and the paths that are needed. -/
structure Index where
  catalog : List CatalogEntry := []
  relationshipPaths : Std.HashSet String := {}
  rulePaths : Std.HashSet String := {}

def joinSegments (segments : List (List Char)) : String :=
  "/".intercalate (segments.map String.ofList)

def pathsAbove (path : String) : List String :=
  let segments := Text.splitAt '/' path.toList
  (List.range segments.length).map fun n => joinSegments (segments.take (n + 1))

/-- The field of a relationship that a leaf stands for. -/
def Plan.participantField? (plan : Plan) (name path : String) : Option String :=
  plan.owners.keys.find? fun field => keyMatches field name path

namespace Index

/-- The paths of some entries and all paths above them. -/
def closedPaths (entries : List CatalogEntry) : Std.HashSet String :=
  Std.HashSet.ofList (entries.flatMap fun e => pathsAbove e.path)

/-- The index of a catalog for a plan. -/
def ofCatalog (catalog : List CatalogEntry) (plan : Plan) : Index where
  catalog
  relationshipPaths := closedPaths <| catalog.filter fun e =>
    e.isLeaf && plan.owners.keys.any e.matchesKey
  rulePaths := closedPaths <| catalog.filter fun e => plan.rules.any fun rule => e.matchesKey rule.key

/-- The index of a schema for a plan. -/
def ofSchema (schema : Schema) (plan : Plan) : Except SchemaError Index :=
  schema.catalog.map fun catalog => ofCatalog catalog plan

/-- The first leaf that a field stands for, with its simple type. -/
def fieldEntry? (index : Index) (field : String) : Option (CatalogEntry × Facets) :=
  index.catalog.findSome? fun e => if e.matchesKey field then e.facets.map fun f => (e, f) else none

/-- Whether a mode keeps what is optional at a path. -/
def isForced (index : Index) (path : String) : GenerationMode → Bool
  | .complete => true
  | .minimalistic => index.relationshipPaths.contains path
  | .custom => index.rulePaths.contains path

end Index
end Specimen
