import Specimen.Config.Document
import Specimen.Config.Fault
import Specimen.Config.Vocabulary
import Specimen.Constraint.Evaluation
import Specimen.Schema.Catalog

/-!
# Plans

A plan is a configuration that was checked: names of modes and strategies are resolved, constraints
are read, and every field that belongs to a relationship has one owner among the relationships.

Relationships stand in the order of their priorities.  `Plan.rule?` finds what a plan says about an
element, `Plan.owner?` who owns a field.
-/

namespace Specimen

/-- The settings of a plan. -/
structure PlanSettings where
  mode : GenerationMode := .complete
  repeatCount : UInt32 := 2
  maxDepth : UInt32 := 5
  includeComments : Bool := false
  seed : Option UInt64 := none
  uniqueCombinations : Bool := false
  unboundedCount : UInt32 := 10
  deriving DecidableEq, Repr, Inhabited

/-- What a plan says about the elements and attributes that a key names. -/
structure ElementRule where
  /-- A local name, or the end of a path. -/
  key : String
  customValues : List String := []
  dataContext : Option String := none
  selection : Option SelectionStrategy := none
  relationship : Option String := none
  repeatCount : Option UInt32 := none
  templateSource : Option String := none
  templateField : Option String := none
  choice : Option String := none
  nil : Bool := false
  deriving DecidableEq, Repr, Inhabited

/-- A relationship of a plan. -/
structure Relationship where
  id : String
  strategy : RelationshipStrategy
  fields : List String
  /-- Fields of the relationship that are settled first. -/
  dependsOn : List String := []
  /-- Other relationships that are settled first. -/
  after : List String := []
  constraints : List Constraint := []
  ensureUnique : Bool := false
  source : Option String := none
  selection : SelectionStrategy := .random
  priority : Int32 := 0
  fieldMap : Dict String := {}
  maxAttempts : Option UInt32 := none

/-- A configuration that was checked. -/
structure Plan where
  metadata : Metadata := {}
  settings : PlanSettings := {}
  dataContexts : Dict DataContext := {}
  relationships : List Relationship := []
  rules : List ElementRule := []
  overrides : Overrides := {}
  /-- The relationship that supplies each field. -/
  owners : Dict String := {}
  warnings : List Issue := []

/-- The text of a plain value; null, arrays and objects have none. -/
def Json.plainText? : Json → Option String
  | .string s => some s
  | .int n => some (Json.int n).compact
  | .float x => some (Json.float x).compact
  | .bool b => some (Json.bool b).compact
  | _ => none

namespace ElementRule

def applies (rule : ElementRule) (name path : String) : Bool := keyMatches rule.key name path

/-- The number of slashes in the key of a rule. -/
def specificity (rule : ElementRule) : Nat := rule.key.toList.count '/'

/-- The later of two rules unless the earlier one is more specific. -/
def moreSpecific (a b : ElementRule) : ElementRule :=
  if b.specificity < a.specificity then a else b

/-- The most specific rule of a list, the last of several. -/
def mostSpecific? : List ElementRule → Option ElementRule
  | [] => none
  | r :: rest => some (rest.foldl moreSpecific r)

end ElementRule

namespace Relationship

def hasField (r : Relationship) (field : String) : Bool := r.fields.contains field

/-- The key under which the records of a relationship hold a field. -/
def recordKey (r : Relationship) (field : String) : String := (r.fieldMap.get? field).getD field

/-- The fields that are settled after those of `dependsOn`. -/
def dependents (r : Relationship) : List String :=
  r.fields.filter fun f => !r.dependsOn.contains f

end Relationship

namespace Plan

def relationship? (plan : Plan) (id : String) : Option Relationship :=
  plan.relationships.find? fun r => r.id == id

def rule? (plan : Plan) (name path : String) : Option ElementRule :=
  ElementRule.mostSpecific? (plan.rules.filter fun rule => rule.applies name path)

def owner? (plan : Plan) (field : String) : Option Relationship :=
  (plan.owners.get? field).bind plan.relationship?

def isParticipant (plan : Plan) (field : String) : Bool := plan.owners.contains field

/-- Whether a relationship is the owner of a field. -/
def owns (plan : Plan) (r : Relationship) (field : String) : Bool :=
  plan.owners.get? field == some r.id

end Plan
end Specimen
