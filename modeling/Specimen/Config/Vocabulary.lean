import Specimen.Text.Case
import Specimen.Text.Property

/-!
# Modes and strategies

The closed lists behind the names that a configuration uses.  A name is found without regard to the
blanks around it and to ASCII case.
-/

namespace Specimen

/-- The form of a name in which it is looked up. -/
def plainName (name : String) : String := Text.lowerAscii (Text.trim name)

/-- Which optional parts a document gets. -/
inductive GenerationMode where
  /-- All of them. -/
  | complete
  /-- Those that a relationship needs. -/
  | minimalistic
  /-- Those that are configured. -/
  | custom
  deriving DecidableEq, Repr, Inhabited

namespace GenerationMode

def name : GenerationMode → String
  | .complete => "complete"
  | .minimalistic => "minimalistic"
  | .custom => "custom"

def ofName? (name : String) : Option GenerationMode :=
  match plainName name with
  | "complete" => some .complete
  | "minimalistic" => some .minimalistic
  | "minimal" => some .minimalistic
  | "custom" => some .custom
  | _ => none

end GenerationMode

/-- How a value is picked from a list. -/
inductive SelectionStrategy where
  | sequential
  | random
  /-- At random, from numbers of its own for each path. -/
  | seeded
  /-- One after the other, a record at a time. -/
  | template
  deriving DecidableEq, Repr, Inhabited

namespace SelectionStrategy

def name : SelectionStrategy → String
  | .sequential => "sequential"
  | .random => "random"
  | .seeded => "seeded"
  | .template => "template"

def ofName? (name : String) : Option SelectionStrategy :=
  match plainName name with
  | "sequential" => some .sequential
  | "random" => some .random
  | "seeded" => some .seeded
  | "template" => some .template
  | _ => none

end SelectionStrategy

/-- How the fields of a relationship get their values. -/
inductive RelationshipStrategy where
  /-- All from one record. -/
  | consistentPersona
  /-- One after the other, each in view of those before. -/
  | dependentValues
  /-- All at once, again until the constraints hold. -/
  | constraintBased
  deriving DecidableEq, Repr, Inhabited

namespace RelationshipStrategy

def name : RelationshipStrategy → String
  | .consistentPersona => "consistent_persona"
  | .dependentValues => "dependent_values"
  | .constraintBased => "constraint_based"

def ofName? (name : String) : Option RelationshipStrategy :=
  match plainName name with
  | "consistent_persona" => some .consistentPersona
  | "dependent_values" => some .dependentValues
  | "constraint_based" => some .constraintBased
  | _ => none

end RelationshipStrategy
end Specimen
