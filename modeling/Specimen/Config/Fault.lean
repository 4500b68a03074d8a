import Specimen.Constraint.Token
import Specimen.Json.Decode
import Specimen.Json.Shape
import Specimen.Schema.Resolution
import Specimen.Text.Case

/-!
# Faults of configurations

Everything that can be wrong with a configuration, as such and beside a schema.  Each fault is reported
as an issue: how grave it is, a code, a pointer into the configuration, a message and perhaps a hint.

A field of a relationship may be named exactly, with another case, or by the beginning of its name, as
long as only one field can be meant.
-/

namespace Specimen

/-! ## Names of fields -/

/-- Why a name does not stand for a field. -/
inductive FieldNameError where
  | ambiguousCase (fields : List String)
  | ambiguousStart (fields : List String)
  | unknown (fields : List String)
  deriving DecidableEq, Repr

/-- The wording of a failure to find a field. -/
def FieldNameError.message : FieldNameError → String
  | .ambiguousCase fields => "ambiguous case-insensitive match among " ++ ", ".intercalate fields
  | .ambiguousStart fields => "ambiguous prefix match among " ++ ", ".intercalate fields
  | .unknown fields => "no participant field among " ++ ", ".intercalate fields

/-- The fields whose name is equal to a name but for case. -/
def sameButCase (fields : List String) (name : String) : List String :=
  fields.filter fun f => Text.lower f == Text.lower name

/-- The fields whose name begins with a name but for case. -/
def startingWith (fields : List String) (name : String) : List String :=
  fields.filter fun f => (Text.lower name).toList.isPrefixOf (Text.lower f).toList

def findField (fields : List String) (name : String) : Except FieldNameError String :=
  if name ∈ fields then .ok name
  else
    match sameButCase fields name with
    | [field] => .ok field
    | f :: g :: rest => .error (.ambiguousCase (f :: g :: rest))
    | [] =>
      match startingWith fields name with
      | [field] => .ok field
      | f :: g :: rest => .error (.ambiguousStart (f :: g :: rest))
      | [] => .error (.unknown fields)

/-! ## Issues -/

/-- How grave an issue is. -/
inductive Severity where
  | error
  | warning
  deriving DecidableEq, Repr

/-- An issue as it is reported. -/
structure Issue where
  severity : Severity
  code : String
  /-- A pointer into the configuration. -/
  place : String
  message : String
  hint : Option String := none
  deriving DecidableEq, Repr

/-- Which part of a configuration a selection strategy belongs to. -/
inductive StrategyOwner where
  | relationship (id : String)
  | element (key : String)
  deriving DecidableEq, Repr

/-- What can be wrong with a configuration. -/
inductive ConfigFault where
  | shape (violation : Json.Violation)
  | unreadable (e : Json.DecodeError)
  | unknownMode (name : String)
  | zeroDepth
  | zeroUnbounded
  | unknownParent (context : String) (position : Nat) (parent : String)
  | contextCycle (contexts : List String)
  | noFields (relationship : String)
  | repeatedField (relationship field : String)
  | unknownRelationshipStrategy (relationship name : String)
  | unknownSelectionStrategy (owner : StrategyOwner) (name : String)
  | personaWithoutSource (relationship : String)
  | unknownDependency (relationship : String) (position : Nat) (name : String) (e : FieldNameError)
  | constraintSyntax (relationship : String) (position : Nat) (source : String) (e : SyntaxError)
  | constraintField (relationship : String) (position : Nat) (source name : String)
      (e : FieldNameError)
  | strayFieldMap (relationship field : String)
  | zeroAttempts (relationship : String)
  | valueNotPlain (key : String) (position : Nat)
  | unknownRelationship (key relationship : String)
  | notAField (key relationship : String)
  | templateFieldAlone (key : String)
  | templateSourceShadowed (key : String)
  | dependencyCycle (fields : List String)
  | invalidSchema (e : SchemaError)
  | unknownRoot (name : String) (known : List String)
  | unmatchedElement (key : String)
  | zeroOfRequired (key : String)
  | unmatchedField (relationship : String) (position : Nat) (field : String)
  | fieldWithContent (relationship : String) (position : Nat) (field : String)

def Issue.error (code : String) (place : List String) (message : String) : Issue :=
  ⟨.error, code, Json.pointer place, message, none⟩

def Issue.warning (code : String) (place : List String) (message : String) : Issue :=
  ⟨.warning, code, Json.pointer place, message, none⟩

def Issue.withHint (issue : Issue) (hint : String) : Issue := { issue with hint := some hint }

namespace StrategyOwner

/-- Where the owner of a selection strategy stands. -/
def place : StrategyOwner → List String
  | .relationship id => ["smart_relationships", id]
  | .element key => ["element_configs", key]

end StrategyOwner

namespace ConfigFault

def quoted (s : String) : String := "'" ++ s ++ "'"

def inRelationship (id : String) (rest : List String) : List String :=
  "smart_relationships" :: id :: rest

/-- Where a part of what is said about an element stands. -/
def inElement (key : String) (rest : List String) : List String := "element_configs" :: key :: rest

def issue : ConfigFault → Issue
  | .shape v => .error "schema_violation" v.place v.mismatch.message
  | .unreadable e => .error "invalid_config_json" [] e.message
  | .unknownMode name =>
    (Issue.error "unknown_mode" ["generation_settings", "mode"]
      ("unknown generation mode " ++ quoted name)).withHint "use complete, minimalistic, or custom"
  | .zeroDepth =>
    .error "max_depth_zero" ["generation_settings", "max_depth"] "max_depth must be at least 1"
  | .zeroUnbounded =>
    .warning "max_unbounded_count_zero" ["generation_settings", "max_unbounded_count"]
      "unbounded elements will only reach their minOccurs"
  | .unknownParent context position parent =>
    .error "unknown_parent_context" ["data_contexts", context, "inherits", toString position]
      ("data context " ++ quoted context ++ " inherits unknown context " ++ quoted parent)
  | .contextCycle contexts =>
    .error "data_context_cycle" ["data_contexts"]
      ("inheritance cycle among: " ++ ", ".intercalate contexts)
  | .noFields id =>
    .error "relationship_without_fields" (inRelationship id ["fields"])
      ("relationship " ++ quoted id ++ " declares no fields")
  | .repeatedField id field =>
    .error "duplicate_relationship_field" (inRelationship id ["fields"])
      ("relationship " ++ quoted id ++ " lists field " ++ quoted field ++ " twice")
  | .unknownRelationshipStrategy id name =>
    (Issue.error "unknown_relationship_strategy" (inRelationship id ["strategy"])
      ("unknown relationship strategy " ++ quoted name)).withHint
      "use consistent_persona, dependent_values, or constraint_based"
  | .unknownSelectionStrategy owner name =>
    (Issue.error "unknown_selection_strategy" (owner.place ++ ["selection_strategy"])
      ("unknown selection strategy " ++ quoted name)).withHint
      "use sequential, random, seeded, or template"
  | .personaWithoutSource id =>
    (Issue.error "persona_without_source" (inRelationship id ["source"])
      ("consistent_persona relationship " ++ quoted id ++ " needs a source")).withHint
      "point source at a data context list of records, e.g. 'people.travelers'"
  | .unknownDependency id position name e =>
    (Issue.error "unknown_dependency" (inRelationship id ["depends_on", toString position])
      ("depends_on " ++ quoted name ++ ": " ++ e.message)).withHint
      "name a participant field or another relationship id"
  | .constraintSyntax id position source e =>
    .error "invalid_constraint" (inRelationship id ["constraints", toString position])
      ("cannot parse " ++ quoted source ++ ": " ++ e.message)
  | .constraintField id position source name e =>
    .error "unresolved_constraint_field" (inRelationship id ["constraints", toString position])
      ("constraint " ++ quoted source ++ " identifier " ++ quoted name ++ ": " ++ e.message)
  | .strayFieldMap id field =>
    .error "unknown_field_map_entry" (inRelationship id ["field_map", field])
      ("field_map key " ++ quoted field ++ " is not a participant of " ++ quoted id)
  | .zeroAttempts id =>
    .warning "max_attempts_zero" (inRelationship id ["max_attempts"])
      "max_attempts 0 disables constraint retries"
  | .valueNotPlain key position =>
    .error "invalid_custom_value" (inElement key ["custom_values", toString position])
      "custom values must be strings, numbers, or booleans"
  | .unknownRelationship key id =>
    .error "unknown_relationship" (inElement key ["relationship"])
      ("element " ++ quoted key ++ " references unknown relationship " ++ quoted id)
  | .notAField key id =>
    .error "relationship_field_mismatch" (inElement key ["relationship"])
      ("element " ++ quoted key ++ " is not a field of relationship " ++ quoted id)
  | .templateFieldAlone key =>
    .warning "template_field_without_source" (inElement key ["template_field"])
      "template_field has no effect without template_source"
  | .templateSourceShadowed key =>
    .warning "shadowed_template_source" (inElement key ["template_source"])
      "data_context takes precedence over template_source"
  | .dependencyCycle fields =>
    (Issue.error "relationship_dependency_cycle" ["smart_relationships"]
      ("depends_on cycle among fields: " ++ ", ".intercalate fields)).withHint
      "remove one depends_on edge so every field can be resolved in order"
  | .invalidSchema e => .error "invalid_schema" [] e.message
  | .unknownRoot name known =>
    (Issue.error "unknown_root_element" ["metadata", "root_element"]
      ("root element " ++ quoted name ++ " is not a global element of the schema")).withHint
      ("use one of: " ++ ", ".intercalate known)
  | .unmatchedElement key =>
    (Issue.warning "unmatched_element_config" (inElement key [])
      ("element config " ++ quoted key ++ " matches no schema element")).withHint
      "use an element name, '@attribute', or a path suffix like 'Parent/Child'"
  | .zeroOfRequired key =>
    .warning "zero_repeat_count_required" (inElement key ["repeat_count"])
      ("repeat_count 0 on required element " ++ quoted key ++ "; minOccurs wins")
  | .unmatchedField id position field =>
    .error "unknown_relationship_field" (inRelationship id ["fields", toString position])
      ("relationship " ++ quoted id ++ " field " ++ quoted field ++ " matches no schema element")
  | .fieldWithContent id position field =>
    .error "relationship_field_not_leaf" (inRelationship id ["fields", toString position])
      ("relationship " ++ quoted id ++ " field " ++ quoted field ++ " has complex content")

def isError (fault : ConfigFault) : Bool := fault.issue.severity == .error

end ConfigFault

/-- The issues found, errors and warnings apart. -/
structure ConfigReport where
  errors : List Issue := []
  warnings : List Issue := []
  deriving DecidableEq, Repr, Inhabited

namespace ConfigReport

/-- The report on faults in the order in which they were found. -/
def ofFaults (faults : List ConfigFault) : ConfigReport where
  errors := (faults.map (·.issue)).filter (·.severity == .error)
  warnings := (faults.map (·.issue)).filter (·.severity == .warning)

def isOk (r : ConfigReport) : Bool := r.errors.isEmpty

def line (issue : Issue) : String := issue.code ++ " " ++ issue.place ++ ": " ++ issue.message

/-- A report on one line: the first error and how many more there are. -/
def summary (r : ConfigReport) : String :=
  match r.errors with
  | [] => "no errors"
  | [e] => line e
  | e :: rest => line e ++ " (and " ++ toString rest.length ++ " more)"

end ConfigReport

def Issue.toJson (i : Issue) : Json :=
  .object <|
    [("severity", .string (match i.severity with | .error => "error" | .warning => "warning")),
      ("code", .string i.code), ("path", .string i.place), ("message", .string i.message)] ++
    Json.memberIfSome "hint" .string i.hint

end Specimen
