import Specimen.Config.Document
import Specimen.Json.Shape

/-!
# The contract of configurations

The shape that a document has to have to be read as a configuration.
-/

namespace Specimen
namespace Config

open Json

/-- A member of a record, without remarks. -/
def member (key : String) (shape : Shape) : String × Note × Shape := (key, {}, shape)

/-- A member of a record with a remark. -/
def described (key description : String) (shape : Shape) : String × Note × Shape :=
  (key, { description := some description }, shape)

/-- A member of a record with a default. -/
def defaulting (key : String) (default : Json) (shape : Shape) : String × Note × Shape :=
  (key, { default := some default }, shape)

/-- A member of a record with a default and a remark. -/
def explained (key description : String) (default : Json) (shape : Shape) :
    String × Note × Shape :=
  (key, { description := some description, default := some default }, shape)

def optionalText : Shape := .scalar .text true

def optionalFlag : Shape := .scalar .flag true

def texts : Shape := .list (.scalar .text false)

def textMap : Shape := .map (.scalar .text false)

def count (nullable : Bool) : Shape := .scalar (.integer "uint32" true) nullable

def contextShape : Shape :=
  .record
    [described "inherits" "Contexts merged underneath this one, in order; later entries win." texts]
    [] true

/-- The shape of what is said about an element. -/
def elementShape : Shape :=
  .record [
    described "choice" "Forced branch for a choice group under this element." optionalText,
    described "custom_values" "Literal scalar values to choose from." (.list .any),
    described "data_context" "Dotted data context path, e.g. \x60airports.cities\x60." optionalText,
    described "nil" "Emit \x60xsi:nil=\"true\"\x60 for nillable elements." optionalFlag,
    described "relationship" "Relationship that owns this element's value." optionalText,
    member "repeat_count" (count true),
    member "selection_strategy" optionalText,
    member "template_field" optionalText,
    described "template_source"
      "Data context path of records read column-wise by \x60template\x60 selection." optionalText]
    [] false

def settingsShape : Shape :=
  .record [
    member "deterministic_seed" (.scalar (.integer "uint64" true) true),
    defaulting "ensure_unique_combinations" (.bool false) (.scalar .flag false),
    defaulting "global_repeat_count" (.nat 2) (count false),
    defaulting "include_comments" (.bool false) (.scalar .flag false),
    defaulting "max_depth" (.nat 5) (count false),
    explained "max_unbounded_count" "Ceiling applied to \x60maxOccurs=\"unbounded\"\x60." (.nat 10)
      (count false),
    explained "mode" "\x60complete\x60, \x60minimalistic\x60, or \x60custom\x60."
      (.string "complete") (.scalar .text false)]
    [] false

def overridesShape : Shape :=
  .record [
    explained "enforce_constraints"
      "Retry relationship constraints instead of only reporting them." (.bool true)
      (.scalar .flag false),
    described "namespace_prefixes" "Prefix to namespace URI." textMap,
    explained "use_realistic_data" "Use name-based realistic generators for unconstrained text."
      (.bool true) (.scalar .flag false)]
    [] false

def metadataShape : Shape :=
  .record [
    member "description" optionalText,
    member "name" optionalText,
    described "root_element" "Global element used as the document root." optionalText,
    member "schema_name" optionalText]
    [] false

def relationshipShape : Shape :=
  .record [
    described "constraints" "Boolean expressions over participant fields." texts,
    described "depends_on" "Fields (or other relationship ids) resolved before the rest." texts,
    member "ensure_unique" optionalFlag,
    described "field_map" "Participant field to record key, when they differ." textMap,
    described "fields" "Participating element names." texts,
    member "max_attempts" (count true),
    explained "priority" "Lower values own shared fields first." (.nat 0)
      (.scalar (.integer "int32" false) false),
    member "selection_strategy" optionalText,
    described "source" "Data context path holding persona records." optionalText,
    described "strategy"
      "\x60consistent_persona\x60, \x60dependent_values\x60, or \x60constraint_based\x60."
      (.scalar .text false)]
    ["fields", "strategy"] false

/-- A flat object with its keys in increasing order. -/
def sorted : Json → Json
  | .object members => .object (sortMembers members)
  | j => j

def contract : Contract where
  title := "GeneratorConfig"
  description := "Generator configuration document as authored.\n\nStrategy and mode names stay free-form strings here; validation compiles them into closed enums and rejects unknown names."
  definitions := [
    ("DataContextDef", "Named data context. Values are arrays (pools), scalars, or nested objects reachable through dotted paths.", contextShape),
    ("ElementConfig", "Per-element overrides.", elementShape),
    ("GenerationSettings", "Document-wide generation knobs.", settingsShape),
    ("GlobalOverrides", "Switches applied across the whole document.", overridesShape),
    ("Metadata", "Descriptive metadata.", metadataShape),
    ("SmartRelationshipDef", "Cross-field relationship declaration.", relationshipShape)]
  shape := .record [
    described "data_contexts" "Named pools of values, optionally inheriting from other contexts."
      (.map (.named "DataContextDef")),
    described "element_configs"
      "Per-element settings keyed by element name, \x60@attribute\x60, or path suffix."
      (.map (.named "ElementConfig")),
    defaulting "generation_settings" (sorted (GenerationSettings.toJson {}))
      (.named "GenerationSettings"),
    defaulting "global_overrides" (sorted (Overrides.toJson {})) (.named "GlobalOverrides"),
    defaulting "metadata" (Metadata.toJson {}) (.named "Metadata"),
    member "smart_relationships" (.map (.named "SmartRelationshipDef"))]
    [] false

end Config
end Specimen
