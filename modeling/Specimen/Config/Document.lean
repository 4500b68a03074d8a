import Specimen.Config.Basic
import Specimen.Schema.Document

/-!
# Configurations as documents

The document form of configurations: keys, defaults, and which members are left out when they say
nothing.  A data context keeps its parents and its values in one object.
-/

namespace Specimen

open Json

def readWord64 (j : Json) : Decoded UInt64 := (readNat64 j).map UInt64.ofNat

def readSigned32 (j : Json) : Decoded Int32 := (readInt32 j).map Int32.ofInt

def readDict {α : Type} (read : Json → Decoded α) (j : Json) : Decoded (Dict α) :=
  (readMap read j).map Dict.ofList

/-- A member for a dictionary, written only when there are entries. -/
def memberIfEntries {α : Type} (key : String) (write : α → Json) (d : Dict α) :
    List (String × Json) :=
  if d.isEmpty then [] else [(key, .object (d.mapValues write).entries)]

namespace Metadata

def record : Record Metadata where
  name := "Metadata"
  blank := {}
  fields := [
    .optional "name" (readOption readString) fun v m => { m with name := v },
    .optional "schema_name" (readOption readString) fun v m => { m with schemaName := v },
    .optional "root_element" (readOption readString) fun v m => { m with rootElement := v },
    .optional "description" (readOption readString) fun v m => { m with description := v }]

def read (j : Json) : Decoded Metadata := record.read .direct j

def toJson (m : Metadata) : Json :=
  .object <|
    memberIfSome "name" .string m.name ++
    memberIfSome "schema_name" .string m.schemaName ++
    memberIfSome "root_element" .string m.rootElement ++
    memberIfSome "description" .string m.description

end Metadata

namespace GenerationSettings

def record : Record GenerationSettings where
  name := "GenerationSettings"
  blank := {}
  fields := [
    .optional "mode" readString fun v s => { s with mode := v },
    .optional "global_repeat_count" readWord32 fun v s => { s with repeatCount := v },
    .optional "max_depth" readWord32 fun v s => { s with maxDepth := v },
    .optional "include_comments" readBool fun v s => { s with includeComments := v },
    .optional "deterministic_seed" (readOption readWord64) fun v s => { s with seed := v },
    .optional "ensure_unique_combinations" readBool fun v s => { s with uniqueCombinations := v },
    .optional "max_unbounded_count" readWord32 fun v s => { s with unboundedCount := v }]

def read (j : Json) : Decoded GenerationSettings := record.read .direct j

def toJson (s : GenerationSettings) : Json :=
  .object <|
    [("mode", .string s.mode), ("global_repeat_count", writeWord32 s.repeatCount),
      ("max_depth", writeWord32 s.maxDepth), ("include_comments", .bool s.includeComments)] ++
    memberIfSome "deterministic_seed" (fun w => .nat w.toNat) s.seed ++
    [("ensure_unique_combinations", .bool s.uniqueCombinations),
      ("max_unbounded_count", writeWord32 s.unboundedCount)]

end GenerationSettings

namespace DataContext

/-- Reads a data context: the parents stand under `inherits`, and every other member is a value. -/
def read : Json → Decoded DataContext
  | .object members =>
    match members.find? fun m => m.1 == "inherits" with
    | none => .ok ⟨[], Dict.ofList members⟩
    | some (_, j) =>
      (readList readString j).map fun parents =>
        ⟨parents, (Dict.ofList members).erase "inherits"⟩
  | j => wrongType j "struct DataContextDef"

def toJson (c : DataContext) : Json :=
  .object (memberIfAny "inherits" .string c.inherits ++ c.values.entries)

end DataContext

namespace RelationshipDef

def record : Record RelationshipDef where
  name := "SmartRelationshipDef"
  blank := { fields := [], strategy := "" }
  fields := [
    .needed "fields" (readList readString) fun v r => { r with fields := v },
    .needed "strategy" readString fun v r => { r with strategy := v },
    .optional "depends_on" (readList readString) fun v r => { r with dependsOn := v },
    .optional "constraints" (readList readString) fun v r => { r with constraints := v },
    .optional "ensure_unique" (readOption readBool) fun v r => { r with ensureUnique := v },
    .optional "source" (readOption readString) fun v r => { r with source := v },
    .optional "selection_strategy" (readOption readString) fun v r =>
      { r with selectionStrategy := v },
    .optional "priority" readSigned32 fun v r => { r with priority := v },
    .optional "field_map" (readDict readString) fun v r => { r with fieldMap := v },
    .optional "max_attempts" (readOption readWord32) fun v r => { r with maxAttempts := v }]

def read (j : Json) : Decoded RelationshipDef := record.read .direct j

def toJson (r : RelationshipDef) : Json :=
  .object <|
    [("fields", .array (r.fields.map .string)), ("strategy", .string r.strategy)] ++
    memberIfAny "depends_on" .string r.dependsOn ++
    memberIfAny "constraints" .string r.constraints ++
    memberIfSome "ensure_unique" .bool r.ensureUnique ++
    memberIfSome "source" .string r.source ++
    memberIfSome "selection_strategy" .string r.selectionStrategy ++
    [("priority", .int r.priority.toInt)] ++
    memberIfEntries "field_map" .string r.fieldMap ++
    memberIfSome "max_attempts" writeWord32 r.maxAttempts

end RelationshipDef

namespace ElementConfig

/-- The document form of what is said about an element. -/
def record : Record ElementConfig where
  name := "ElementConfig"
  blank := {}
  fields := [
    .optional "custom_values" (readList .ok) fun v e => { e with customValues := v },
    .optional "data_context" (readOption readString) fun v e => { e with dataContext := v },
    .optional "selection_strategy" (readOption readString) fun v e =>
      { e with selectionStrategy := v },
    .optional "relationship" (readOption readString) fun v e => { e with relationship := v },
    .optional "repeat_count" (readOption readWord32) fun v e => { e with repeatCount := v },
    .optional "template_source" (readOption readString) fun v e => { e with templateSource := v },
    .optional "template_field" (readOption readString) fun v e => { e with templateField := v },
    .optional "choice" (readOption readString) fun v e => { e with choice := v },
    .optional "nil" (readOption readBool) fun v e => { e with nil := v }]

def read (j : Json) : Decoded ElementConfig := record.read .direct j

def toJson (e : ElementConfig) : Json :=
  .object <|
    memberIfAny "custom_values" id e.customValues ++
    memberIfSome "data_context" .string e.dataContext ++
    memberIfSome "selection_strategy" .string e.selectionStrategy ++
    memberIfSome "relationship" .string e.relationship ++
    memberIfSome "repeat_count" writeWord32 e.repeatCount ++
    memberIfSome "template_source" .string e.templateSource ++
    memberIfSome "template_field" .string e.templateField ++
    memberIfSome "choice" .string e.choice ++
    memberIfSome "nil" .bool e.nil

end ElementConfig

namespace Overrides

def record : Record Overrides where
  name := "GlobalOverrides"
  blank := {}
  fields := [
    .optional "use_realistic_data" readBool fun v o => { o with realisticData := v },
    .optional "namespace_prefixes" (readDict readString) fun v o => { o with prefixes := v },
    .optional "enforce_constraints" readBool fun v o => { o with enforceConstraints := v }]

def read (j : Json) : Decoded Overrides := record.read .direct j

def toJson (o : Overrides) : Json :=
  .object <|
    [("use_realistic_data", .bool o.realisticData)] ++
    memberIfEntries "namespace_prefixes" .string o.prefixes ++
    [("enforce_constraints", .bool o.enforceConstraints)]

end Overrides

namespace Config

def record : Record Config where
  name := "GeneratorConfig"
  blank := {}
  fields := [
    .optional "metadata" Metadata.read fun v c => { c with metadata := v },
    .optional "generation_settings" GenerationSettings.read fun v c => { c with settings := v },
    .optional "data_contexts" (readDict DataContext.read) fun v c => { c with dataContexts := v },
    .optional "smart_relationships" (readDict RelationshipDef.read) fun v c =>
      { c with relationships := v },
    .optional "element_configs" (readDict ElementConfig.read) fun v c => { c with elements := v },
    .optional "global_overrides" Overrides.read fun v c => { c with overrides := v }]

def read (j : Json) : Decoded Config := record.read .direct j

def toJson (c : Config) : Json :=
  .object <|
    [("metadata", c.metadata.toJson), ("generation_settings", c.settings.toJson)] ++
    memberIfEntries "data_contexts" DataContext.toJson c.dataContexts ++
    memberIfEntries "smart_relationships" RelationshipDef.toJson c.relationships ++
    memberIfEntries "element_configs" ElementConfig.toJson c.elements ++
    [("global_overrides", c.overrides.toJson)]

/-- The version of the document form that is read. -/
def documentVersion : String := "0.1"

end Config
end Specimen
