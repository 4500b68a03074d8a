import Specimen.Plan.Basic

/-!
# Plans as documents

The written form of plans.  Unlike in configurations, what is absent is written as null.
-/

namespace Specimen

open Json

/-- The settings of a plan as a document. -/
def PlanSettings.toJson (s : PlanSettings) : Json :=
  .object [
    ("mode", .string s.mode.name),
    ("global_repeat_count", writeWord32 s.repeatCount),
    ("max_depth", writeWord32 s.maxDepth),
    ("include_comments", .bool s.includeComments),
    ("deterministic_seed", ofOption (fun w => .nat w.toNat) s.seed),
    ("ensure_unique_combinations", .bool s.uniqueCombinations),
    ("max_unbounded_count", writeWord32 s.unboundedCount)]

def ElementRule.toJson (r : ElementRule) : Json :=
  .object [
    ("key", .string r.key),
    ("custom_values", .array (r.customValues.map .string)),
    ("data_context", ofOption .string r.dataContext),
    ("selection", ofOption (fun s => .string s.name) r.selection),
    ("relationship", ofOption .string r.relationship),
    ("repeat_count", ofOption writeWord32 r.repeatCount),
    ("template_source", ofOption .string r.templateSource),
    ("template_field", ofOption .string r.templateField),
    ("choice", ofOption .string r.choice),
    ("nil", .bool r.nil)]

def Constraint.toJson (c : Constraint) : Json :=
  .object [("source", .string c.source), ("fields", .array (c.fields.map .string))]

def Relationship.toJson (r : Relationship) : Json :=
  .object [
    ("id", .string r.id),
    ("strategy", .string r.strategy.name),
    ("fields", .array (r.fields.map .string)),
    ("depends_on", .array (r.dependsOn.map .string)),
    ("after_relationships", .array (r.after.map .string)),
    ("constraints", .array (r.constraints.map Constraint.toJson)),
    ("ensure_unique", .bool r.ensureUnique),
    ("source", ofOption .string r.source),
    ("selection", .string r.selection.name),
    ("priority", .int r.priority.toInt),
    ("field_map", .object (r.fieldMap.mapValues .string).entries),
    ("max_attempts", ofOption writeWord32 r.maxAttempts)]

def Plan.toJson (p : Plan) : Json :=
  .object [
    ("metadata", p.metadata.toJson),
    ("settings", p.settings.toJson),
    ("data_contexts", .object (p.dataContexts.mapValues DataContext.toJson).entries),
    ("relationships", .array (p.relationships.map Relationship.toJson)),
    ("element_configs", .array (p.rules.map ElementRule.toJson)),
    ("overrides", p.overrides.toJson),
    ("field_owners", .object (p.owners.mapValues .string).entries)]

end Specimen
