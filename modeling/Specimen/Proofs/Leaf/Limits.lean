import Specimen.Leaf.Resolution

/-!
# What values do not depend on

Two setups may differ in how many elements may be built, in whether an unfinished document is kept, in how
deeply types may be nested, in whether comments are written, in the named types, and in what was warned of.  They
may also have different rules, as long as the same rule is found for a leaf and for the leaves that fields stand
for.  Then they give the leaf the same value in the same way.

Relationships look at less of a setup: at themselves and the owners of fields, at the data, and at how often one is
tried.
-/

namespace Specimen

/-- The limits of a walk: how many elements it may build, whether an unfinished document is kept, and how
often a type may be nested in itself, at all and directly. -/
structure Limits where
  steps : UInt64
  allowPartial : Bool
  depth : UInt32
  circular : Option UInt32

/-- What may differ between setups: the limits of the walk, whether comments are written, the named types, the
rules, and what was warned of. -/
structure Variation where
  limits : Limits
  comments : Bool
  types : List TypeDefinition
  rules : List ElementRule
  warnings : List Issue

namespace Setup

def limits (setup : Setup) : Limits where
  steps := setup.options.maxSteps
  allowPartial := setup.options.allowPartial
  depth := setup.plan.settings.maxDepth
  circular := setup.options.circularLimit

/-- A setup with other limits. -/
def withLimits (setup : Setup) (limits : Limits) : Setup :=
  { setup with
    plan := { setup.plan with settings := { setup.plan.settings with maxDepth := limits.depth } }
    options := { setup.options with
      maxSteps := limits.steps
      allowPartial := limits.allowPartial
      circularLimit := limits.circular } }

/-- What a setup has of that in which setups may differ. -/
def variation (setup : Setup) : Variation where
  limits := setup.limits
  comments := setup.plan.settings.includeComments
  types := setup.schema.types
  rules := setup.plan.rules
  warnings := setup.plan.warnings

/-- A setup with comments or without them. -/
def withComments (setup : Setup) (comments : Bool) : Setup :=
  { setup with
    plan := { setup.plan with settings := { setup.plan.settings with includeComments := comments } } }

/-- A setup with other limits, comments, named types, rules and warnings. -/
def vary (setup : Setup) (v : Variation) : Setup :=
  { (setup.withLimits v.limits).withComments v.comments with
    schema := { setup.schema with types := v.types }
    plan := { ((setup.withLimits v.limits).withComments v.comments).plan with
      rules := v.rules
      warnings := v.warnings } }

theorem vary_variation (setup : Setup) : setup.vary setup.variation = setup := rfl

@[simp] theorem vary_index (setup : Setup) (v : Variation) : (setup.vary v).index = setup.index := rfl

/-- A varied setup finds the same types of attributes. -/
abbrev AttributeTypes (setup : Setup) (v : Variation) : Prop :=
  ∀ a, (setup.vary v).schema.resolveAttribute a = setup.schema.resolveAttribute a

/-- A varied setup has the same rule for a name at a path. -/
abbrev Rules (setup : Setup) (v : Variation) (name path : String) : Prop :=
  (setup.vary v).plan.rule? name path = setup.plan.rule? name path

/-- A varied setup has the same rules for all that is in the catalog. -/
abbrev RulesCatalog (setup : Setup) (v : Variation) : Prop :=
  ∀ entry ∈ setup.index.catalog, setup.Rules v entry.name entry.path

end Setup

/-! ## Relationships -/

/-- All that relationships look at in a setup is the same in another one: the relationships and the owners of fields,
the data, and how often a relationship is tried when it does not say so itself. -/
structure Setup.RelatesAlike (setup other : Setup) : Prop where
  relationships : other.plan.relationships = setup.plan.relationships
  owners : other.plan.owners = setup.plan.owners
  contexts : other.contexts = setup.contexts
  attempts : other.options.relationshipAttempts = setup.options.relationshipAttempts

namespace Setup.RelatesAlike

variable {setup other : Setup} (h : setup.RelatesAlike other)

include h

theorem owns_eq : other.plan.owns = setup.plan.owns := by
  funext r field
  unfold Plan.owns
  rw [h.owners]

theorem relationship?_eq : other.plan.relationship? = setup.plan.relationship? := by
  funext id
  unfold Plan.relationship?
  rw [h.relationships]

theorem owner?_eq : other.plan.owner? = setup.plan.owner? := by
  funext field
  unfold Plan.owner?
  rw [h.owners, h.relationship?_eq]

theorem attempts_eq (r : Relationship) : r.attempts other.options = r.attempts setup.options := by
  unfold Relationship.attempts
  rw [h.attempts]

end Setup.RelatesAlike

namespace Relation

section Alike

variable {setup other : Setup} (h : setup.RelatesAlike other) {sources : FieldSources}
  {resolve : String → Run (Option String)}

include h

theorem settleForeign_congr (r : Relationship) (field : String) (fields : List String) :
    settleForeign other resolve r field fields = settleForeign setup resolve r field fields := by
  induction fields with
  | nil => rfl
  | cons f rest ih =>
      unfold settleForeign
      rw [ih, h.owns_eq]

theorem settleOwned_congr (r : Relationship) (fields : List String) :
    settleOwned other resolve r fields = settleOwned setup resolve r fields := by
  induction fields with
  | nil => rfl
  | cons f rest ih =>
      unfold settleOwned
      rw [ih, h.owns_eq]

theorem settleEarlier_congr (ids : List String) :
    settleEarlier other resolve ids = settleEarlier setup resolve ids := by
  induction ids with
  | nil => rfl
  | cons id rest ih =>
      unfold settleEarlier
      simp only [settleOwned_congr h, ih, h.relationship?_eq]

theorem settleDependencies_congr (r : Relationship) (ordinal : Nat) (fields : List String) :
    settleDependencies other sources r ordinal fields = settleDependencies setup sources r ordinal fields := by
  induction fields with
  | nil => rfl
  | cons f rest ih =>
      unfold settleDependencies
      rw [ih, h.owns_eq]

theorem pickPersona_congr (r : Relationship) (records : List Json) (ordinal : Nat) :
    pickPersona other r records ordinal = pickPersona setup r records ordinal := by
  unfold pickPersona
  rw [h.attempts_eq]

theorem constraintValue_congr (r : Relationship) (field : String) (ordinal : Nat) :
    constraintValue other sources resolve r field ordinal = constraintValue setup sources resolve r field ordinal := by
  unfold constraintValue pendingFields
  rw [settleForeign_congr h, h.attempts_eq, h.owns_eq]

theorem valueBy_congr (r : Relationship) (field : String) (ordinal : Nat) :
    valueBy other sources resolve r field ordinal = valueBy setup sources resolve r field ordinal := by
  unfold valueBy personaValue personaOf settleRecord dependentValue
  simp only [constraintValue_congr h, pickPersona_congr h, settleForeign_congr h, settleDependencies_congr h,
    h.owns_eq, h.contexts]

theorem resolveAt_congr (ordinal budget : Nat) :
    resolveAt other sources ordinal budget = resolveAt setup sources ordinal budget := by
  induction budget with
  | zero => rfl
  | succ budget ih =>
      funext field
      unfold resolveAt
      simp only [ih, settleEarlier_congr h, valueBy_congr h, h.owner?_eq]

theorem resolveField_congr (field : String) :
    resolveField other sources field = resolveField setup sources field := by
  unfold resolveField
  simp only [resolveAt_congr h, h.owners]

end Alike

end Relation

variable (setup : Setup) (v : Variation)

/-- Relationships do not see in what setups vary. -/
theorem relatesAlike_vary : setup.RelatesAlike (setup.vary v) := ⟨rfl, rfl, rfl, rfl⟩

/-! ## Leaves -/

namespace Leaf

@[simp] theorem tryPool_vary (q : LeafRequest) (pool : List String)
    (strategy : SelectionStrategy) (source : String) (tries : Nat) (last : Option Refusal) :
    tryPool (setup.vary v) q pool strategy source tries last =
      tryPool setup q pool strategy source tries last := by
  induction tries generalizing last with
  | zero => rfl
  | succ tries ih =>
      unfold tryPool
      simp only [ih]
      rfl

@[simp] theorem tryRecords_vary (q : LeafRequest) (records : List Json) (key path : String)
    (strategy : SelectionStrategy) (tries : Nat) (last : Option Refusal) :
    tryRecords (setup.vary v) q records key path strategy tries last =
      tryRecords setup q records key path strategy tries last := by
  induction tries generalizing last with
  | zero => rfl
  | succ tries ih =>
      unfold tryRecords
      simp only [ih]
      rfl

@[simp] theorem tryGenerator_vary (q : LeafRequest) (g : Generator) (tries : Nat)
    (last : Option (Refusal × Generator)) :
    tryGenerator (setup.vary v) q g tries last =
      tryGenerator setup q g tries last := by
  induction tries generalizing last with
  | zero => rfl
  | succ tries ih =>
      unfold tryGenerator
      simp only [ih]
      rfl

@[simp] theorem tryGenerators_vary (q : LeafRequest) (generators : List Generator)
    (last : Option (Refusal × Generator)) :
    tryGenerators (setup.vary v) q generators last =
      tryGenerators setup q generators last := by
  induction generators generalizing last with
  | nil => rfl
  | cons g rest ih =>
      unfold tryGenerators
      simp only [ih, tryGenerator_vary]
      rfl

@[simp] theorem generate_vary (q : LeafRequest) (source : String) :
    generate (setup.vary v) q source = generate setup q source := by
  unfold generate
  simp only [tryGenerators_vary]
  rfl

theorem fromRule_vary (q : LeafRequest) (rule : ElementRule) :
    fromRule (setup.vary v) q rule = fromRule setup q rule := by
  unfold fromRule fromContexts fromRecords pickFromPool pickFromRecords
  unfold orElse fallBack
  simp only [tryPool_vary, tryRecords_vary, generate_vary]
  rfl

theorem fromSources_vary {q : LeafRequest} (hrule : setup.Rules v q.name q.path) :
    fromSources (setup.vary v) q = fromSources setup q := by
  unfold fromSources
  rw [hrule]
  simp only [fromRule_vary, generate_vary]

@[simp] theorem sample_vary (q : LeafRequest) (g : Generator) (size tries : Nat)
    (found : Array String) :
    sample (setup.vary v) q g size tries found =
      sample setup q g size tries found := by
  induction tries generalizing found with
  | zero => rfl
  | succ tries ih =>
      unfold sample
      simp only [ih]
      rfl

/-! ## Fields -/

variable {setup v} in
/-- The same rule is found for the leaf that a field stands for. -/
theorem rules_fieldEntry (hcatalog : setup.RulesCatalog v) {field : String} {entry : CatalogEntry}
    {facets : Facets} (h : setup.index.fieldEntry? field = some (entry, facets)) :
    setup.Rules v entry.name entry.path := by
  obtain ⟨found, hfound, heq⟩ := List.exists_of_findSome?_eq_some h
  split at heq
  · obtain ⟨_, -, hpair⟩ := Option.map_eq_some_iff.1 heq
    cases hpair
    exact hcatalog _ hfound
  · cases heq

theorem configuredPool_vary {q : LeafRequest} (hrule : setup.Rules v q.name q.path) (r : Relationship) :
    configuredPool (setup.vary v) q r = configuredPool setup q r := by
  unfold configuredPool
  rw [hrule]
  rfl

section Fields

variable (hcatalog : setup.RulesCatalog v)

include hcatalog

theorem independent_vary (field : String) :
    (fieldSources (setup.vary v)).independent field = (fieldSources setup).independent field := by
  unfold fieldSources fieldRequest
  simp only [Setup.vary_index]
  cases hentry : setup.index.fieldEntry? field with
  | none => rfl
  | some found =>
      have hrule := rules_fieldEntry hcatalog hentry
      exact fromSources_vary setup v hrule

theorem candidatePool_vary (field : String) (r : Relationship) :
    candidatePool (setup.vary v) field r = candidatePool setup field r := by
  unfold candidatePool fieldRequest samplePool
  simp only [sample_vary, Setup.vary_index]
  cases hentry : setup.index.fieldEntry? field with
  | none => rfl
  | some found =>
      obtain ⟨entry, facets⟩ := found
      have hrule := rules_fieldEntry hcatalog hentry
      have hpool := configuredPool_vary setup v (q := { name := entry.name, path := entry.path, facets }) hrule r
      simp only [pure_bind, hpool]
      rfl

theorem fieldSelection_vary (field : String) :
    fieldSelection (setup.vary v) field = fieldSelection setup field := by
  unfold fieldSelection
  simp only [Setup.vary_index]
  cases hentry : setup.index.fieldEntry? field with
  | none => rfl
  | some found => simp only [rules_fieldEntry hcatalog hentry]

theorem fieldSources_vary : fieldSources (setup.vary v) = fieldSources setup := by
  have hindependent := funext (independent_vary setup v hcatalog)
  have hpool := funext fun field => funext (candidatePool_vary setup v hcatalog field)
  have hselection := funext (fieldSelection_vary setup v hcatalog)
  change FieldSources.mk (fieldSources (setup.vary v)).independent (candidatePool (setup.vary v))
    (fieldSelection (setup.vary v)) = _
  rw [hindependent, hpool, hselection]
  rfl

theorem resolve_vary {q : LeafRequest} (hrule : setup.Rules v q.name q.path) :
    resolve (setup.vary v) q = resolve setup q := by
  have hdelegate : delegate? (setup.vary v) q = delegate? setup q := by
    unfold delegate?
    rw [hrule]
    rfl
  unfold resolve resolveOpen
  simp only [hdelegate, fromSources_vary setup v hrule, fieldSources_vary setup v hcatalog,
    Relation.resolveField_congr (relatesAlike_vary setup v)]
  rfl

end Fields

end Leaf
end Specimen
