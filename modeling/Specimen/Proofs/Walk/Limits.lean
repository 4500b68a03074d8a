import Specimen.Proofs.Leaf.Limits
import Specimen.Proofs.Schema.Positions
import Specimen.Walk.Build

/-!
# What the walk does whatever its limits are

Two walks whose setups differ only in their limits leave out the same optional parts, ask for the same numbers
of occurrences, and give attributes and leaves the same values.  Only a step looks at the budget, and only the
recursion guard looks at how types are nested.

Their rules and named types may differ as well, as long as the same rule and the same type is found for what is
built.
-/

namespace Specimen

open Run

namespace Walk

variable (setup : Setup) (v : Variation)

/-! ## Leaves -/

section Leaves

variable (hcatalog : setup.RulesCatalog v)

include hcatalog

theorem attributeValue_vary (htypes : setup.AttributeTypes v) {a : AttributeDecl} {path : String}
    (hrule : setup.Rules v ("@" ++ a.name) path) (scope : Nat) :
    attributeValue (setup.vary v) a path scope = attributeValue setup a path scope := by
  unfold attributeValue
  rw [htypes]
  have hresolve : ∀ facets, Leaf.resolve (setup.vary v) {
      name := "@" ++ a.name, path, facets, fixed := a.fixed, scope := some scope } = _ :=
    fun facets => Leaf.resolve_vary setup v hcatalog hrule
  simp only [hresolve]

theorem leafText_vary {e : Element} {path : String} (hrule : setup.Rules v e.name path) (facets : Facets)
    (scope : Nat) : leafText (setup.vary v) e path facets scope = leafText setup e path facets scope :=
  Leaf.resolve_vary setup v hcatalog hrule

end Leaves

/-! ## Optional parts -/

theorem optionalPresent_vary {name path : String} (hrule : setup.Rules v name path) :
    optionalPresent (setup.vary v) name path = optionalPresent setup name path := by
  unfold optionalPresent
  rw [hrule]
  rfl

theorem buildAttributes_vary (hcatalog : setup.RulesCatalog v) (htypes : setup.AttributeTypes v)
    (owner : String) (scope : Nat) {attributes : List AttributeDecl}
    (hrules : ∀ a ∈ attributes, setup.Rules v ("@" ++ a.name) (owner ++ "/@" ++ a.name)) :
    buildAttributes (setup.vary v) owner scope attributes = buildAttributes setup owner scope attributes := by
  induction attributes with
  | nil => rfl
  | cons a rest ih =>
      have hrule := hrules a List.mem_cons_self
      unfold buildAttributes
      simp only [ih fun b hb => hrules b (List.mem_cons_of_mem _ hb), optionalPresent_vary setup v hrule,
        attributeValue_vary setup v hcatalog htypes hrule]

theorem occurrenceCount_vary {e : Element} {path : String} (hrule : setup.Rules v e.name path)
    (rule : Option ElementRule) (force : Bool) :
    occurrenceCount (setup.vary v) e path rule force = occurrenceCount setup e path rule force := by
  unfold occurrenceCount
  rw [optionalPresent_vary setup v hrule]
  rfl

/-- The same rules are found for elements below a path. -/
abbrev RulesAmong (path : String) (declared : List Element) : Prop :=
  ∀ c ∈ declared, setup.Rules v c.name (joinPath path c.name)

theorem groupPresent_vary (g : Group) {path : String} (hrules : RulesAmong setup v path g.declared) :
    groupPresent (setup.vary v) path g = groupPresent setup path g := by
  let Same (members : List Particle) : Prop :=
    anyPresent (setup.vary v) path members = anyPresent setup path members
  have hall := tree_induction (E := fun _ => True)
    (G := fun g => RulesAmong setup v path g.declared →
      groupPresent (setup.vary v) path g = groupPresent setup path g)
    (P := fun p => RulesAmong setup v path p.declared → ∀ rest, Same rest → Same (p :: rest))
    (fun _ => trivial) (fun _ _ _ => trivial) ?group ?element ?nested
  · exact hall.2.1 g hrules
  case group =>
    intro decl members hmembers hrules
    unfold groupPresent
    have hmember : ∀ p ∈ members, ∀ rest, Same rest → Same (p :: rest) := fun p hp =>
      hmembers p hp fun c hc => hrules c (mem_declaredAmong hp hc)
    clear hmembers hrules
    induction members with
    | nil => rfl
    | cons p rest ih =>
        exact hmember p List.mem_cons_self rest (ih fun q hq => hmember q (List.mem_cons_of_mem _ hq))
  case element =>
    intro e _ hrules rest hrest
    have hrule := hrules e (List.mem_singleton_self e)
    change (optionalPresent (setup.vary v) e.name (joinPath path e.name) || _) = (_ || _)
    rw [hrest, optionalPresent_vary setup v hrule]
  case nested =>
    intro g hg hrules rest hrest
    change (groupPresent _ path g || _) = (_ || _)
    rw [hg hrules, hrest]

theorem groupCount_vary (g : Group) {path : String} (hrules : RulesAmong setup v path g.declared)
    (force : Bool) : groupCount (setup.vary v) g path force = groupCount setup g path force := by
  unfold groupCount
  rw [groupPresent_vary setup v g hrules]
  rfl

/-! ## Choices -/

theorem branchForced_vary (p : Particle) (path : String) :
    branchForced (setup.vary v) path p = branchForced setup path p := by
  have hall := tree_induction (E := fun _ => True)
    (G := fun g => groupForced (setup.vary v) path g = groupForced setup path g)
    (P := fun p => branchForced (setup.vary v) path p = branchForced setup path p)
    (fun _ => trivial) (fun _ _ _ => trivial) ?group (fun _ _ => rfl) (fun _ hg => hg)
  · exact hall.2.2 p
  case group =>
    intro decl members hmembers
    unfold groupForced
    induction members with
    | nil => rfl
    | cons p rest ih =>
        unfold anyForced
        rw [hmembers p List.mem_cons_self, ih fun q hq => hmembers q (List.mem_cons_of_mem _ hq)]

@[simp] theorem plainBranch?_vary (path : String) (branches : List Branch) :
    plainBranch? (setup.vary v) path branches = plainBranch? setup path branches := by
  unfold plainBranch?
  simp only [branchForced_vary]
  rfl

@[simp] theorem chooseFreely_vary (path : String) (branches : List Branch) :
    chooseFreely (setup.vary v) path branches = chooseFreely setup path branches := by
  unfold chooseFreely
  rw [plainBranch?_vary]

/-! ## Comments -/

section Comments

variable (hcomments : v.comments = setup.plan.settings.includeComments)

include hcomments

theorem occurrenceComment_vary (e : Element) (number count : Nat) :
    occurrenceComment (setup.vary v) e number count = occurrenceComment setup e number count := by
  have hsame : (setup.vary v).plan.settings.includeComments = setup.plan.settings.includeComments := hcomments
  unfold occurrenceComment
  rw [hsame]

theorem cutOff_vary (e : Element) (path identity : String) :
    cutOff (setup.vary v) e path identity = cutOff setup e path identity := by
  have hsame : (setup.vary v).plan.settings.includeComments = setup.plan.settings.includeComments := hcomments
  unfold cutOff
  rw [hsame]

end Comments

/-! ## Other limits -/

section Limits

variable (limits : Limits)

theorem buildAttributes_withLimits (owner : String) (scope : Nat) (attributes : List AttributeDecl) :
    buildAttributes (setup.withLimits limits) owner scope attributes =
      buildAttributes setup owner scope attributes :=
  buildAttributes_vary setup { setup.variation with limits } (fun _ _ => rfl) (fun _ => rfl) owner scope
    fun _ _ => rfl

theorem leafText_withLimits (e : Element) (path : String) (facets : Facets) (scope : Nat) :
    leafText (setup.withLimits limits) e path facets scope = leafText setup e path facets scope :=
  leafText_vary setup { setup.variation with limits } (fun _ _ => rfl) rfl facets scope

theorem groupCount_withLimits (g : Group) (path : String) (force : Bool) :
    groupCount (setup.withLimits limits) g path force = groupCount setup g path force :=
  groupCount_vary setup { setup.variation with limits } g (fun _ _ => rfl) force

theorem chooseFreely_withLimits (path : String) (branches : List Branch) :
    chooseFreely (setup.withLimits limits) path branches = chooseFreely setup path branches :=
  chooseFreely_vary setup { setup.variation with limits } path branches

end Limits
end Walk
end Specimen
