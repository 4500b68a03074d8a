import Specimen.Leaf.Resolution
import Specimen.Proofs.Relation.Composition

/-!
# How leaves are composed

The value of a leaf comes from its sources in order, or from its relationship.  A property of composed actions is
one of whatever finds the value, if it is one of generating: for the sources a generated value is either the first
choice, or a fallback.  It also has to be one of the picks that are made for the leaf, and for the fields that
relationships supply.
-/

namespace Specimen

open Run

variable {P : String → SelectionStrategy → Prop} {K : (α : Type) → Run α → Prop} {setup : Setup}

/-- Generating has a property of actions, in the first place and as a fallback. -/
structure Leaf.Generates (setup : Setup) (K : (α : Type) → Run α → Prop) : Prop where
  generate : ∀ q, K String (Leaf.generate setup q "generator")
  fallBack : ∀ q source reason, K String (Leaf.fallBack setup q source reason)

/-- The strategies by which the sources of a leaf are picked from. -/
inductive Leaf.Selects (setup : Setup) (name path : String) : SelectionStrategy → Prop where
  | customValues {rule : ElementRule} (hrule : setup.plan.rule? name path = some rule)
      (hvalues : rule.customValues ≠ []) : Selects setup name path (rule.selection.getD .sequential)
  | dataContext {rule : ElementRule} {source : String} (hrule : setup.plan.rule? name path = some rule)
      (hsource : rule.dataContext = some source) : Selects setup name path (rule.selection.getD .random)
  | template {rule : ElementRule} {source : String} (hrule : setup.plan.rule? name path = some rule)
      (hsource : rule.templateSource = some source) : Selects setup name path (rule.selection.getD .template)

/-- The picks for the fields that relationships supply are by certain paths and strategies. -/
structure Leaf.PicksFields (setup : Setup) (P : String → SelectionStrategy → Prop) : Prop where
  sources : ∀ {field : String} {entry : CatalogEntry} {facets : Facets} {strategy : SelectionStrategy},
    setup.index.fieldEntry? field = some (entry, facets) → Leaf.Selects setup entry.name entry.path strategy →
      P entry.path strategy
  drawn : ∀ {field : String} {r : Relationship}, setup.plan.owner? field = some r → r.strategy = .dependentValues →
    P (Leaf.fieldSelection setup field).1 (Leaf.fieldSelection setup field).2

theorem Leaf.PicksFields.any : Leaf.PicksFields setup AnyPick := ⟨fun _ _ => trivial, fun _ _ => trivial⟩

namespace Run.Composable

/-! ## Values that are kept -/

theorem markUsed (h : Composable K) (q : LeafRequest) (value : String) :
    K Unit (Leaf.markUsed setup q value) := by
  unfold Leaf.markUsed
  split
  · split
    · exact h.modify (fun _ _ => rfl) (fun _ => .of_eq rfl rfl) fun _ => ⟨rfl, rfl⟩
    · exact h.pure ()
  · exact h.pure ()

theorem keep (h : Composable K) (q : LeafRequest) {source : String} (hsource : IsGiven source)
    (value : String) : K Unit (Leaf.keep setup q source value) :=
  h.bind (h.markUsed q value) fun _ => h.value hsource

theorem settle (h : Composable K) (q : LeafRequest) {source : String} (hsource : IsGiven source)
    (last : Option Refusal) : K Picked (Leaf.settle setup q source last) := by
  unfold Leaf.settle
  split
  · exact h.pure _
  · split
    · exact h.pure _
    · exact h.bind (h.warn rfl) fun _ => h.bind (h.keep q hsource _) fun _ => h.pure _

/-! ## Generated values -/

theorem tryGenerator (h : Composable K) (q : LeafRequest) (g : Generator) (tries : Nat)
    (last : Option (Refusal × Generator)) :
    K Leaf.Generated (Leaf.tryGenerator setup q g tries last) := by
  induction tries generalizing last with
  | zero => exact h.pure _
  | succ tries ih =>
      unfold Leaf.tryGenerator
      refine h.bind (h.attempt _) fun made => ?_
      split
      · exact h.bind (h.warn rfl) fun _ => h.pure _
      · refine h.look (fun _ _ => rfl) fun s => ?_
        split
        · exact h.pure _
        · exact h.bind h.retry fun _ => ih _

theorem tryGenerators (h : Composable K) (q : LeafRequest) (generators : List Generator)
    (last : Option (Refusal × Generator)) :
    K Leaf.Generated (Leaf.tryGenerators setup q generators last) := by
  induction generators generalizing last with
  | nil => exact h.pure _
  | cons g rest ih =>
      unfold Leaf.tryGenerators
      refine h.bind (h.tryGenerator q g _ last) fun made => ?_
      split
      · exact h.pure _
      · exact ih _

theorem anyText (h : Composable K) (q : LeafRequest) : K String (Leaf.anyText setup q) := by
  refine h.bind (h.attempt _) fun made => ?_
  split
  · exact h.pure _
  · exact h.pure _

/-- Generating ends when a value is kept, so a property that this has is one of generating if it goes back over what
has been done before. -/
theorem generate (h : Composable K) (E : Run String → Prop)
    (hbefore : ∀ {α : Type} {m : Run α} {f : α → Run String}, K α m → (∀ a, E (f a)) → E (m >>= f))
    {q : LeafRequest} {source : String}
    (hfinish : ∀ generator value, E (Leaf.finish setup q generator source value)) :
    E (Leaf.generate setup q source) := by
  unfold Leaf.generate
  refine hbefore (h.tryGenerators q _ none) fun made => ?_
  split
  · exact hfinish _ _
  · split
    · rw [pure_bind]
      exact hbefore (h.warn rfl) fun _ => hfinish _ _
    · simp only [pure_bind]
      exact hbefore (h.anyText q) fun _ => hbefore (h.warn rfl) fun _ => hfinish _ _

/-- Generating has a property of composed actions that is one of whatever is counted. -/
theorem generates (h : Composable K)
    (hrecord : ∀ {change : Report → Report}, Report.SparesWarnings change → K Unit (record change)) :
    Leaf.Generates setup K := by
  have hgenerate : ∀ q source, K String (Leaf.generate setup q source) := fun q source =>
    h.generate (K String) h.bind fun _ value =>
      h.bind (h.markUsed q value) fun _ => h.bind (hrecord fun _ _ _ => rfl) fun _ => h.pure value
  constructor
  case generate => exact fun q => hgenerate q _
  case fallBack =>
    exact fun q _ _ => h.bind (hrecord fun _ _ _ => rfl) fun _ => h.bind (h.warn rfl) fun _ => hgenerate q _

theorem orElse (h : Composable K) (hgenerates : Leaf.Generates setup K) (q : LeafRequest) (source : String)
    {next : Run String} (hnext : K String next) (picked : Picked) :
    K String (Leaf.orElse setup q source next picked) := by
  cases picked with
  | value text => exact h.pure text
  | refused reason => exact hgenerates.fallBack q source reason
  | empty => exact hnext

/-! ## Fields of relationships -/

theorem fieldRequest (h : Composable K) (field : String) : K LeafRequest (Leaf.fieldRequest setup field) := by
  unfold Leaf.fieldRequest
  split
  · exact h.pure _
  · exact h.throw _

theorem sample (h : Composable K) (q : LeafRequest) (g : Generator) (size tries : Nat)
    (found : Array String) : K (List String) (Leaf.sample setup q g size tries found) := by
  induction tries generalizing found with
  | zero => exact h.pure _
  | succ tries ih =>
      unfold Leaf.sample
      split
      · exact h.pure _
      · refine h.bind (h.attempt _) fun made => ?_
        split
        · exact ih _
        · exact ih _

theorem configuredPool (h : Composable K) (q : LeafRequest) (r : Relationship) :
    K (List String) (Leaf.configuredPool setup q r) := by
  unfold Leaf.configuredPool
  dsimp only
  split
  · split
    · exact h.pure _
    · split
      · exact h.ofContexts _
      · exact h.pure _
  · exact h.pure _

theorem candidatePool (h : Composable K) (field : String) (r : Relationship) :
    K (List String) (Leaf.candidatePool setup field r) := by
  unfold Leaf.candidatePool
  refine h.bind (h.fieldRequest field) fun q => ?_
  refine h.bind (h.configuredPool q r) fun configured => ?_
  split
  · exact h.bind (h.sample q _ _ _ _) fun _ => h.pure _
  · exact h.pure _

theorem keepRelated (h : Composable K) (q : LeafRequest) (field value : String) :
    K Unit (Leaf.keepRelated setup q field value) := by
  have hkept : K Unit (Leaf.keep setup q "relationship" value) := h.keep q ⟨by decide, by decide⟩ value
  unfold Leaf.keepRelated
  split
  · exact hkept
  · exact h.bind (h.warn rfl) fun _ => hkept

end Run.Composable

namespace Run.Selective

/-! ## Picks -/

theorem isGiven_template : IsGiven "template" := ⟨by decide, by decide⟩

section Picks

variable (h : Selective P K) {q : LeafRequest}

include h

theorem tryPool {strategy : SelectionStrategy} (hpick : P q.path strategy) (pool : List String) {source : String}
    (hsource : IsGiven source) (tries : Nat) (last : Option Refusal) :
    K Picked (Leaf.tryPool setup q pool strategy source tries last) := by
  induction tries generalizing last with
  | zero => exact h.settle q hsource last
  | succ tries ih =>
      unfold Leaf.tryPool
      refine h.bind (h.pickFrom hpick _) fun picked => ?_
      split
      · exact h.settle q hsource last
      · refine h.look (fun _ _ => rfl) fun s => ?_
        split
        · exact h.bind (h.keep q hsource _) fun _ => h.pure _
        · exact h.bind h.retry fun _ => ih _

theorem pickFromPool {pool : List String} {strategy : SelectionStrategy} (hpick : pool ≠ [] → P q.path strategy)
    {source : String} (hsource : IsGiven source) : K Picked (Leaf.pickFromPool setup q pool strategy source) := by
  unfold Leaf.pickFromPool
  split
  · exact h.pure _
  · rename_i hpool
    exact h.tryPool (hpick fun hempty => hpool (List.isEmpty_iff.2 hempty)) pool hsource _ none

theorem tryRecords {strategy : SelectionStrategy} (hpick : P q.path strategy) (records : List Json)
    (key path : String) (tries : Nat) (last : Option Refusal) :
    K Picked (Leaf.tryRecords setup q records key path strategy tries last) := by
  induction tries generalizing last with
  | zero => exact h.settle q isGiven_template last
  | succ tries ih =>
      unfold Leaf.tryRecords
      refine h.bind (h.pickFrom hpick _) fun picked => ?_
      split
      · exact h.settle q isGiven_template last
      · split
        · exact h.bind (h.warn rfl) fun _ => h.pure _
        · refine h.look (fun _ _ => rfl) fun s => ?_
          split
          · exact h.bind (h.keep q isGiven_template _) fun _ => h.pure _
          · exact h.bind h.retry fun _ => ih _

theorem pickFromRecords {rule : ElementRule} (hpick : P q.path (rule.selection.getD .template)) (path : String) :
    K Picked (Leaf.pickFromRecords setup q rule path) := by
  unfold Leaf.pickFromRecords
  refine h.bind (h.ofContexts _) fun records => ?_
  split
  · exact h.pure _
  · exact h.tryRecords hpick records _ path _ none

end Picks

/-! ## Sources in order -/

section Generates

variable (h : Selective P K) (hgenerates : Leaf.Generates setup K)

include h hgenerates

section Sources

variable {q : LeafRequest}
  (hpicks : ∀ {strategy : SelectionStrategy}, Leaf.Selects setup q.name q.path strategy → P q.path strategy)

include hpicks

theorem fromRecords {rule : ElementRule} (hrule : setup.plan.rule? q.name q.path = some rule) :
    K String (Leaf.fromRecords setup q rule) := by
  unfold Leaf.fromRecords
  split
  · rename_i source hsource
    exact h.bind (h.pickFromRecords (hpicks (.template hrule hsource)) source) fun _ =>
      h.orElse hgenerates q _ (hgenerates.generate q) _
  · exact hgenerates.generate q

theorem fromContexts {rule : ElementRule} (hrule : setup.plan.rule? q.name q.path = some rule) :
    K String (Leaf.fromContexts setup q rule) := by
  unfold Leaf.fromContexts
  split
  · rename_i source hsource
    exact h.bind (h.ofContexts _) fun pool =>
      h.bind (h.pickFromPool (fun _ => hpicks (.dataContext hrule hsource)) ⟨by decide, by decide⟩) fun _ =>
        h.orElse hgenerates q _ (h.fromRecords hgenerates hpicks hrule) _
  · exact h.fromRecords hgenerates hpicks hrule

theorem fromSources : K String (Leaf.fromSources setup q) := by
  unfold Leaf.fromSources
  split
  · rename_i rule hrule
    exact h.bind (h.pickFromPool (fun hvalues => hpicks (.customValues hrule hvalues)) ⟨by decide, by decide⟩)
      fun _ => h.orElse hgenerates q _ (h.fromContexts hgenerates hpicks hrule) _
  · exact hgenerates.generate q

end Sources

/-! ## Leaves -/

section Fields

variable (hfields : Leaf.PicksFields setup P)

include hfields

theorem independent (field : String) : K String ((Leaf.fieldSources setup).independent field) := by
  unfold Leaf.fieldSources Leaf.fieldRequest
  dsimp only
  split
  · rename_i hentry
    rw [pure_bind]
    exact h.fromSources hgenerates fun hselects => hfields.sources hentry hselects
  · exact h.throw _

theorem fieldSources : (Leaf.fieldSources setup).Have setup P K where
  independent := h.independent hgenerates hfields
  pool := h.candidatePool
  selection := hfields.drawn

/-- Finding the value of a leaf has a property of composed actions if generating, the taking of records and the picks
for the leaf have it. -/
theorem resolve (hrecords : TakesRecords setup K) {q : LeafRequest}
    (hpicks : ∀ {strategy : SelectionStrategy}, Leaf.Selects setup q.name q.path strategy → P q.path strategy) :
    K String (Leaf.resolve setup q) := by
  unfold Leaf.resolve Leaf.resolveOpen
  split
  · exact h.bind (h.value ⟨by decide, by decide⟩) fun _ => h.pure _
  · split
    · exact h.fromSources hgenerates hpicks
    · refine h.bind (h.resolveField (h.fieldSources hgenerates hfields) hrecords _) fun found => ?_
      split
      · exact h.bind (h.keepRelated q _ _) fun _ => h.pure _
      · exact h.fromSources hgenerates hpicks

end Fields
end Generates
end Run.Selective
end Specimen
