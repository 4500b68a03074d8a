import Specimen.Proofs.Relation.Changes
import Specimen.Proofs.Run.Composition
import Specimen.Relation.Resolution

/-!
# How relationships are composed

Settling a field looks at what relationships remember and at the random numbers of the run, and asks the sources
that the fields have by themselves.  A property of composed actions that these sources have, and the picks among the
candidates of a field, is therefore one of whatever settles a field, provided that the taking of records has it.
-/

namespace Specimen

open Run

variable {P : String → SelectionStrategy → Prop} {K : (α : Type) → Run α → Prop} {setup : Setup}
  {sources : FieldSources} {resolve : String → Run (Option String)}

/-- The sources of fields have a property of actions, and dependent fields are picked by certain paths and
strategies. -/
structure FieldSources.Have (sources : FieldSources) (setup : Setup) (P : String → SelectionStrategy → Prop)
    (K : (α : Type) → Run α → Prop) : Prop where
  independent : ∀ field, K String (sources.independent field)
  pool : ∀ field r, K (List String) (sources.pool field r)
  selection : ∀ {field : String} {r : Relationship}, setup.plan.owner? field = some r →
    r.strategy = .dependentValues → P (sources.selection field).1 (sources.selection field).2

/-- Taking a record for an instance has a property of actions, whichever field a persona supplies. -/
def TakesRecords (setup : Setup) (K : (α : Type) → Run α → Prop) : Prop :=
  ∀ {resolve : String → Run (Option String)} {field : String} {r : Relationship} {source : String}
    {records : List Json}, (∀ other, K (Option String) (resolve other)) → setup.plan.owner? field = some r →
      r.strategy = .consistentPersona → r.source = some source → setup.contexts.records source = .ok records →
        ∀ ordinal, K (Option Nat) (Relation.personaOf setup resolve r records field ordinal)

namespace Run.Composable

/-! ## Other fields -/

section Resolve

variable (h : Composable K) (hresolve : ∀ field, K (Option String) (resolve field))

include h hresolve

theorem settleForeign (r : Relationship) (field : String) (fields : List String) :
    K Unit (Relation.settleForeign setup resolve r field fields) := by
  induction fields with
  | nil => exact h.pure _
  | cons other rest ih =>
      unfold Relation.settleForeign
      split
      · exact h.bind (hresolve other) fun _ => ih
      · exact ih

theorem settleOwned (r : Relationship) (fields : List String) :
    K Unit (Relation.settleOwned setup resolve r fields) := by
  induction fields with
  | nil => exact h.pure _
  | cons field rest ih =>
      unfold Relation.settleOwned
      split
      · exact h.bind (hresolve field) fun _ => ih
      · exact ih

theorem settleEarlier (ids : List String) : K Unit (Relation.settleEarlier setup resolve ids) := by
  induction ids with
  | nil => exact h.pure _
  | cons id rest ih =>
      unfold Relation.settleEarlier
      split
      · exact h.bind (h.settleOwned hresolve _ _) fun _ => ih
      · exact ih

end Resolve

/-! ## Records -/

theorem bindings (h : Composable K) (r : Relationship) (ordinal : Nat) :
    K Bindings (Relation.bindings r ordinal) :=
  h.look (fun _ _ => rfl) fun _ => h.pure _

theorem settleRecord (h : Composable K) (r : Relationship) (record : Json) (ordinal : Nat) :
    K Unit (Relation.settleRecord setup r record ordinal) := by
  refine h.relate fun s => .foldl (fun s f => ?_) r.fields s
  split
  · split
    · exact ⟨rfl, rfl⟩
    · exact ⟨rfl, rfl⟩
  · exact ⟨rfl, rfl⟩

theorem personaValue (h : Composable K) {r : Relationship} {field : String} {ordinal : Nat}
    (hpersona : ∀ {source records}, r.source = some source → setup.contexts.records source = .ok records →
      K (Option Nat) (Relation.personaOf setup resolve r records field ordinal)) :
    K (Option String) (Relation.personaValue setup resolve r field ordinal) := by
  unfold Relation.personaValue
  split
  · exact h.pure _
  · rename_i source hsource
    have hsettle : ∀ record, K (Option String) (do
        Relation.settleRecord setup r record ordinal
        return (← get).relations.value? field ordinal) := fun _ =>
      h.bind (h.settleRecord _ _ _) fun _ => h.look (fun _ _ => rfl) fun _ => h.pure _
    cases hrecords : setup.contexts.records source with
    | error e => exact h.throw (.contexts e)
    | ok records =>
        unfold Run.ofContexts
        rw [pure_bind]
        refine h.bind (hpersona hsource hrecords) fun index => ?_
        split
        · exact h.pure _
        · exact hsettle _

/-! ## Values that are drawn together -/

section Sources

variable (h : Composable K) (hsources : sources.Have setup P K)

include h hsources

theorem settleDependencies (r : Relationship) (ordinal : Nat) (fields : List String) :
    K Unit (Relation.settleDependencies setup sources r ordinal fields) := by
  induction fields with
  | nil => exact h.pure _
  | cons field rest ih =>
      unfold Relation.settleDependencies
      refine h.bind (h.look (fun _ _ => rfl) fun _ => h.pure _) fun settled => ?_
      split
      · exact h.bind (hsources.independent field) fun _ => h.bind (h.relate fun _ => ⟨rfl, rfl⟩) fun _ => ih
      · exact ih

theorem drawFields (fields : List String) (bound : Bindings) :
    K Bindings (Relation.drawFields sources fields bound) := by
  induction fields generalizing bound with
  | nil => exact h.pure _
  | cons field rest ih => exact h.bind (hsources.independent field) fun value => ih _

theorem redraw (r : Relationship) (again : List String) (tries : Nat) (bound : Bindings) :
    K Bindings (Relation.redraw sources r again tries bound) := by
  induction tries generalizing bound with
  | zero => exact h.pure _
  | succ tries ih =>
      unfold Relation.redraw
      split
      · exact h.pure _
      · exact h.bind h.retry fun _ => h.bind (h.drawFields hsources _ _) fun next => ih next

theorem constraintValue (hresolve : ∀ field, K (Option String) (resolve field)) (r : Relationship)
    (field : String) (ordinal : Nat) :
    K (Option String) (Relation.constraintValue setup sources resolve r field ordinal) := by
  unfold Relation.constraintValue
  refine h.bind (h.settleForeign hresolve _ _ _) fun _ => ?_
  refine h.look (fun _ _ => rfl) fun s => ?_
  refine h.bind (h.bindings _ _) fun bound => ?_
  refine h.bind (h.drawFields hsources _ _) fun first => ?_
  refine h.bind (h.redraw hsources _ _ _ _) fun last => ?_
  have hsettle : ∀ pending : List String, K (Option String) (do
      Run.relate fun s => pending.foldl (RelationState.settleBy last ordinal) s
      return (← get).relations.value? field ordinal) := by
    intro pending
    refine h.bind (h.relate fun s => .foldl (fun s f => ?_) pending s) fun _ =>
      h.look (fun _ _ => rfl) fun _ => h.pure _
    unfold RelationState.settleBy
    split
    · exact ⟨rfl, rfl⟩
    · exact ⟨rfl, rfl⟩
  dsimp only
  split
  · exact h.bind (h.warn rfl) fun _ => hsettle _
  · exact hsettle _

end Sources
end Run.Composable

namespace Run.Selective

/-! ## Picks -/

theorem tryPersonas (h : Selective P K) {r : Relationship} (hpick : P r.selectionPath r.selection)
    (records : List Json) (candidates : List Nat) (foreign : Bindings) (tries : Nat) :
    K (Option Nat) (Relation.tryRecords r records candidates foreign tries) := by
  induction tries with
  | zero => exact h.pure _
  | succ tries ih =>
      unfold Relation.tryRecords
      refine h.bind (h.pickFrom hpick _) fun picked => ?_
      cases picked with
      | none => exact h.pure _
      | some index =>
          dsimp only
          split
          · exact h.pure _
          · refine h.bind h.retry fun _ => ?_
            split
            · exact h.bind (h.warn rfl) fun _ => h.pure _
            · exact ih

theorem drawDependent (h : Selective P K) (r : Relationship) (bound : Bindings) {field : String}
    (hpick : P (sources.selection field).1 (sources.selection field).2) (pool : List String) :
    K String (Relation.drawDependent sources r bound field pool) := by
  unfold Relation.drawDependent
  refine h.look (fun _ _ => rfl) fun s => ?_
  dsimp only
  refine h.bind (h.pickFrom hpick _) fun picked => ?_
  have hremembered : ∀ (combination : List String) (value : String), K String (do
      Run.relate fun s => s.useCombination r.id combination
      return value) := fun _ _ => h.bind (h.relate fun _ => ⟨rfl, rfl⟩) fun _ => h.pure _
  have hwarned : ∀ bound field, K Unit (Run.warn (r.violationNotice bound field)) := fun _ _ => h.warn rfl
  split
  · split
    · exact h.bind (hwarned _ _) fun _ => hremembered _ _
    · exact h.bind (h.follow rfl) fun _ => hremembered _ _
  · split
    · exact h.bind (hwarned _ _) fun _ => h.pure _
    · exact h.bind (h.follow rfl) fun _ => h.pure _

/-! ## Fields -/

section Sources

variable (h : Selective P K) (hsources : sources.Have setup P K)

include h hsources

theorem dependentValue (hresolve : ∀ field, K (Option String) (resolve field)) {r : Relationship}
    {field : String} (howner : setup.plan.owner? field = some r) (hstrategy : r.strategy = .dependentValues)
    (ordinal : Nat) : K String (Relation.dependentValue setup sources resolve r field ordinal) := by
  unfold Relation.dependentValue
  split
  · exact hsources.independent field
  · refine h.bind (h.settleDependencies hsources _ _ _) fun _ => ?_
    refine h.bind (h.settleForeign hresolve _ _ _) fun _ => ?_
    refine h.bind (h.bindings _ _) fun bound => ?_
    refine h.bind (hsources.pool field r) fun pool => ?_
    split
    · exact hsources.independent field
    · exact h.drawDependent _ _ (hsources.selection howner hstrategy) _

section Records

variable (hrecords : TakesRecords setup K)

include hrecords

theorem valueBy (hresolve : ∀ field, K (Option String) (resolve field)) {r : Relationship} {field : String}
    (howner : setup.plan.owner? field = some r) (ordinal : Nat) :
    K (Option String) (Relation.valueBy setup sources resolve r field ordinal) := by
  unfold Relation.valueBy
  cases hstrategy : r.strategy with
  | consistentPersona =>
      exact h.personaValue fun hsource hfound => hrecords hresolve howner hstrategy hsource hfound ordinal
  | dependentValues =>
      exact h.bind (h.dependentValue hsources hresolve howner hstrategy _) fun _ => h.pure _
  | constraintBased => exact h.constraintValue hsources hresolve _ _ _

theorem resolveAt (ordinal budget : Nat) (field : String) :
    K (Option String) (Relation.resolveAt setup sources ordinal budget field) := by
  -- the fields that have to be settled before are asked for with one less in the budget
  induction budget generalizing field with
  | zero => exact h.throw _
  | succ budget ih =>
      unfold Relation.resolveAt
      refine h.look (fun _ _ => rfl) fun s => ?_
      split
      · exact h.pure _
      · split
        · exact h.pure _
        · rename_i r howner
          refine h.bind (h.settleEarlier ih _) fun _ => ?_
          refine h.bind (h.relationship _) fun _ => ?_
          refine h.bind (h.valueBy hsources hrecords ih howner _) fun value => ?_
          split
          · exact h.bind (h.relate fun _ => ⟨rfl, rfl⟩) fun _ => h.pure _
          · exact h.pure _

/-- Settling a field has a property of composed actions if the sources of fields and the taking of records have
it. -/
theorem resolveField (field : String) :
    K (Option String) (Relation.resolveField setup sources field) :=
  h.bind (h.modifyGet (fun _ _ => rfl) (fun _ => ⟨⟨rfl, rfl⟩, rfl⟩) fun _ => ⟨rfl, rfl⟩) fun ordinal =>
    h.resolveAt hsources hrecords ordinal _ field

end Records
end Sources
end Run.Selective

/-! ## Records -/

/-- Whatever a relationship does with records has a property of actions. -/
structure Relationship.HandlesRecords (r : Relationship) (K : (α : Type) → Run α → Prop) : Prop where
  forget : K Unit (relate fun s => s.forgetRecords r.id)
  exhausted : ∀ count, K Unit (warn (r.exhaustedNotice count))
  use : ∀ index, K Unit (relate fun s => s.useRecord r.id index)
  picked : ∀ ordinal index, K Unit (follow (.picked r.id ordinal index))
  remember : ∀ ordinal index, K Unit (relate fun s => s.setPersona r.id ordinal index)

section Records

variable {r : Relationship} (hr : r.HandlesRecords K)

include hr

namespace Relationship.HandlesRecords

theorem personaCandidates (h : Composable K) (records : List Json) :
    K (List Nat) (Relation.personaCandidates r records) := by
  have hunused : K (List Nat) (do
      let used := (← get).relations.recordsUsed r.id
      return (List.range records.length).filter fun i => !used.contains i) :=
    h.look (fun _ _ => rfl) fun _ => h.pure _
  unfold Relation.personaCandidates
  dsimp only
  split
  · exact h.pure _
  · refine h.look (fun _ _ => rfl) fun s => ?_
    split
    · exact h.bind hr.forget fun _ => h.bind (hr.exhausted _) fun _ => hunused
    · exact hunused

variable (h : Selective P K) (hpick : P r.selectionPath r.selection)

include h hpick

theorem pickPersona (records : List Json) (ordinal : Nat) :
    K (Option Nat) (Relation.pickPersona setup r records ordinal) := by
  unfold Relation.pickPersona
  split
  · exact h.bind (h.warn rfl) fun _ => h.pure _
  · refine h.bind (hr.personaCandidates h.toComposable _) fun candidates => ?_
    refine h.bind (h.bindings _ _) fun foreign => ?_
    refine h.bind (h.tryPersonas hpick _ _ _ _) fun chosen => ?_
    cases chosen with
    | none => exact h.pure _
    | some index =>
        have hpicked : K (Option Nat) (do
            Run.follow (.picked r.id ordinal index)
            return some index) := h.bind (hr.picked _ _) fun _ => h.pure _
        dsimp only
        split
        · exact h.bind (hr.use _) fun _ => hpicked
        · exact hpicked

theorem personaOf (hresolve : ∀ field, K (Option String) (resolve field)) (records : List Json) (field : String)
    (ordinal : Nat) : K (Option Nat) (Relation.personaOf setup resolve r records field ordinal) := by
  refine h.look (fun _ _ => rfl) fun s => ?_
  split
  · exact h.pure _
  · refine h.bind (h.settleForeign hresolve _ _ _) fun _ => ?_
    exact h.bind (hr.pickPersona h hpick _ _) fun index => h.bind (hr.remember _ _) fun _ => h.pure _

end Relationship.HandlesRecords
end Records

/-- Records make no difference to an unrestricted property. -/
theorem Run.Unrestricted.takesRecords (h : Unrestricted K) : TakesRecords setup K := by
  intro resolve field r source records hresolve _ _ _ _ ordinal
  have hr : r.HandlesRecords K := ⟨h.relate _, fun _ => h.warn _, fun _ => h.relate _, fun _ _ => h.follow _,
    fun _ _ => h.relate _⟩
  exact hr.personaOf (h.selective AnyPick) trivial hresolve records field ordinal

end Specimen
