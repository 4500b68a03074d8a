import Specimen.Proofs.Leaf.Steps

/-!
# Whether fields are settled

An accepted configuration settles exactly when no undeclared wait closes a cycle, and then no budget that
exceeds the number of owners runs out.

The check of a configuration looks at declared waits only, so a configuration is accepted although two
fields wait for each other.  Such fields are never settled: whatever the budget, it runs out.
-/

open Relation (ReflTransGen TransGen)

namespace Specimen

open Run

/-- Fields of which each is drawn only after some foreign field, and only after such fields. -/
def Plan.Locked (plan : Plan) (locked : String → Prop) : Prop :=
  ∀ f, locked f → ∃ r, plan.owner? f = some r ∧ r.strategy = .constraintBased ∧ r.after = [] ∧
    (∃ other, plan.ReadsForeign r f other) ∧ ∀ other, plan.ReadsForeign r f other → locked other

theorem Plan.Locked.not_settles {plan : Plan} {locked : String → Prop} (hlocked : plan.Locked locked)
    {field : String} (hfield : locked field) : ¬ plan.Settles := by
  intro hsettles
  induction field using (Plan.settles_iff_wellFounded.1 hsettles).induction with
  | _ field ih =>
      obtain ⟨r, howner, -, -, ⟨other, hreads⟩, hclosed⟩ := hlocked field hfield
      exact ih other ⟨r, howner, .inr hreads⟩ (hclosed other hreads)

namespace Relation

variable {setup : Setup} {sources : FieldSources}

/-! ## Fields that are never settled -/

/-- Settling foreign fields fails when there is one and settling any of them fails. -/
theorem settleForeign_exec_error {resolve : String → Run (Option String)} {r : Relationship}
    {field : String} {fields : List String} {s : RunState} {e : RunError}
    (hresolve : ∀ other ∈ fields, other ≠ field → setup.plan.owns r other = false →
      ∃ t, (resolve other).exec s = (.error e, t))
    (hforeign : ∃ other ∈ fields, other ≠ field ∧ setup.plan.owns r other = false) :
    ∃ t, (settleForeign setup resolve r field fields).exec s = (.error e, t) := by
  induction fields with
  | nil =>
      obtain ⟨other, hother, -⟩ := hforeign
      cases hother
  | cons first rest ih =>
      unfold settleForeign
      by_cases hfirst : first ≠ field ∧ setup.plan.owns r first = false
      · obtain ⟨t, ht⟩ := hresolve first List.mem_cons_self hfirst.1 hfirst.2
        rw [if_pos (by simpa using hfirst)]
        exact ⟨t, exec_bind_of_error ht⟩
      · rw [if_neg (by simpa using hfirst)]
        refine ih (fun other hother => hresolve other (List.mem_cons_of_mem _ hother)) ?_
        obtain ⟨other, hother, hreads⟩ := hforeign
        rcases List.mem_cons.1 hother with rfl | hother
        · exact absurd hreads hfirst
        · exact ⟨other, hother, hreads⟩

/-- Fields that wait only for each other are never settled: every budget runs out. -/
theorem resolveAt_of_locked {locked : String → Prop} (hlocked : setup.plan.Locked locked)
    {ordinal : Nat} (budget : Nat) {s : RunState}
    (hopen : ∀ f, locked f → s.relations.value? f ordinal = none) {field : String}
    (hfield : locked field) :
    ∃ t, (resolveAt setup sources ordinal budget field).exec s =
      (.error (.broken .endlessWait), t) := by
  induction budget generalizing s field with
  | zero => exact ⟨s, rfl⟩
  | succ budget ih =>
      obtain ⟨r, howner, hstrategy, hafter, ⟨other, hother, hne, howns, -⟩, hclosed⟩ :=
        hlocked field hfield
      let counted := { s with report := s.report.countRelationship r.id }
      have hcounted : ∀ f, locked f → counted.relations.value? f ordinal = none := hopen
      obtain ⟨t, ht⟩ := settleForeign_exec_error
        (fun other hother hne howns =>
          ih hcounted (hclosed other ⟨hother, hne, howns, by simp [hstrategy]⟩))
        ⟨other, hother, hne, howns⟩
      refine ⟨t, ?_⟩
      unfold resolveAt
      rw [exec_bind_of_ok (exec_get s), hopen field hfield, howner]
      dsimp only
      have hearlier : (settleEarlier setup (resolveAt setup sources ordinal budget) r.after).exec s =
          (.ok (), s) := by
        rw [hafter]
        rfl
      have hcount : (record (Report.countRelationship r.id)).exec s = (.ok (), counted) := rfl
      have hvalue : (valueBy setup sources (resolveAt setup sources ordinal budget) r field
          ordinal).exec counted = (.error (.broken .endlessWait), t) := by
        unfold valueBy
        rw [hstrategy]
        exact exec_bind_of_error ht
      rw [exec_bind_of_ok hearlier, exec_bind_of_ok hcount]
      exact exec_bind_of_error hvalue

/-! ## Accepted configurations -/

/-- An accepted configuration settles exactly when no undeclared wait closes a cycle.  When it settles, a
field is settled within every budget that exceeds the number of owners. -/
theorem resolution_terminates_iff {c : Config} {plan : Plan} (h : c.compile = .ok plan) :
    (plan.Settles ↔ ∀ field other, plan.WaitsUndeclared field other →
      ¬ ReflTransGen plan.Waits other field) ∧
    (plan.Settles → ∀ setup warnings, setup.plan = { plan with warnings } →
      ∀ ordinal budget field s, plan.owners.size < budget →
        ((resolveAt setup (Leaf.fieldSources setup) ordinal budget field).exec s).1 ≠
          .error (.broken .endlessWait)) := by
  refine ⟨Config.settles_iff_of_compile h, ?_⟩
  intro hsettles setup warnings hplan ordinal budget field s hbudget hrun
  have hacyclic : ∀ f, ¬ TransGen setup.plan.Waits f f := by
    rw [hplan]
    exact Plan.settles_iff_acyclic.1 hsettles
  have hlarge : setup.plan.owners.size < budget := by
    rw [hplan]
    exact hbudget
  have hsteps := resolveAt_takesValueSteps Leaf.fieldSources_supplied .endlessWait ordinal hlarge field
  cases hsteps.fails s _ hrun with
  | endlessWait hcycle =>
      obtain ⟨f, hcycle⟩ := hcycle
      exact hacyclic f hcycle

/-- Two fields that are drawn together. -/
def pairDef : RelationshipDef where
  fields := ["A", "B"]
  strategy := "constraint_based"

/-- A configuration with one relationship. -/
def pairConfig : Config where
  relationships := Dict.empty.insert "pair" pairDef

theorem pairConfig_draft : pairConfig.draft.1.any (·.isError) = false ∧
    pairConfig.draft.2.relationships.map (·.id) = ["pair"] := by
  decide +kernel

theorem resolution_terminates_pair : ∃ plan, pairConfig.compile = .ok plan ∧ plan.Settles ∧
    ∀ setup warnings, setup.plan = { plan with warnings } →
      ∀ ordinal budget field s, plan.owners.size < budget →
        ((resolveAt setup (Leaf.fieldSources setup) ordinal budget field).exec s).1 ≠
          .error (.broken .endlessWait) := by
  obtain ⟨hsound, hids⟩ := pairConfig_draft
  have hcompile := Config.compile_of_sound hsound
  have hid : ∀ r ∈ pairConfig.draft.2.relationships, r.id = "pair" := by
    intro r hr
    have hmem := List.mem_map_of_mem (f := fun r : Relationship => r.id) hr
    rw [hids] at hmem
    exact List.mem_singleton.1 hmem
  obtain ⟨hiff, hbudget⟩ := resolution_terminates_iff hcompile
  have hsettles := hiff.2 fun field other hundeclared _ =>
    Config.not_waitsUndeclared_of_disjoint hcompile
      (fun r hr r' hr' _ _ _ => (hid r hr).trans (hid r' hr').symm) hundeclared
  exact ⟨_, hcompile, hsettles, hbudget hsettles⟩

/-! ## A configuration that never settles -/

/-- A configuration with two relationships of the same fields, each the owner of one of them. -/
def mutualConfig : Config where
  relationships := (Dict.empty.insert "first" pairDef).insert "second" pairDef
  elements := (Dict.empty.insert "A" { relationship := some "first" }).insert "B"
    { relationship := some "second" }

theorem mutualConfig_draft : mutualConfig.draft.1.any (·.isError) = false ∧
    (mutualConfig.draft.2.owner? "A").map (fun r => (r.id, r.strategy, r.fields, r.after)) =
      some ("first", .constraintBased, ["A", "B"], []) ∧
    (mutualConfig.draft.2.owner? "B").map (fun r => (r.id, r.strategy, r.fields, r.after)) =
      some ("second", .constraintBased, ["A", "B"], []) ∧
    mutualConfig.draft.2.owners.entries = [("A", "first"), ("B", "second")] := by
  unfold Config.draft
  dsimp only
  rw [Config.mergeSort_of_inOrder (by decide +kernel)]
  decide +kernel

/-- Each of the two fields waits for the other one only. -/
theorem mutualConfig_locked : mutualConfig.draft.2.Locked fun f => f = "A" ∨ f = "B" := by
  obtain ⟨-, hfirst, hsecond, howners⟩ := mutualConfig_draft
  obtain ⟨first, hownerA, hfirst⟩ := Option.map_eq_some_iff.1 hfirst
  obtain ⟨second, hownerB, hsecond⟩ := Option.map_eq_some_iff.1 hsecond
  simp only [Prod.mk.injEq] at hfirst hsecond
  rintro f (rfl | rfl)
  · refine ⟨first, hownerA, hfirst.2.1, hfirst.2.2.2, ⟨"B", ?_⟩, ?_⟩
    · simp [Plan.ReadsForeign, Plan.owns, Dict.get?, howners, hfirst]
    · intro other hreads
      simpa [hfirst] using hreads.1
  · refine ⟨second, hownerB, hsecond.2.1, hsecond.2.2.2, ⟨"A", ?_⟩, ?_⟩
    · simp [Plan.ReadsForeign, Plan.owns, Dict.get?, howners, hsecond]
    · intro other hreads
      simpa [hsecond] using hreads.1

/-- A configuration is accepted although it does not settle: from every state in which its two fields are
open, whatever the budget, settling them uses it up. -/
theorem resolution_endless : ∃ plan, mutualConfig.compile = .ok plan ∧ ¬ plan.Settles ∧
    ∀ setup warnings, setup.plan = { plan with warnings } → ∀ ordinal budget s,
      (∀ f, f = "A" ∨ f = "B" → s.relations.value? f ordinal = none) →
        ∃ t, (resolveAt setup (Leaf.fieldSources setup) ordinal budget "A").exec s =
          (.error (.broken .endlessWait), t) := by
  refine ⟨_, Config.compile_of_sound mutualConfig_draft.1, mutualConfig_locked.not_settles (.inl rfl), ?_⟩
  intro setup warnings hplan ordinal budget s hopen
  have hlocked : setup.plan.Locked fun f => f = "A" ∨ f = "B" := by
    rw [hplan]
    exact mutualConfig_locked
  exact resolveAt_of_locked hlocked budget hopen (.inl rfl)

end Relation
end Specimen
