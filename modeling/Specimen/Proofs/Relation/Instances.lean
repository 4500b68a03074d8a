import Specimen.Proofs.Plan.Consistency
import Specimen.Proofs.Relation.Coherence

/-!
# What calls promise

A call for a dependent field draws it as well as its candidates allow.  A call for a field that is drawn together
with others settles all that its relationship owns in the instance: those that others depend on keep their first
draw, what was there before is kept, and the report is told of the values that are there afterwards exactly when they
violate a constraint.
-/

namespace Specimen

open Run

namespace Relation

variable {setup : Setup} {sources : FieldSources} {resolve : String → Run (Option String)} {r : Relationship}
  {field : String} {ordinal : Nat} {s s' : RunState}

/-! ## Dependent values -/

/-- A call for a dependent field that no other one depends on settles those that it depends on and then the foreign
ones, and it asks for candidates.  From candidates it draws as is promised of draws, with the values beside it that
are there by then. -/
theorem dependentValue_drawsFitting (setup : Setup) (sources : FieldSources) (hsources : KeepRelations sources)
    (resolve : String → Run (Option String)) (r : Relationship) (field : String) (ordinal : Nat)
    (hdependent : field ∉ r.dependsOn) {s s' : RunState} {v : String}
    (h : (dependentValue setup sources resolve r field ordinal).exec s = (.ok v, s')) :
    ∃ t u pool w, (settleDependencies setup sources r ordinal r.dependsOn).exec s = (.ok (), t) ∧
      (settleForeign setup resolve r field r.fields).exec t = (.ok (), u) ∧
      (sources.pool field r).exec u = (.ok pool, w) ∧ w.relations = u.relations ∧
      (pool ≠ [] → DrawsFitting r (u.relations.bindings r ordinal) field pool w v s') := by
  obtain ⟨t, u, pool, w, hdependencies, hforeign, hpool, -, hdraws⟩ := dependentValue_stages hdependent h
  exact ⟨t, u, pool, w, hdependencies, hforeign, hpool, hsources.pool hpool, fun hne =>
    drawDependent_drawsFitting hne (hdraws hne)⟩

/-- Sources that have one value and the same candidates for all fields. -/
def fixedSources (value : String) (candidates : List String) : FieldSources where
  independent _ := pure value
  pool _ _ := pure candidates
  selection field := (field, .random)

theorem fixedSources_keepRelations (value : String) (candidates : List String) :
    KeepRelations (fixedSources value candidates) where
  independent h := by rw [(exec_pure_eq_ok.1 h).2]
  pool h := by rw [(exec_pure_eq_ok.1 h).2]

/-- One has to arrive at the harbour. -/
def toHarbour : Constraint where
  source := "To == 'harbour'"
  expr := .binary .eq (.field "To") (.text "harbour")
  fields := ["To"]

/-- A transfer to the harbour from somewhere else. -/
def transfer : Relationship where
  id := "transfer"
  strategy := .dependentValues
  fields := ["From", "To"]
  dependsOn := ["From"]
  constraints := [toHarbour]
  ensureUnique := true

/-- The setup of a run for a transfer. -/
def transferSetup : Setup where
  schema := { version := "1", elements := [] }
  plan := {
    relationships := [transfer]
    owners := (Dict.empty.insert "From" "transfer").insert "To" "transfer" }

theorem fixedSources_supplied {setup : Setup} (hnone : ∀ r ∈ setup.plan.relationships, r.source = none)
    (value : String) (candidates : List String) :
    Supplied setup (fixedSources value candidates) fun _ => False where
  independent _ _ := .pure _
  pool _ _ _ _ := .pure _
  records r hr path e hsource _ := by
    rw [hnone r hr] at hsource
    cases hsource

theorem fits_transfer (bound : Bindings) {v : String} (hv : v ∈ ["station", "harbour"]) :
    transfer.Fits bound "To" v ↔ v = "harbour" := by
  have hagree : Bindings.AgreeOn toHarbour.fields (bound.insert "To" v) (Dict.empty.insert "To" v) := by
    intro f hf
    rw [List.mem_singleton.1 hf, Dict.get?_insert, Dict.get?_insert, if_pos rfl, if_pos rfl]
  have hlists : toHarbour.ListsFields := fun _ => Iff.rfl
  have hknown : ∀ v ∈ ["station", "harbour"],
      (!(toHarbour.check (Dict.empty.insert "To" v)).isViolated) = decide (v = "harbour") := by decide +kernel
  change (toHarbour :: []).all _ = true ↔ _
  rw [List.all_cons, List.all_nil, Bool.and_true, Constraint.check_congr hlists hagree, hknown v hv,
    decide_eq_true_iff]

theorem dependentValue_drawsFitting_transfer : ∃ s' t u w,
    (dependentValue transferSetup (fixedSources "station" ["station", "harbour"]) (fun _ => pure none) transfer "To"
      0).exec (.start 0 {}) = (.ok "harbour", s') ∧
    (settleDependencies transferSetup (fixedSources "station" ["station", "harbour"]) transfer 0 ["From"]).exec
      (.start 0 {}) = (.ok (), t) ∧
    (settleForeign transferSetup (fun _ => pure none) transfer "To" ["From", "To"]).exec t = (.ok (), u) ∧
    DrawsFitting transfer (u.relations.bindings transfer 0) "To" ["station", "harbour"] w "harbour" s' := by
  have hcall : TakesValueSteps (fun _ => False) (dependentValue transferSetup
      (fixedSources "station" ["station", "harbour"]) (fun _ => pure none) transfer "To" 0) :=
    dependentValue_takesValueSteps
      (fixedSources_supplied (fun r hr => by rw [List.mem_singleton.1 hr]; rfl) "station" ["station", "harbour"])
      (List.mem_singleton_self transfer) (fun _ _ _ _ _ => .pure none) (by decide) 0
  obtain ⟨v, s', h⟩ := hcall.returns (.start 0 {})
  obtain ⟨t, u, pool, w, hdependencies, hforeign, hpool, -, hdraws⟩ :=
    dependentValue_drawsFitting transferSetup (fixedSources "station" ["station", "harbour"])
      (fixedSources_keepRelations _ _) (fun _ => pure none) transfer "To" 0 (by decide) h
  obtain ⟨rfl, -⟩ := exec_pure_eq_ok.1 hpool
  have hdrawn := hdraws (List.cons_ne_nil _ _)
  have hfits := (hdrawn.fits ⟨"harbour", by decide, (fits_transfer _ (by decide)).2 rfl⟩).1
  obtain rfl := (fits_transfer _ hdrawn.member).1 hfits
  exact ⟨s', t, u, w, h, hdependencies, hforeign, hdrawn⟩

/-! ## Values that are drawn together -/

/-- Fields were drawn one after the other, each from its own source. -/
inductive DrawnInTurn (sources : FieldSources) : List (String × String) → RunState → RunState → Prop where
  | nil {s : RunState} : DrawnInTurn sources [] s s
  | cons {f v : String} {rest : List (String × String)} {s t u : RunState}
      (hfirst : (sources.independent f).exec s = (.ok v, t)) (hrest : DrawnInTurn sources rest t u) :
      DrawnInTurn sources ((f, v) :: rest) s u

/-- Fields are drawn in turn, and each that occurs once has the value that was drawn for it. -/
theorem drawFields_eq_ok {fields : List String} (hnodup : fields.Nodup) {bound b : Bindings}
    (h : (drawFields sources fields bound).exec s = (.ok b, s')) :
    ∃ draws, DrawnInTurn sources draws s s' ∧ draws.map (·.1) = fields ∧
      ∀ draw ∈ draws, b.get? draw.1 = some draw.2 := by
  induction fields generalizing bound s with
  | nil =>
      obtain ⟨-, rfl⟩ := exec_pure_eq_ok.1 h
      exact ⟨[], .nil, rfl, List.forall_mem_nil _⟩
  | cons f rest ih =>
      obtain ⟨hfresh, hrest⟩ := List.nodup_cons.1 hnodup
      obtain ⟨v, t, hfirst, h⟩ := exec_bind_eq_ok.1 h
      obtain ⟨draws, hdraws, hfields, hvalues⟩ := ih hrest h
      refine ⟨(f, v) :: draws, .cons hfirst hdraws, by rw [List.map_cons, hfields],
        List.forall_mem_cons.2 ⟨?_, hvalues⟩⟩
      rw [(drawFields_returns _ _ _ h).2 f hfresh, Dict.get?_insert, if_pos rfl]

/-- Fields were drawn again, any number of times.  Each time a retry is counted, and whatever else is reported comes
from the sources of the fields. -/
inductive DrawnAgain (sources : FieldSources) (fields : List String) : RunState → RunState → Prop where
  | done {s : RunState} : DrawnAgain sources fields s s
  | again {draws : List (String × String)} {s t u : RunState} (hfields : draws.map (·.1) = fields)
      (hdraws : DrawnInTurn sources draws { s with report := s.report.countRetry } t)
      (hrest : DrawnAgain sources fields t u) : DrawnAgain sources fields s u

theorem redraw_eq_ok {again : List String} (hnodup : again.Nodup) {tries : Nat} {bound b : Bindings}
    (h : (redraw sources r again tries bound).exec s = (.ok b, s')) : DrawnAgain sources again s s' := by
  induction tries generalizing bound s with
  | zero =>
      obtain ⟨-, rfl⟩ := exec_pure_eq_ok.1 h
      exact .done
  | succ tries ih =>
      unfold redraw at h
      split at h
      · obtain ⟨-, rfl⟩ := exec_pure_eq_ok.1 h
        exact .done
      · obtain ⟨⟨⟩, t, hcounted, h⟩ := exec_bind_eq_ok.1 h
        cases hcounted
        obtain ⟨next, u, hdrawn, h⟩ := exec_bind_eq_ok.1 h
        obtain ⟨draws, hdraws, hfields, -⟩ := drawFields_eq_ok hnodup hdrawn
        exact .again hfields hdraws (ih h)

/-- What is promised of a relationship whose fields were drawn together in an instance: `draws` are the first draws, up
to the state `u`, and `w` is the state after the last one. -/
structure SettlesInstance (setup : Setup) (sources : FieldSources) (r : Relationship) (ordinal : Nat)
    (draws : List (String × String)) (s u w s' : RunState) : Prop where
  settled : ∀ f, setup.plan.owner? f = some r → (s'.relations.value? f ordinal).isSome
  kept : ∀ f v, s.relations.value? f ordinal = some v → s'.relations.value? f ordinal = some v
  firstDraws : ∀ draw ∈ draws, draw.1 ∈ r.dependsOn → s'.relations.value? draw.1 ordinal = some draw.2
  /-- Fields that others depend on are not drawn again, and drawing the others again reports nothing itself. -/
  redrawn : DrawnAgain sources ((draws.map (·.1)).filter fun f => !r.dependsOn.contains f) u w
  reported : (∃ c ∈ r.constraints, c.check (s'.relations.bindings r ordinal) = .violated) →
    w.Reports [r.violationNotice (s'.relations.bindings r ordinal) none] s'
  silent : (∀ c ∈ r.constraints, c.check (s'.relations.bindings r ordinal) ≠ .violated) → w.Reports [] s'

/-- What was drawn last, with what was there before, is what the relationship remembers afterwards. -/
theorem DrawsTogether.bindings_eq {t u w : RunState} {first last : Bindings}
    (h : DrawsTogether setup sources resolve r field ordinal s t u w s' first last)
    {K : RunState → RunState → Prop} (hsources : LeavesAlone K setup sources) :
    s'.relations.bindings r ordinal = last := by
  refine Dict.ext_get? fun f => ?_
  rw [RelationState.get?_bindings]
  by_cases hf : f ∈ r.fields
  · rw [if_pos hf, h.value?_eq hsources hf]
  · have hother : f ∉ pendingFields setup t.relations r ordinal := fun hpending =>
      hf (mem_pendingFields.1 hpending).1
    rw [if_neg hf, h.get?_last.2 f hother, RelationState.get?_bindings, if_neg hf]

theorem constraintValue_settlesInstance {c : Config} {plan : Plan} (hcompile : c.compile = .ok plan)
    (setup : Setup) (warnings : List Issue) (hplan : setup.plan = { plan with warnings }) (sources : FieldSources)
    (hsources : KeepRelations sources) (r : Relationship) (hr : r ∈ setup.plan.relationships) (field : String)
    (ordinal budget : Nat) {s s' : RunState} {value : Option String}
    (h : (constraintValue setup sources (resolveAt setup sources ordinal budget) r field ordinal).exec s =
      (.ok value, s')) :
    ∃ t u w draws first last, DrawsTogether setup sources (resolveAt setup sources ordinal budget) r field ordinal
        s t u w s' first last ∧
      DrawnInTurn sources draws t u ∧ draws.map (·.1) = pendingFields setup t.relations r ordinal ∧
      SettlesInstance setup sources r ordinal draws s u w s' := by
  have halone := hsources.leavesAlone setup
  have hfields : ∀ f, setup.plan.owner? f = some r → f ∈ r.fields := by
    rw [hplan]
    exact fun f => Config.mem_fields_of_owner? hcompile
  have hnodup : r.fields.Nodup := by
    rw [hplan] at hr
    exact (Config.relationship_consistent hcompile hr).fields_nodup
  obtain ⟨⟨t, u, w, first, last, hstages⟩, -⟩ := constraintValue_stages h
  have hpendingNodup : (pendingFields setup t.relations r ordinal).Nodup := hnodup.filter _
  obtain ⟨draws, hdraws, hpending, hvalues⟩ := drawFields_eq_ok hpendingNodup hstages.drawn
  have hlast := hstages.bindings_eq halone
  have hreports := hstages.reports
  rw [Constraint.isEmpty_violated, ← hlast] at hreports
  refine ⟨t, u, w, draws, first, last, hstages, hdraws, hpending, ?_⟩
  constructor
  · intro f howner
    exact hstages.isSome_value? halone (hfields f howner) (owns_of_owner? howner)
  · intro f v hv
    have hst := askedFor_extends (resolveAt_extends halone) (settleForeign_eq_ok hstages.foreign)
    apply hstages.changes.kept
    rw [(hstages.quiet halone).same.value?_eq]
    exact hst.kept f ordinal v hv
  · intro draw hdraw hdepended
    have hdrawn : draw.1 ∈ pendingFields setup t.relations r ordinal := hpending ▸ List.mem_map_of_mem hdraw
    have hagain : draw.1 ∉ (pendingFields setup t.relations r ordinal).filter fun f =>
        !r.dependsOn.contains f := by
      intro hmem
      have hfree := (List.mem_filter.1 hmem).2
      rw [List.contains_iff_mem.2 hdepended] at hfree
      cases hfree
    rw [hstages.value?_eq halone (mem_pendingFields.1 hdrawn).1,
      (redraw_returns _ _ _ hstages.redrawn).2 _ hagain, hvalues draw hdraw]
  · rw [hpending]
    exact redraw_eq_ok (hpendingNodup.filter _) hstages.redrawn
  · rintro ⟨k, hk, hviolated⟩
    rwa [if_neg fun hholds => Constraint.allBoundHold_iff.1 hholds k hk hviolated] at hreports
  · intro hholds
    rwa [if_pos (Constraint.allBoundHold_iff.2 hholds)] at hreports

/-- A configuration of rides that begin and end somewhere, but do not end at the station. -/
def rideConfig : Config where
  relationships := Dict.empty.insert "ride"
    { fields := ["Start", "End"]
      strategy := "constraint_based"
      dependsOn := ["Start"]
      constraints := ["End != 'station'"] }

/-- The setup of a run for a ride. -/
def rideSetup : Setup where
  schema := { version := "1", elements := [] }
  plan := rideConfig.draft.2

theorem constraintValue_settlesInstance_ride : ∃ r ∈ rideSetup.plan.relationships,
    ∃ value s' t u w draws first last,
      (constraintValue rideSetup (fixedSources "station" []) (resolveAt rideSetup (fixedSources "station" []) 0 3) r
        "End" 0).exec (.start 0 {}) = (.ok value, s') ∧
      DrawsTogether rideSetup (fixedSources "station" []) (resolveAt rideSetup (fixedSources "station" []) 0 3) r
        "End" 0 (.start 0 {}) t u w s' first last ∧
      DrawnInTurn (fixedSources "station" []) draws t u ∧
      draws.map (·.1) = pendingFields rideSetup t.relations r 0 ∧
      SettlesInstance rideSetup (fixedSources "station" []) r 0 draws (.start 0 {}) u w s' := by
  have hcompile : rideConfig.compile = .ok rideConfig.draft.2 := Config.compile_of_sound (by decide +kernel)
  have hfacts : rideSetup.plan.relationships.any (fun r => r.fields.all (rideSetup.plan.owns r)) = true ∧
      rideSetup.plan.relationships.all (·.source.isNone) = true := by decide +kernel
  obtain ⟨r, hr, howned⟩ := List.any_eq_true.1 hfacts.1
  have hnone : ∀ r ∈ rideSetup.plan.relationships, r.source = none := fun r hr =>
    Option.isNone_iff_eq_none.1 (List.all_eq_true.1 hfacts.2 r hr)
  have hcall : TakesValueSteps (fun _ => False) (constraintValue rideSetup (fixedSources "station" [])
      (resolveAt rideSetup (fixedSources "station" []) 0 3) r "End" 0) := by
    apply constraintValue_takesValueSteps (fixedSources_supplied hnone "station" [])
    intro other hother _ hforeign
    rw [List.all_eq_true.1 howned other hother] at hforeign
    cases hforeign
  obtain ⟨value, s', h⟩ := hcall.returns (.start 0 {})
  obtain ⟨t, u, w, draws, first, last, hstages⟩ := constraintValue_settlesInstance hcompile rideSetup _ rfl
    (fixedSources "station" []) (fixedSources_keepRelations _ _) r hr "End" 0 3 h
  exact ⟨r, hr, value, s', t, u, w, draws, first, last, h, hstages⟩

end Relation
end Specimen
