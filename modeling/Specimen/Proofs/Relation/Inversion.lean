import Specimen.Proofs.Relation.Candidates

/-!
# Fields that were settled

What has happened when a field was settled: which fields were asked for, from where to where, and what the
relationships remember afterwards.  No later proof unfolds the strategies.

All of them go through the same stages.  First come the fields of the relationships that come before; then,
for a dependent field, those it depends on; then the foreign fields; and in the end the owner settles what
it supplies, in one instance and nothing else.
-/

open Relation (ReflTransGen)

namespace Specimen

open Run

/-- A report warns that constraints of a relationship are violated. -/
def Relationship.Warned (r : Relationship) (s : RunState) : Prop :=
  ∃ w ∈ s.report.warnings, w.code = "constraint_violation" ∧ w.relationship = some r.id

theorem Relationship.Warned.grows {r : Relationship} {s t : RunState} (h : r.Warned s)
    (hgrows : s.Grows t) : r.Warned t := by
  obtain ⟨w, hw, hcode, hid⟩ := h
  exact ⟨w, hgrows.warnings w hw, hcode, hid⟩

theorem Relationship.warned_of_violationNotice {r : Relationship} {s : RunState} {bound : Bindings}
    {field : Option String} (h : r.violationNotice bound field ∈ s.report.warnings) : r.Warned s :=
  ⟨_, h, rfl, rfl⟩

/-! ## Asking for fields -/

/-- The fields of a relationship, apart from one, that others supply. -/
def Plan.foreignFields (plan : Plan) (r : Relationship) (field : String) : List String :=
  r.fields.filter fun f => f ≠ field ∧ !plan.owns r f

theorem Plan.mem_foreignFields {plan : Plan} {r : Relationship} {field f : String} :
    f ∈ plan.foreignFields r field ↔ f ∈ r.fields ∧ f ≠ field ∧ plan.owns r f = false := by
  unfold foreignFields
  rw [List.mem_filter]
  simp

namespace Relation

/-- The sources of fields that have owners settle nothing; `K` says what else they keep. -/
structure LeavesAlone (K : RunState → RunState → Prop) (setup : Setup) (sources : FieldSources) :
    Prop where
  kept : RunState.Kept K
  independent : ∀ f, (setup.plan.owners.get? f).isSome → ∀ {s t : RunState} {v : String},
    (sources.independent f).exec s = (.ok v, t) → s.QuietBy K t
  pool : ∀ f r, (setup.plan.owners.get? f).isSome → r ∈ setup.plan.relationships →
    ∀ {s t : RunState} {candidates : List String},
      (sources.pool f r).exec s = (.ok candidates, t) → s.QuietBy K t

theorem Supplied.leavesAlone {setup : Setup} {sources : FieldSources} {failure : RunError → Prop}
    (h : Supplied setup sources failure) : LeavesAlone RunState.Grows setup sources where
  kept := RunState.kept_grows
  independent f hf _ _ _ hvalue := (h.independent f hf).quiet hvalue
  pool f r hf hr _ _ _ hpool := (h.pool f r hf hr).quiet hpool

theorem exec_bindings_bind {α : Type} (r : Relationship) (ordinal : Nat) (f : Bindings → Run α) (s : RunState) :
    (bindings r ordinal >>= f).exec s = (f (s.relations.bindings r ordinal)).exec s := rfl

theorem exec_isSettled_bind {α : Type} (field : String) (ordinal : Nat) (f : Bool → Run α) (s : RunState) :
    (isSettled field ordinal >>= f).exec s = (f (s.relations.value? field ordinal).isSome).exec s := rfl

/-- Fields were asked for one after the other. -/
inductive AskedFor (resolve : String → Run (Option String)) :
    List String → RunState → RunState → Prop where
  | nil {s : RunState} : AskedFor resolve [] s s
  | cons {f : String} {rest : List String} {s t u : RunState} {value : Option String}
      (hfirst : (resolve f).exec s = (.ok value, t)) (hrest : AskedFor resolve rest t u) :
      AskedFor resolve (f :: rest) s u

section Settled

variable {K : RunState → RunState → Prop} {setup : Setup} {sources : FieldSources}
  {resolve : String → Run (Option String)} {r : Relationship} {field : String} {ordinal : Nat}
  {s s' : RunState}

theorem AskedFor.append {fields more : List String} {t u : RunState}
    (hst : AskedFor resolve fields s t) (htu : AskedFor resolve more t u) :
    AskedFor resolve (fields ++ more) s u := by
  induction hst with
  | nil => exact htu
  | cons hfirst _ ih => exact .cons hfirst (ih htu)

/-! ## Fields that come before -/

theorem settleForeign_eq_ok {fields : List String}
    (h : (settleForeign setup resolve r field fields).exec s = (.ok (), s')) :
    AskedFor resolve (fields.filter fun f => f ≠ field ∧ !setup.plan.owns r f) s s' := by
  induction fields generalizing s with
  | nil =>
      obtain ⟨-, rfl⟩ := exec_pure_eq_ok.1 h
      exact .nil
  | cons other rest ih =>
      unfold settleForeign at h
      dsimp only at h
      split at h
      · rename_i hforeign
        obtain ⟨value, t, hfirst, h⟩ := exec_bind_eq_ok.1 h
        rw [List.filter_cons_of_pos (by simpa using hforeign)]
        exact .cons hfirst (ih h)
      · rename_i hnot
        rw [List.filter_cons_of_neg (by simpa using hnot)]
        exact ih h

theorem settleForeign_of_owned {fields : List String}
    (howned : ∀ f ∈ fields, setup.plan.owns r f = true) (resolve : String → Run (Option String)) :
    settleForeign setup resolve r field fields = pure () := by
  induction fields with
  | nil => rfl
  | cons f rest ih =>
      unfold settleForeign
      rw [if_neg (by simp [howned f List.mem_cons_self])]
      exact ih fun g hg => howned g (List.mem_cons_of_mem f hg)

theorem settleOwned_eq_ok {fields : List String}
    (h : (settleOwned setup resolve r fields).exec s = (.ok (), s')) :
    AskedFor resolve (fields.filter (setup.plan.owns r)) s s' := by
  induction fields generalizing s with
  | nil =>
      obtain ⟨-, rfl⟩ := exec_pure_eq_ok.1 h
      exact .nil
  | cons other rest ih =>
      unfold settleOwned at h
      dsimp only at h
      split at h
      · rename_i howns
        obtain ⟨value, t, hfirst, h⟩ := exec_bind_eq_ok.1 h
        rw [List.filter_cons_of_pos howns]
        exact .cons hfirst (ih h)
      · rename_i hnot
        rw [List.filter_cons_of_neg hnot]
        exact ih h

theorem settleEarlier_eq_ok {ids : List String}
    (h : (settleEarlier setup resolve ids).exec s = (.ok (), s')) :
    ∃ asked, AskedFor resolve asked s s' ∧
      ∀ f, f ∈ asked ↔ ∃ id ∈ ids, ∃ earlier, setup.plan.relationship? id = some earlier ∧
        f ∈ earlier.fields ∧ setup.plan.owns earlier f = true := by
  induction ids generalizing s with
  | nil =>
      obtain ⟨-, rfl⟩ := exec_pure_eq_ok.1 h
      exact ⟨[], .nil, by simp⟩
  | cons id rest ih =>
      unfold settleEarlier at h
      dsimp only at h
      split at h
      · rename_i earlier hearlier
        obtain ⟨⟨⟩, t, hfirst, h⟩ := exec_bind_eq_ok.1 h
        obtain ⟨more, hmore, hmem⟩ := ih h
        refine ⟨_, (settleOwned_eq_ok hfirst).append hmore, fun f => ?_⟩
        rw [List.mem_append, List.mem_filter, hmem, List.exists_mem_cons_iff, hearlier]
        simp
      · rename_i hnone
        obtain ⟨asked, hasked, hmem⟩ := ih h
        refine ⟨asked, hasked, fun f => ?_⟩
        rw [hmem, List.exists_mem_cons_iff, hnone]
        simp

/-! ## Dependent values -/

theorem settleDependencies_eq_ok (hsources : LeavesAlone K setup sources) {fields : List String}
    (h : (settleDependencies setup sources r ordinal fields).exec s = (.ok (), s')) :
    s.SettlesBy K r ordinal (fun f => f ∈ fields ∧ setup.plan.owns r f = true) s' ∧
      ∀ f ∈ fields, setup.plan.owns r f = true → (s'.relations.value? f ordinal).isSome := by
  have hK := hsources.kept
  induction fields generalizing s with
  | nil =>
      obtain ⟨-, rfl⟩ := exec_pure_eq_ok.1 h
      exact ⟨.refl hK _, List.forall_mem_nil _⟩
  | cons other rest ih =>
      unfold settleDependencies at h
      rw [exec_isSettled_bind] at h
      have hcons : ∀ {u : RunState},
          u.SettlesBy K r ordinal (fun f => f ∈ rest ∧ setup.plan.owns r f = true) s' →
          u.SettlesBy K r ordinal (fun f => f ∈ other :: rest ∧ setup.plan.owns r f = true) s' :=
        fun hrest => hrest.mono fun f hf => ⟨List.mem_cons_of_mem other hf.1, hf.2⟩
      dsimp only at h
      split at h
      · rename_i hopen
        have howns : setup.plan.owns r other = true := (Bool.and_eq_true _ _ ▸ hopen).2
        obtain ⟨value, t, hvalue, h⟩ := exec_bind_eq_ok.1 h
        obtain ⟨⟨⟩, u, hsettle, h⟩ := exec_bind_eq_ok.1 h
        have hst := hsources.independent other (isSome_of_owns howns) hvalue
        have htu : t.Settles r ordinal (fun f => f ∈ other :: rest ∧ setup.plan.owns r f = true) u :=
          .of_relate (.settle ⟨List.mem_cons_self, howns⟩ _ value) hsettle
        have hnow : u.relations.value? other ordinal =
            some ((t.relations.value? other ordinal).getD value) := by
          cases hsettle
          exact RelationState.value?_settle.trans (if_pos rfl)
        obtain ⟨hrest, hsome⟩ := ih h
        refine ⟨(hst.settles.trans hK (htu.by_kept hK)).trans hK (hcons hrest),
          List.forall_mem_cons.2 ⟨fun _ => ?_, hsome⟩⟩
        rw [hrest.changes.kept other ordinal _ hnow]
        rfl
      · rename_i hnot
        obtain ⟨hrest, hsome⟩ := ih h
        refine ⟨hcons hrest, List.forall_mem_cons.2 ⟨fun howns => ?_, hsome⟩⟩
        obtain ⟨v, hv⟩ := Option.ne_none_iff_exists'.1 (by simpa [howns] using hnot)
        rw [hrest.changes.kept other ordinal v hv]
        rfl

/-- A value that is drawn from candidates violates no constraint, or the report warns. -/
theorem DrawsFitting.warned {bound : Bindings} {pool : List String} {v : String}
    (h : DrawsFitting r bound field pool s v s') {c : Constraint} (hc : c ∈ r.constraints)
    (hviolated : c.check (bound.insert field v) = .violated) : r.Warned s' := by
  have hunfit : ¬ r.Fits bound field v := fun hfits =>
    Constraint.allBoundHold_iff.1 hfits c hc hviolated
  apply r.warned_of_violationNotice
  have hreports := h.reported fun m hm hfits => hunfit (h.fits ⟨m, hm, hfits⟩).1
  exact hreports.mem (List.mem_singleton_self _)

/-- The stages of a call for a dependent field that no other one depends on: those that it depends on are settled,
then the foreign ones, and then it is drawn from its candidates or, if there are none, by itself. -/
theorem dependentValue_stages (hdependent : field ∉ r.dependsOn) {v : String}
    (h : (dependentValue setup sources resolve r field ordinal).exec s = (.ok v, s')) :
    ∃ t u pool w, (settleDependencies setup sources r ordinal r.dependsOn).exec s = (.ok (), t) ∧
      (settleForeign setup resolve r field r.fields).exec t = (.ok (), u) ∧
      (sources.pool field r).exec u = (.ok pool, w) ∧
      (pool = [] → (sources.independent field).exec w = (.ok v, s')) ∧
      (pool ≠ [] →
        (drawDependent sources r (u.relations.bindings r ordinal) field pool).exec w = (.ok v, s')) := by
  unfold dependentValue at h
  rw [if_neg fun hmem => hdependent (List.contains_iff_mem.1 hmem)] at h
  obtain ⟨⟨⟩, t, hdependencies, h⟩ := exec_bind_eq_ok.1 h
  obtain ⟨⟨⟩, u, hforeign, h⟩ := exec_bind_eq_ok.1 h
  rw [exec_bindings_bind] at h
  obtain ⟨pool, w, hpool, h⟩ := exec_bind_eq_ok.1 h
  refine ⟨t, u, pool, w, hdependencies, hforeign, hpool, fun hempty => ?_, fun hne => ?_⟩
  · rwa [if_pos (List.isEmpty_iff.2 hempty)] at h
  · rwa [if_neg fun hempty => hne (List.isEmpty_iff.1 hempty)] at h

/-- What has happened when a field was settled after those it depends on. -/
theorem dependentValue_eq_ok (hsources : LeavesAlone K setup sources)
    (hr : r ∈ setup.plan.relationships) (howner : (setup.plan.owners.get? field).isSome) {v : String}
    (h : (dependentValue setup sources resolve r field ordinal).exec s = (.ok v, s')) :
    (field ∈ r.dependsOn ∧ s.QuietBy K s') ∨
      field ∉ r.dependsOn ∧ ∃ t u,
        s.SettlesBy K r ordinal (fun f => f ∈ r.dependsOn ∧ setup.plan.owns r f = true) t ∧
        (∀ f ∈ r.dependsOn, setup.plan.owns r f = true → (t.relations.value? f ordinal).isSome) ∧
        AskedFor resolve (setup.plan.foreignFields r field) t u ∧ u.QuietBy K s' ∧
        (Returns (sources.pool field r) (fun pool _ => pool ≠ []) → ∀ c ∈ r.constraints,
          c.check ((u.relations.bindings r ordinal).insert field v) = .violated → r.Warned s') := by
  by_cases hdependent : field ∈ r.dependsOn
  · unfold dependentValue at h
    rw [if_pos (List.contains_iff_mem.2 hdependent)] at h
    exact .inl ⟨hdependent, hsources.independent field howner h⟩
  · obtain ⟨t, u, pool, w, hdependencies, hforeign, hpool, hnone, hdraws⟩ := dependentValue_stages hdependent h
    obtain ⟨hchanges, hsettled⟩ := settleDependencies_eq_ok hsources hdependencies
    have huw := hsources.pool field r howner hr hpool
    refine .inr ⟨hdependent, t, u, hchanges, hsettled, settleForeign_eq_ok hforeign, ?_⟩
    by_cases hempty : pool = []
    · refine ⟨huw.trans hsources.kept (hsources.independent field howner (hnone hempty)), fun hcandidates => ?_⟩
      exact absurd hempty (hcandidates u pool w hpool)
    · have hdrawn := hdraws hempty
      have hsteps : TakesTentativeSteps (fun _ => True)
          (drawDependent sources r (u.relations.bindings r ordinal) field pool) :=
        drawDependent_takesTentativeSteps r _ field pool
      refine ⟨huw.trans hsources.kept ((hsteps.quiet hdrawn).by_kept hsources.kept), fun _ c hc hviolated => ?_⟩
      exact (drawDependent_drawsFitting hempty hdrawn).warned hc hviolated

/-! ## Values that are drawn together -/

theorem drawFields_returns {fields : List String} {bound : Bindings} :
    Returns (drawFields sources fields bound) fun b _ =>
      (∀ f ∈ fields, (b.get? f).isSome) ∧ ∀ f ∉ fields, b.get? f = bound.get? f := by
  induction fields generalizing bound with
  | nil => exact .pure fun _ => ⟨List.forall_mem_nil _, fun _ _ => rfl⟩
  | cons field rest ih =>
      refine .bind fun value => ih.mono fun b _ hb => ?_
      obtain ⟨hsome, hsame⟩ := hb
      constructor
      · refine List.forall_mem_cons.2 ⟨?_, hsome⟩
        by_cases hrest : field ∈ rest
        · exact hsome field hrest
        · rw [hsame field hrest, Dict.get?_insert, if_pos rfl]
          rfl
      · intro f hf
        rw [hsame f fun hrest => hf (List.mem_cons_of_mem field hrest), Dict.get?_insert,
          if_neg fun heq : field = f => hf (heq ▸ List.mem_cons_self)]

theorem redraw_returns {again : List String} {tries : Nat} {bound : Bindings} :
    Returns (redraw sources r again tries bound) fun b _ =>
      (∀ f, (bound.get? f).isSome → (b.get? f).isSome) ∧ ∀ f ∉ again, b.get? f = bound.get? f := by
  induction tries generalizing bound with
  | zero => exact .pure fun _ => ⟨fun _ => id, fun _ _ => rfl⟩
  | succ tries ih =>
      unfold redraw
      split
      · exact .pure fun _ => ⟨fun _ => id, fun _ _ => rfl⟩
      · refine .bind fun _ => .bind_of drawFields_returns fun next hnext => ?_
        obtain ⟨hsome, hsame⟩ := hnext
        refine ih.mono fun b _ hb => ⟨fun f hf => hb.1 f ?_, fun f hf => ?_⟩
        · by_cases hagain : f ∈ again
          · exact hsome f hagain
          · rw [hsame f hagain]
            exact hf
        · rw [hb.2 f hf, hsame f hf]

theorem drawFields_quiet (hsources : LeavesAlone K setup sources) {fields : List String}
    (hfields : ∀ f ∈ fields, (setup.plan.owners.get? f).isSome) {bound b : Bindings}
    (h : (drawFields sources fields bound).exec s = (.ok b, s')) : s.QuietBy K s' := by
  induction fields generalizing s bound with
  | nil =>
      obtain ⟨-, rfl⟩ := exec_pure_eq_ok.1 h
      exact (RunState.Quiet.refl _).by_kept hsources.kept
  | cons field rest ih =>
      obtain ⟨value, t, hvalue, hrest⟩ := exec_bind_eq_ok.1 h
      have hst := hsources.independent field (hfields field List.mem_cons_self) hvalue
      exact hst.trans hsources.kept (ih (fun f hf => hfields f (List.mem_cons_of_mem _ hf)) hrest)

theorem redraw_quiet (hsources : LeavesAlone K setup sources) {again : List String}
    (hagain : ∀ f ∈ again, (setup.plan.owners.get? f).isSome) {tries : Nat} {bound b : Bindings}
    (h : (redraw sources r again tries bound).exec s = (.ok b, s')) : s.QuietBy K s' := by
  induction tries generalizing s bound with
  | zero =>
      obtain ⟨-, rfl⟩ := exec_pure_eq_ok.1 h
      exact (RunState.Quiet.refl _).by_kept hsources.kept
  | succ tries ih =>
      unfold redraw at h
      split at h
      · obtain ⟨-, rfl⟩ := exec_pure_eq_ok.1 h
        exact (RunState.Quiet.refl _).by_kept hsources.kept
      · obtain ⟨⟨⟩, t, hretry, h⟩ := exec_bind_eq_ok.1 h
        obtain ⟨next, u, hnext, hrest⟩ := exec_bind_eq_ok.1 h
        have hsteps : TakesTentativeSteps (fun _ => True) (record .countRetry) :=
          record_takesTentativeSteps .retry
        have htu := drawFields_quiet hsources hagain hnext
        exact ((hsteps.quiet hretry).by_kept hsources.kept).trans hsources.kept
          (htu.trans hsources.kept (ih hrest))

theorem mem_pendingFields {relations : RelationState} {f : String} :
    f ∈ pendingFields setup relations r ordinal ↔
      f ∈ r.fields ∧ setup.plan.owns r f = true ∧ relations.value? f ordinal = none := by
  unfold pendingFields
  rw [List.mem_filter, Bool.and_eq_true, Option.isNone_iff_eq_none]

/-- The stages of a call that draws the fields of a relationship together: the foreign fields are settled, those that
are pending are drawn and then drawn again, up to a state from which on the report is told of violations and what was
drawn is settled. -/
structure DrawsTogether (setup : Setup) (sources : FieldSources) (resolve : String → Run (Option String))
    (r : Relationship) (field : String) (ordinal : Nat) (s t u w s' : RunState) (first last : Bindings) : Prop where
  foreign : (settleForeign setup resolve r field r.fields).exec s = (.ok (), t)
  drawn : (drawFields sources (pendingFields setup t.relations r ordinal) (t.relations.bindings r ordinal)).exec t =
    (.ok first, u)
  redrawn : (redraw sources r ((pendingFields setup t.relations r ordinal).filter fun f => !r.dependsOn.contains f)
    (r.attempts setup.options) first).exec u = (.ok last, w)
  reports : w.Reports
    (if (Constraint.violated r.constraints last).isEmpty then [] else [r.violationNotice last none]) s'
  grows : w.Grows s'
  settled : s'.relations =
    (pendingFields setup t.relations r ordinal).foldl (RelationState.settleBy last ordinal) w.relations

theorem constraintValue_stages {value : Option String}
    (h : (constraintValue setup sources resolve r field ordinal).exec s = (.ok value, s')) :
    (∃ t u w first last, DrawsTogether setup sources resolve r field ordinal s t u w s' first last) ∧
      value = s'.relations.value? field ordinal := by
  unfold constraintValue at h
  obtain ⟨⟨⟩, t, hforeign, h⟩ := exec_bind_eq_ok.1 h
  rw [exec_get_bind, exec_bindings_bind] at h
  dsimp only at h
  obtain ⟨first, u, hfirst, h⟩ := exec_bind_eq_ok.1 h
  obtain ⟨last, w, hlast, h⟩ := exec_bind_eq_ok.1 h
  -- the fields are settled in the same way whether the report is told of violations before or not
  obtain ⟨x, hreports, hgrows, hrelations, hsettle⟩ : ∃ x, w.Reports
      (if (Constraint.violated r.constraints last).isEmpty then [] else [r.violationNotice last none]) x ∧
      w.Grows x ∧ x.relations = w.relations ∧
      (relate (fun s => (pendingFields setup t.relations r ordinal).foldl
        (RelationState.settleBy last ordinal) s) >>= fun _ => do
          return (← get).relations.value? field ordinal : Run _).exec x = (.ok value, s') := by
    by_cases hholds : (Constraint.violated r.constraints last).isEmpty = true
    · rw [hholds] at h ⊢
      exact ⟨w, .of_warnings rfl, .refl w, rfl, h⟩
    · rw [Bool.not_eq_true] at hholds
      rw [hholds] at h ⊢
      obtain ⟨⟨⟩, x, hwarn, h⟩ := exec_bind_eq_ok.1 h
      have hsteps : TakesTentativeSteps (fun _ => True) (warn (r.violationNotice last none)) :=
        warn_takesTentativeSteps _
      exact ⟨x, .of_warn hwarn, (hsteps.quiet hwarn).grows, by cases hwarn; rfl, h⟩
  rw [exec_relate_bind, exec_get_bind] at hsettle
  obtain ⟨rfl, rfl⟩ := exec_pure_eq_ok.1 hsettle
  refine ⟨⟨t, u, w, first, last, hforeign, hfirst, hlast, hreports,
    ⟨hgrows.halted, hgrows.warnings, hgrows.trace, hgrows.used⟩, ?_⟩, rfl⟩
  rw [← hrelations]

namespace DrawsTogether

variable {t u w : RunState} {first last : Bindings}

theorem quiet (h : DrawsTogether setup sources resolve r field ordinal s t u w s' first last)
    (hsources : LeavesAlone K setup sources) : t.QuietBy K w := by
  have hpending : ∀ f ∈ pendingFields setup t.relations r ordinal,
      (setup.plan.owners.get? f).isSome := fun f => isSome_of_mem_pendingFields
  exact (drawFields_quiet hsources hpending h.drawn).trans hsources.kept
    (redraw_quiet hsources (fun f hf => hpending f (List.mem_filter.1 hf).1) h.redrawn)

/-- Only the fields that were pending are settled. -/
theorem changes (h : DrawsTogether setup sources resolve r field ordinal s t u w s' first last) :
    w.relations.Changes r ordinal (· ∈ pendingFields setup t.relations r ordinal) s'.relations := by
  rw [h.settled]
  exact .foldl (fun s f hf => RelationState.changes_settleBy last hf s) _

/-- Fields that were not pending have kept what they had, and those that were have the value drawn for them. -/
theorem get?_last (h : DrawsTogether setup sources resolve r field ordinal s t u w s' first last) :
    (∀ f ∈ pendingFields setup t.relations r ordinal, (last.get? f).isSome) ∧
      ∀ f ∉ pendingFields setup t.relations r ordinal,
        last.get? f = (t.relations.bindings r ordinal).get? f := by
  obtain ⟨hdrawn, hkept⟩ := drawFields_returns _ _ _ h.drawn
  obtain ⟨hagain, hsame⟩ := redraw_returns _ _ _ h.redrawn
  refine ⟨fun f hf => hagain f (hdrawn f hf), fun f hf => ?_⟩
  rw [hsame f fun hmem => hf (List.mem_filter.1 hmem).1, hkept f hf]

/-- Afterwards every field of the relationship has the value that it had or that was drawn for it. -/
theorem value?_eq (h : DrawsTogether setup sources resolve r field ordinal s t u w s' first last)
    (hsources : LeavesAlone K setup sources) {f : String} (hf : f ∈ r.fields) :
    s'.relations.value? f ordinal = last.get? f := by
  obtain ⟨hsome, hkept⟩ := h.get?_last
  have hsame := (h.quiet hsources).same
  by_cases hpending : f ∈ pendingFields setup t.relations r ordinal
  · obtain ⟨v, hv⟩ := Option.isSome_iff_exists.1 (hsome f hpending)
    have hopen : w.relations.value? f ordinal = none :=
      (hsame.value?_eq f ordinal).trans (mem_pendingFields.1 hpending).2.2
    rw [h.settled, hv]
    exact RelationState.value?_foldl_settleBy r hpending hv w.relations hopen
  · rw [h.changes.value?_eq hpending, hsame.value?_eq, hkept f hpending, RelationState.get?_bindings, if_pos hf]

theorem isSome_value? (h : DrawsTogether setup sources resolve r field ordinal s t u w s' first last)
    (hsources : LeavesAlone K setup sources) {f : String} (hf : f ∈ r.fields)
    (howns : setup.plan.owns r f = true) : (s'.relations.value? f ordinal).isSome := by
  obtain ⟨hsome, hkept⟩ := h.get?_last
  rw [h.value?_eq hsources hf]
  by_cases hpending : f ∈ pendingFields setup t.relations r ordinal
  · exact hsome f hpending
  · rw [hkept f hpending, RelationState.get?_bindings, if_pos hf]
    exact Option.isSome_iff_ne_none.2 fun hopen => hpending (mem_pendingFields.2 ⟨hf, howns, hopen⟩)

end DrawsTogether

/-- What has happened when a field was settled together with the others of its owner. -/
theorem constraintValue_eq_ok (hsources : LeavesAlone K setup sources) {value : Option String}
    (h : (constraintValue setup sources resolve r field ordinal).exec s = (.ok value, s')) :
    ∃ t last, AskedFor resolve (setup.plan.foreignFields r field) s t ∧
      t.SettlesBy K r ordinal (fun f => setup.plan.owns r f = true) s' ∧
      (∀ f ∈ r.fields, setup.plan.owns r f = true →
        ∃ v, s'.relations.value? f ordinal = some v ∧ last.get? f = some v) ∧
      (∀ c ∈ r.constraints, c.check last = .violated → r.Warned s') ∧
      value = s'.relations.value? field ordinal := by
  obtain ⟨⟨t, u, w, first, last, hstages⟩, hvalue⟩ := constraintValue_stages h
  have htw := hstages.quiet hsources
  have hsettled : w.relations.Changes r ordinal (fun f => setup.plan.owns r f = true) s'.relations :=
    hstages.changes.mono fun f hf => (mem_pendingFields.1 hf).2.1
  refine ⟨t, last, settleForeign_eq_ok hstages.foreign,
    htw.settles.trans hsources.kept ⟨hsources.kept.of_grows hstages.grows, hsettled⟩,
    fun f hf howns => ?_, fun c hc hviolated => ?_, hvalue⟩
  · obtain ⟨v, hv⟩ := Option.isSome_iff_exists.1 (hstages.isSome_value? hsources hf howns)
    exact ⟨v, hv, (hstages.value?_eq hsources hf).symm.trans hv⟩
  · have hnotice : r.violationNotice last none ∈
        if (Constraint.violated r.constraints last).isEmpty then [] else [r.violationNotice last none] := by
      rw [Constraint.isEmpty_violated, if_neg fun hholds => Constraint.allBoundHold_iff.1 hholds c hc hviolated]
      exact List.mem_singleton_self _
    exact r.warned_of_violationNotice (hstages.reports.mem hnotice)

/-! ## Personas -/

theorem settleRecord_eq_ok {record : Json}
    (h : (settleRecord setup r record ordinal).exec s = (.ok (), s')) :
    s.Settles r ordinal (fun f => setup.plan.owns r f = true) s' := by
  refine .of_relate (.foldl (fun s f _ => ?_) _) h
  split
  · rename_i howns
    split
    · exact .settle howns s _
    · exact .refl s
  · exact .refl s

/-- The stages in which a record is picked for an instance: the foreign fields are settled, and then it is picked and
remembered. -/
theorem personaOf_stages {records : List Json} {index : Option Nat}
    (hnone : s.relations.persona? r.id ordinal = none)
    (h : (personaOf setup resolve r records field ordinal).exec s = (.ok index, s')) :
    ∃ t u, (settleForeign setup resolve r field r.fields).exec s = (.ok (), t) ∧
      (pickPersona setup r records ordinal).exec t = (.ok index, u) ∧ t.Quiet u ∧
      (relate fun s => s.setPersona r.id ordinal index).exec u = (.ok (), s') := by
  unfold personaOf at h
  rw [exec_get_bind, hnone] at h
  obtain ⟨⟨⟩, t, hforeign, h⟩ := exec_bind_eq_ok.1 h
  obtain ⟨picked, u, hpick, h⟩ := exec_bind_eq_ok.1 h
  obtain ⟨⟨⟩, w, hset, h⟩ := exec_bind_eq_ok.1 h
  obtain ⟨rfl, rfl⟩ := exec_pure_eq_ok.1 h
  have hsteps : TakesTentativeSteps (fun _ => True) (pickPersona setup r records ordinal) :=
    pickPersona_takesTentativeSteps r records ordinal
  exact ⟨t, u, hforeign, hpick, hsteps.quiet hpick, hset⟩

/-- What has happened when the record of an instance was found: foreign fields were asked for only if it had
to be picked. -/
theorem personaOf_eq_ok (hstrategy : r.strategy = .consistentPersona) {records : List Json}
    {index : Option Nat}
    (h : (personaOf setup resolve r records field ordinal).exec s = (.ok index, s')) :
    (s.relations.persona? r.id ordinal = some index ∧ s' = s) ∨
      s.relations.persona? r.id ordinal = none ∧ ∃ t u,
        AskedFor resolve (setup.plan.foreignFields r field) s t ∧ t.Quiet u ∧
        u.Settles r ordinal (fun _ => False) s' ∧
        s'.relations = u.relations.setPersona r.id ordinal index := by
  cases hpersona : s.relations.persona? r.id ordinal with
  | some picked =>
      unfold personaOf at h
      rw [exec_get_bind, hpersona] at h
      obtain ⟨rfl, rfl⟩ := exec_pure_eq_ok.1 h
      exact .inl ⟨rfl, rfl⟩
  | none =>
      obtain ⟨t, u, hforeign, -, hquiet, hset⟩ := personaOf_stages hpersona h
      refine .inr ⟨rfl, t, u, settleForeign_eq_ok hforeign, hquiet,
        .of_relate (.setPersona hstrategy _ index) hset, ?_⟩
      cases hset
      rfl

/-- The ways in which a persona gives its value: it has no source, its record is not there, or the record was
read. -/
theorem personaValue_cases {value : Option String}
    (h : (personaValue setup resolve r field ordinal).exec s = (.ok value, s')) :
    (r.source = none ∧ value = none ∧ s' = s) ∨ ∃ source records index t,
      r.source = some source ∧ setup.contexts.records source = .ok records ∧
      (personaOf setup resolve r records field ordinal).exec s = (.ok index, t) ∧
      ((value = none ∧ s' = t) ∨ ∃ record, (index.bind fun i => records[i]?) = some record ∧
        (settleRecord setup r record ordinal).exec t = (.ok (), s') ∧
        value = s'.relations.value? field ordinal) := by
  unfold personaValue at h
  cases hsource : r.source with
  | none =>
      rw [hsource] at h
      obtain ⟨rfl, rfl⟩ := exec_pure_eq_ok.1 h
      exact .inl ⟨rfl, rfl, rfl⟩
  | some source =>
      rw [hsource] at h
      obtain ⟨records, t, hrecords, hrun⟩ := exec_bind_eq_ok.1 h
      obtain ⟨hfound, rfl⟩ : setup.contexts.records source = .ok records ∧ s = t := by
        cases hfound : setup.contexts.records source with
        | error e => rw [hfound] at hrecords; cases hrecords
        | ok found => rw [hfound] at hrecords; cases hrecords; exact ⟨rfl, rfl⟩
      obtain ⟨index, u, hindex, hrun⟩ := exec_bind_eq_ok.1 hrun
      refine .inr ⟨source, records, index, u, rfl, hfound, hindex, ?_⟩
      split at hrun
      · obtain ⟨rfl, rfl⟩ := exec_pure_eq_ok.1 hrun
        exact .inl ⟨rfl, rfl⟩
      · rename_i record hrecord
        obtain ⟨⟨⟩, w, hsettle, hrun⟩ := exec_bind_eq_ok.1 hrun
        rw [exec_get_bind] at hrun
        obtain ⟨rfl, rfl⟩ := exec_pure_eq_ok.1 hrun
        exact .inr ⟨record, hrecord, hsettle, rfl⟩

theorem personaValue_eq_ok (hstrategy : r.strategy = .consistentPersona) {value : Option String}
    (h : (personaValue setup resolve r field ordinal).exec s = (.ok value, s')) :
    (¬ (r.source.isSome ∧ s.relations.persona? r.id ordinal = none) ∧
        s.Settles r ordinal (fun f => setup.plan.owns r f = true) s') ∨
      (r.source.isSome ∧ s.relations.persona? r.id ordinal = none) ∧ ∃ t,
        AskedFor resolve (setup.plan.foreignFields r field) s t ∧
        t.Settles r ordinal (fun f => setup.plan.owns r f = true) s' := by
  rcases personaValue_cases h with
    ⟨hsource, -, rfl⟩ | ⟨source, records, index, u, hsource, -, hindex, hread⟩
  · exact .inl ⟨fun hsome => by simp [hsource] at hsome, .refl RunState.kept_grows _⟩
  · have hrest : u.Settles r ordinal (fun f => setup.plan.owns r f = true) s' := by
      rcases hread with ⟨-, rfl⟩ | ⟨record, -, hsettle, -⟩
      · exact .refl RunState.kept_grows _
      · exact settleRecord_eq_ok hsettle
    rcases personaOf_eq_ok hstrategy hindex with
      ⟨hpicked, rfl⟩ | ⟨hnone, t, v, hasked, hquiet, hset, -⟩
    · exact .inl ⟨fun hsome => by simp [hsome.2] at hpicked, hrest⟩
    · have htu : t.Settles r ordinal (fun f => setup.plan.owns r f = true) u :=
        hquiet.settles.trans RunState.kept_grows (hset.mono fun _ => False.elim)
      exact .inr ⟨⟨by rw [hsource]; rfl, hnone⟩, t, hasked, htu.trans RunState.kept_grows hrest⟩

/-! ## Fields -/

/-- The stages in which the owner of a field settles it. -/
theorem valueBy_eq_ok (hsources : LeavesAlone K setup sources)
    (hr : r ∈ setup.plan.relationships) (howner : (setup.plan.owners.get? field).isSome)
    {value : Option String}
    (h : (valueBy setup sources resolve r field ordinal).exec s = (.ok value, s')) :
    ∃ asked t u,
      (t = s ∨ r.strategy = .dependentValues ∧ s.SettlesBy K r ordinal
        (fun f => f ∈ r.dependsOn ∧ setup.plan.owns r f = true) t ∧ field ∉ r.dependsOn) ∧
      AskedFor resolve asked t u ∧
      (∀ f, f ∈ asked ↔ setup.plan.ReadsForeign r field f ∧ (r.strategy = .consistentPersona →
        r.source.isSome ∧ s.relations.persona? r.id ordinal = none)) ∧
      u.SettlesBy K r ordinal (fun f => r.strategy ≠ .dependentValues ∧ setup.plan.owns r f = true)
        s' := by
  unfold valueBy at h
  cases hstrategy : r.strategy with
  | consistentPersona =>
      rw [hstrategy] at h
      rcases personaValue_eq_ok hstrategy h with ⟨hnot, hchanges⟩ | ⟨hpicks, t, hasked, hchanges⟩
      · refine ⟨[], s, s, .inl rfl, .nil, fun f => ?_,
          (hchanges.by_kept hsources.kept).mono fun f hf => ⟨nofun, hf⟩⟩
        simp [hnot]
      · refine ⟨_, s, t, .inl rfl, hasked, fun f => ?_,
          (hchanges.by_kept hsources.kept).mono fun f hf => ⟨nofun, hf⟩⟩
        rw [Plan.mem_foreignFields]
        simp [Plan.ReadsForeign, hstrategy, hpicks]
  | dependentValues =>
      rw [hstrategy] at h
      obtain ⟨v, u, hvalue, h⟩ := exec_bind_eq_ok.1 h
      obtain ⟨-, rfl⟩ := exec_pure_eq_ok.1 h
      rcases dependentValue_eq_ok hsources hr howner hvalue with
        ⟨hdepended, hsame⟩ | ⟨hdependent, t, w, hsettled, -, hasked, hsame, -⟩
      · refine ⟨[], s, s, .inl rfl, .nil, fun f => ?_, hsame.settles⟩
        simp [Plan.ReadsForeign, hstrategy, hdepended]
      · refine ⟨_, t, w, .inr ⟨rfl, hsettled, hdependent⟩, hasked, fun f => ?_, hsame.settles⟩
        rw [Plan.mem_foreignFields]
        simp [Plan.ReadsForeign, hdependent]
  | constraintBased =>
      rw [hstrategy] at h
      obtain ⟨t, -, hasked, hchanges, -⟩ := constraintValue_eq_ok hsources h
      refine ⟨_, s, t, .inl rfl, hasked, fun f => ?_, hchanges.mono fun f hf => ⟨nofun, hf⟩⟩
      rw [Plan.mem_foreignFields]
      simp [Plan.ReadsForeign, hstrategy]

/-- What has happened when a field was asked for: its value was there, it has no owner, or its owner has
settled it. -/
theorem resolveAt_succ_eq_ok {budget : Nat} {value : Option String}
    (h : (resolveAt setup sources ordinal (budget + 1) field).exec s = (.ok value, s')) :
    (s' = s ∧ value = s.relations.value? field ordinal ∧
        (value.isSome ∨ setup.plan.owner? field = none)) ∨
      s.relations.value? field ordinal = none ∧ ∃ r asked t u w,
        setup.plan.owner? field = some r ∧
        AskedFor (resolveAt setup sources ordinal budget) asked s t ∧
        (∀ f, f ∈ asked ↔ setup.plan.SuppliedEarlier r f) ∧
        t.Quiet u ∧
        (valueBy setup sources (resolveAt setup sources ordinal budget) r field ordinal).exec u =
          (.ok value, w) ∧
        w.Settles r ordinal (· = field) s' ∧
        s'.relations = value.elim w.relations (w.relations.settle field ordinal) := by
  unfold resolveAt at h
  rw [exec_get_bind] at h
  cases hvalue : s.relations.value? field ordinal with
  | some v =>
      rw [hvalue] at h
      obtain ⟨rfl, rfl⟩ := exec_pure_eq_ok.1 h
      exact .inl ⟨rfl, rfl, .inl rfl⟩
  | none =>
      rw [hvalue] at h
      dsimp only at h
      cases howner : setup.plan.owner? field with
      | none =>
          rw [howner] at h
          obtain ⟨rfl, rfl⟩ := exec_pure_eq_ok.1 h
          exact .inl ⟨rfl, rfl, .inr rfl⟩
      | some r =>
          rw [howner] at h
          obtain ⟨⟨⟩, t, hearlier, h⟩ := exec_bind_eq_ok.1 h
          obtain ⟨⟨⟩, u, hcount, h⟩ := exec_bind_eq_ok.1 h
          obtain ⟨found, w, hby, h⟩ := exec_bind_eq_ok.1 h
          obtain ⟨asked, hasked, hmem⟩ := settleEarlier_eq_ok hearlier
          have hsteps : TakesTentativeSteps (fun _ => True) (record (.countRelationship r.id)) :=
            record_takesTentativeSteps (.relationship r.id)
          refine .inr ⟨rfl, r, asked, t, u, w, rfl, hasked, hmem, hsteps.quiet hcount, ?_⟩
          cases found with
          | none =>
              obtain ⟨rfl, rfl⟩ := exec_pure_eq_ok.1 h
              exact ⟨hby, .refl RunState.kept_grows _, rfl⟩
          | some v =>
              obtain ⟨⟨⟩, x, hsettle, h⟩ := exec_bind_eq_ok.1 h
              obtain ⟨rfl, rfl⟩ := exec_pure_eq_ok.1 h
              refine ⟨hby, .of_relate (.settle (P := (· = field)) rfl _ v) hsettle, ?_⟩
              cases hsettle
              rfl

end Settled
end Relation
end Specimen
