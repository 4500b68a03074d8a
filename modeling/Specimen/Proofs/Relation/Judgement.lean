import Specimen.Proofs.Relation.Coherence

/-!
# How personas are judged

A record is picked for a persona after the foreign fields of the instance were settled.  It is judged by what it says
about all fields of the relationship, and by what is settled for those that it says nothing about.  What it says about
a foreign field is not what its owner has settled there, and it is the owner's value that stays.  So the report is told
of a constraint that the settled values violate, provided that the record does not contradict the owners of the foreign
fields that the constraint refers to.
-/

namespace Specimen

open Run

namespace Relationship

/-- Notices tell that constraints of a relationship are violated. -/
def Flagged (r : Relationship) (notices : List Notice) : Prop :=
  ∃ w ∈ notices, w.code = "constraint_violation" ∧ w.relationship = some r.id

/-- What is told of a record that is kept, beside the settled values. -/
def verdict (r : Relationship) (record : Json) (settled : Bindings) : List Notice :=
  if Constraint.allBoundHold r.constraints (r.bindRecord record settled) then []
  else [r.violationNotice (r.bindRecord record settled) none]

/-- A record speaks for the fields of the relationship that it has, and settled values speak for the others. -/
theorem get?_bindRecord (r : Relationship) (record : Json) (settled : Bindings) {f : String} (hf : f ∈ r.fields) :
    (r.bindRecord record settled).get? f = (recordText? record (r.recordKey f)).or (settled.get? f) := by
  have hfold : (r.bindRecord record settled).get? f = if f ∈ r.fields then
      (recordText? record (r.recordKey f)).or (settled.get? f) else settled.get? f :=
    Dict.get?_foldl_insert (fun f => recordText? record (r.recordKey f))
      (fun d k => by cases recordText? record (r.recordKey k) <;> rfl) r.fields settled f
  rw [hfold, if_pos hf]

/-- Whatever else was told before, a record is flagged exactly if it violates a constraint. -/
theorem flagged_verdict {r : Relationship} {record : Json} {settled : Bindings} {earlier : List Notice}
    (hearlier : ¬ r.Flagged earlier) : r.Flagged (earlier ++ r.verdict record settled) ↔
      ∃ k ∈ r.constraints, k.check (r.bindRecord record settled) = .violated := by
  have hfail : (∃ k ∈ r.constraints, k.check (r.bindRecord record settled) = .violated) ↔
      ¬ Constraint.allBoundHold r.constraints (r.bindRecord record settled) = true := by
    rw [Constraint.allBoundHold_iff]
    push Not
    rfl
  rw [hfail]
  unfold verdict
  split
  · rename_i hholds
    rw [List.append_nil]
    exact iff_of_false hearlier (not_not_intro hholds)
  · rename_i hfails
    exact iff_of_true ⟨_, List.mem_append_right _ (List.mem_singleton_self _), rfl, rfl⟩ hfails

/-- A record says nothing else about several fields than what is settled for those of them that another relationship
owns. -/
def AgreesWithOwners (plan : Plan) (r : Relationship) (record : Json) (fields : List String) (ordinal : Nat)
    (s : RelationState) : Prop :=
  ∀ f ∈ fields, plan.owns r f = false → ∀ v w, recordText? record (r.recordKey f) = some v →
    s.value? f ordinal = some w → v = w

/-- A record that agrees with the owners, beside what was settled for them, has all values that are there when its
persona has been settled by it. -/
theorem extendOn_bindRecord {setup : Setup} {r : Relationship} {index : Nat} {record : Json} {fields : List String}
    {ordinal : Nat} {s t : RelationState} (hrecords : t.FromRecords setup r)
    (hpicked : t.persona? r.id ordinal = some (some index)) (hrecord : setup.recordAt? r index = some record)
    (hforeign : ∀ f, setup.plan.owns r f = false → t.value? f ordinal = s.value? f ordinal)
    (hagrees : r.AgreesWithOwners setup.plan record fields ordinal t) :
    Bindings.ExtendOn fields (t.bindings r ordinal) (r.bindRecord record (s.bindings r ordinal)) := by
  intro f hf v hv
  rw [RelationState.get?_bindings] at hv
  split at hv
  · rename_i hmem
    rw [r.get?_bindRecord record _ hmem]
    cases howns : setup.plan.owns r f with
    | true =>
        obtain ⟨i, record', hi, hrecord', htext⟩ := hrecords ordinal f v howns hv
        rw [hpicked] at hi
        cases hi
        rw [hrecord] at hrecord'
        cases hrecord'
        rw [htext, Option.some_or]
    | false =>
        cases htext : recordText? record (r.recordKey f) with
        | some other => rw [hagrees f hf howns other v htext hv, Option.some_or]
        | none => rw [Option.none_or, RelationState.get?_bindings, if_pos hmem, ← hforeign f howns, hv]
  · cases hv

end Relationship

namespace Relation

variable {K : RunState → RunState → Prop} {setup : Setup} {sources : FieldSources}
  {resolve : String → Run (Option String)} {r : Relationship} {field : String} {ordinal : Nat}
  {records : List Json} {index : Nat} {s s' : RunState}

/-! ## Picks -/

/-- Of the records, one is left that was not used as long as fewer were used than there are. -/
theorem exists_unused {count : Nat} {used : List Nat} (hfew : used.length < count) : ∃ i < count, i ∉ used := by
  by_contra hall
  push Not at hall
  have hsubset : List.range count ⊆ used := fun i hi => hall i (List.mem_range.1 hi)
  have hle := (List.nodup_range.subperm hsubset).length_le
  rw [List.length_range] at hle
  exact absurd hfew (Nat.not_lt.2 hle)

/-- The candidates are records, and there are candidates whenever there are records.  It may be told that the records
are used up, but nothing is said of violations. -/
theorem personaCandidates_eq_ok {candidates : List Nat}
    (h : (personaCandidates r records).exec s = (.ok candidates, s')) :
    (∀ i ∈ candidates, i < records.length) ∧ (records ≠ [] → candidates ≠ []) ∧
      ∃ notices, s.Reports notices s' ∧ ¬ r.Flagged notices := by
  unfold personaCandidates at h
  dsimp only at h
  split at h
  · obtain ⟨rfl, rfl⟩ := exec_pure_eq_ok.1 h
    exact ⟨fun i => List.mem_range.1, by simp, [], .of_warnings rfl, by simp [Relationship.Flagged]⟩
  · rw [exec_get_bind] at h
    obtain ⟨t, notices, hreports, hunflagged, hfew, h⟩ : ∃ t notices,
        s.Reports notices t ∧ ¬ r.Flagged notices ∧
        (records ≠ [] → (t.relations.recordsUsed r.id).length < records.length) ∧
        (get >>= fun u => pure ((List.range records.length).filter fun i =>
          !(u.relations.recordsUsed r.id).contains i) : Run _).exec t = (.ok candidates, s') := by
      split at h
      · rw [exec_relate_bind] at h
        obtain ⟨⟨⟩, t, hwarn, h⟩ := exec_bind_eq_ok.1 h
        have hforgot : s.Reports [] { s with relations := s.relations.forgetRecords r.id } := .of_warnings rfl
        have hnone : t.relations.recordsUsed r.id = [] := by
          cases hwarn
          exact Std.HashMap.getD_insert_self
        refine ⟨t, [r.exhaustedNotice records.length], hforgot.trans (.of_warn hwarn),
          by simp [Relationship.Flagged, Relationship.exhaustedNotice], fun hne => ?_, h⟩
        rw [hnone]
        exact List.length_pos_iff.2 hne
      · rename_i hfew
        exact ⟨s, [], .of_warnings rfl, by simp [Relationship.Flagged], fun _ => Nat.not_le.1 hfew, h⟩
    rw [exec_get_bind] at h
    obtain ⟨rfl, rfl⟩ := exec_pure_eq_ok.1 h
    refine ⟨fun i hi => List.mem_range.1 (List.mem_filter.1 hi).1, fun hne => ?_, notices, hreports, hunflagged⟩
    obtain ⟨i, hi, hunused⟩ := exists_unused (hfew hne)
    exact List.ne_nil_of_mem (List.mem_filter.2 ⟨List.mem_range.2 hi, by simpa using hunused⟩)

/-- Some candidate is kept whenever there are any. -/
theorem tryRecords_isSome {candidates : List Nat} (hne : candidates ≠ []) {settled : Bindings} {tries : Nat}
    (htries : 0 < tries) {kept : Option Nat}
    (h : (tryRecords r records candidates settled tries).exec s = (.ok kept, s')) : kept.isSome := by
  induction tries generalizing s with
  | zero => cases htries
  | succ tries ih =>
      obtain ⟨picked, t, hpick, h⟩ := exec_bind_eq_ok.1 h
      obtain ⟨i, -, rfl⟩ := pickFrom_returns _ _ hne _ _ _ hpick
      dsimp only at h
      split at h
      · rw [← (exec_pure_eq_ok.1 h).1]
        rfl
      · obtain ⟨⟨⟩, u, -, h⟩ := exec_bind_eq_ok.1 h
        split at h
        · obtain ⟨⟨⟩, w, -, h⟩ := exec_bind_eq_ok.1 h
          rw [← (exec_pure_eq_ok.1 h).1]
          rfl
        · rename_i hmore
          exact ih (Nat.pos_of_ne_zero hmore) h

/-- The record that is kept is judged, and nothing is told of those that were tried before. -/
theorem tryRecords_eq_ok {candidates : List Nat} {settled : Bindings} {tries : Nat}
    (h : (tryRecords r records candidates settled tries).exec s = (.ok (some index), s')) :
    index ∈ candidates ∧ s.Reports (r.verdict (records.getD index .null) settled) s' := by
  induction tries generalizing s with
  | zero => cases (exec_pure_eq_ok.1 h).1
  | succ tries ih =>
      obtain ⟨picked, t, hpick, h⟩ := exec_bind_eq_ok.1 h
      have hst : s.Reports [] t := (pickFrom_frame hpick).1
      cases picked with
      | none => cases (exec_pure_eq_ok.1 h).1
      | some i =>
          dsimp only at h
          by_cases hholds : Constraint.allBoundHold r.constraints
              (r.bindRecord (records.getD i .null) settled) = true
          · rw [if_pos hholds] at h
            obtain ⟨heq, rfl⟩ := exec_pure_eq_ok.1 h
            cases heq
            refine ⟨mem_of_pickFrom hpick, ?_⟩
            unfold Relationship.verdict
            rwa [if_pos hholds]
          · rw [if_neg hholds] at h
            obtain ⟨⟨⟩, u, hretry, h⟩ := exec_bind_eq_ok.1 h
            have htu : t.Reports [] u := .of_warnings (by cases hretry; rfl)
            have hsu : s.Reports [] u := hst.trans htu
            split at h
            · obtain ⟨⟨⟩, w, hwarn, h⟩ := exec_bind_eq_ok.1 h
              obtain ⟨heq, rfl⟩ := exec_pure_eq_ok.1 h
              cases heq
              refine ⟨mem_of_pickFrom hpick, ?_⟩
              unfold Relationship.verdict
              rw [if_neg hholds]
              exact hsu.trans (.of_warn hwarn)
            · obtain ⟨hmem, hreports⟩ := ih h
              exact ⟨hmem, hsu.trans hreports⟩

/-- The stages of a pick: candidates are found among the records, some of them are tried, and one is kept. -/
theorem pickPersona_stages {picked : Option Nat}
    (h : (pickPersona setup r records ordinal).exec s = (.ok picked, s')) :
    (records = [] ∧ picked = none) ∨ ∃ candidates t u,
      (personaCandidates r records).exec s = (.ok candidates, t) ∧
      (tryRecords r records candidates (s.relations.bindings r ordinal) (r.attempts setup.options)).exec t =
        (.ok picked, u) ∧ u.Reports [] s' := by
  unfold pickPersona at h
  split at h
  · rename_i hempty
    obtain ⟨⟨⟩, t, -, h⟩ := exec_bind_eq_ok.1 h
    exact .inl ⟨List.isEmpty_iff.1 hempty, (exec_pure_eq_ok.1 h).1.symm⟩
  · obtain ⟨candidates, t, hcandidates, h⟩ := exec_bind_eq_ok.1 h
    have hsteps : TakesTentativeSteps (fun _ => True) (personaCandidates r records) :=
      personaCandidates_takesTentativeSteps r records
    rw [exec_bindings_bind, (hsteps.quiet hcandidates).same.bindings_eq] at h
    obtain ⟨chosen, u, htry, h⟩ := exec_bind_eq_ok.1 h
    obtain ⟨rfl, hus'⟩ : chosen = picked ∧ u.Reports [] s' := by
      cases chosen with
      | none =>
          obtain ⟨rfl, rfl⟩ := exec_pure_eq_ok.1 h
          exact ⟨rfl, .of_warnings rfl⟩
      | some i =>
          dsimp only at h
          split at h
          · rw [exec_relate_bind] at h
            obtain ⟨rfl, rfl⟩ := exec_pure_eq_ok.1 h
            exact ⟨rfl, .of_warnings rfl⟩
          · obtain ⟨rfl, rfl⟩ := exec_pure_eq_ok.1 h
            exact ⟨rfl, .of_warnings rfl⟩
    exact .inr ⟨candidates, t, u, hcandidates, htry, hus'⟩

/-- A record that is picked is flagged exactly if it violates a constraint, with what it says itself and what is
settled beside it. -/
theorem pickPersona_eq_ok (h : (pickPersona setup r records ordinal).exec s = (.ok (some index), s')) :
    ∃ record notices, records[index]? = some record ∧ s.Reports notices s' ∧
      (r.Flagged notices ↔
        ∃ k ∈ r.constraints, k.check (r.bindRecord record (s.relations.bindings r ordinal)) = .violated) := by
  rcases pickPersona_stages h with ⟨-, hnone⟩ | ⟨candidates, t, u, hcandidates, htry, hus'⟩
  · cases hnone
  · obtain ⟨hbelow, -, earlier, hst, hearlier⟩ := personaCandidates_eq_ok hcandidates
    obtain ⟨hmem, htu⟩ := tryRecords_eq_ok htry
    have hrecord : records[index]? = some (records.getD index .null) := by
      rw [List.getD_eq_getElem?_getD, List.getElem?_eq_getElem (hbelow index hmem), Option.getD_some]
    have hreports := (hst.trans htu).trans hus'
    rw [List.append_nil] at hreports
    exact ⟨_, _, hrecord, hreports, Relationship.flagged_verdict hearlier⟩

/-- A record is picked whenever the source of the persona has any. -/
theorem pickPersona_isSome (hrecords : records ≠ []) {picked : Option Nat}
    (h : (pickPersona setup r records ordinal).exec s = (.ok picked, s')) : picked.isSome := by
  rcases pickPersona_stages h with ⟨hnil, -⟩ | ⟨candidates, t, u, hcandidates, htry, -⟩
  · exact absurd hnil hrecords
  · have htries : 0 < r.attempts setup.options := Nat.le_max_right _ 1
    exact tryRecords_isSome ((personaCandidates_eq_ok hcandidates).2.1 hrecords) htries htry

/-- The stages of a call for a persona that picks a record: the foreign fields are settled, the record is picked, and
then the persona settles its fields and nothing else. -/
theorem personaValue_stages (hfound : setup.plan.relationship? r.id = some r) {value : Option String}
    (hnone : s.relations.persona? r.id ordinal = none)
    (h : (personaValue setup resolve r field ordinal).exec s = (.ok value, s'))
    (hpicked : s'.relations.persona? r.id ordinal = some (some index)) :
    ∃ records t u, (∀ i, setup.recordAt? r i = records[i]?) ∧
      (settleForeign setup resolve r field r.fields).exec s = (.ok (), t) ∧
      (pickPersona setup r records ordinal).exec t = (.ok (some index), u) ∧ u.Reports [] s' ∧
      ∀ f n, setup.plan.owns r f = false → s'.relations.value? f n = t.relations.value? f n := by
  rcases personaValue_cases h with ⟨-, -, rfl⟩ | ⟨source, records, picked, w, hsource, hread, hpersona, hend⟩
  · rw [hnone] at hpicked
    cases hpicked
  obtain ⟨t, u, hforeign, hpick, hquiet, hset⟩ := personaOf_stages hnone hpersona
  have hat : ∀ i, setup.recordAt? r i = records[i]? := Setup.recordAt?_eq hsource hread
  have hw : w.relations.persona? r.id ordinal = some picked := by
    cases hset
    exact RelationState.persona?_setPersona.trans (if_pos rfl)
  -- when the persona settles its fields, the record that was picked stays
  obtain ⟨hkept, hreports, rfl⟩ : w.Settles r ordinal (fun f => setup.plan.owns r f = true) s' ∧
      w.Reports [] s' ∧ picked = some index := by
    rcases hend with ⟨-, rfl⟩ | ⟨record, hrecord, hsettle, -⟩
    · exact ⟨.refl RunState.kept_grows _, .of_warnings rfl, Option.some.inj (hw.symm.trans hpicked)⟩
    · obtain ⟨i, rfl, hget⟩ := Option.bind_eq_some_iff.1 hrecord
      have hstill := (settleRecord_coheres hfound hw ((hat i).trans hget) hsettle).picked r.id ordinal _ hw
      refine ⟨settleRecord_eq_ok hsettle, ?_, Option.some.inj (hstill.symm.trans hpicked)⟩
      cases hsettle
      exact .of_warnings rfl
  have huw : u.Reports [] w := .of_warnings (by cases hset; rfl)
  refine ⟨records, t, u, hat, hforeign, hpick, huw.trans hreports, fun f n howns => ?_⟩
  have hrelations : w.relations.value? f n = u.relations.value? f n := by
    cases hset
    rfl
  rw [hkept.changes.value?_eq (by rw [howns]; nofun), hrelations, hquiet.same.value?_eq]

/-! ## Reachable states -/

/-- The states in which a relationship can be asked for a field, in a run that has begun with nothing remembered: on the
way instances were counted, fields were asked for, fields were settled that others depend on, and whatever else
happened has settled nothing. -/
inductive Reached (setup : Setup) (sources : FieldSources) : RunState → Prop where
  | start {s : RunState} (hstart : s.relations = {}) : Reached setup sources s
  | quiet {s t : RunState} (hs : Reached setup sources s) (hsame : s.relations.SameValues t.relations) :
      Reached setup sources t
  | counted {s t : RunState} {field : String} (hs : Reached setup sources s)
      (hnext : t.relations = (s.relations.next field).2) : Reached setup sources t
  | asked {s t : RunState} {field : String} {ordinal budget : Nat} {value : Option String}
      (hs : Reached setup sources s)
      (hcall : (resolveAt setup sources ordinal budget field).exec s = (.ok value, t)) : Reached setup sources t
  | depended {s t : RunState} {r : Relationship} {ordinal : Nat} (hs : Reached setup sources s)
      (hfound : setup.plan.relationship? r.id = some r) (hstrategy : r.strategy = .dependentValues)
      (hcall : (settleDependencies setup sources r ordinal r.dependsOn).exec s = (.ok (), t)) :
      Reached setup sources t

namespace Reached

/-- In a reachable state the values of all personas are from their records. -/
theorem fromRecords (hsources : LeavesAlone K setup sources) (hfound : setup.plan.relationship? r.id = some r)
    (hstrategy : r.strategy = .consistentPersona) (h : Reached setup sources s) :
    s.relations.FromRecords setup r := by
  induction h with
  | start hstart =>
      rw [hstart]
      exact fromRecords_of_empty
  | quiet _ hsame ih => exact (RelationState.Coheres.of_same hsame).fromRecords r hfound hstrategy ih
  | counted _ hnext ih =>
      rw [hnext]
      exact ih
  | asked _ hcall ih => exact (resolveAt_coheres hsources hcall).fromRecords r hfound hstrategy ih
  | depended _ hfound' hdependent hcall ih =>
      have hchanges := (settleDependencies_eq_ok hsources hcall).1.changes
      have hother : RelationState.Coheres setup _ _ :=
        .of_changes hchanges (by rw [hdependent]; nofun) hfound' fun f hf => hf.2
      exact hother.fromRecords r hfound hstrategy ih

end Reached

end Relation
end Specimen
