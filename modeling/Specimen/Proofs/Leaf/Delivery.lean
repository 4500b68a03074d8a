import Specimen.Proofs.Leaf.Steps
import Specimen.Proofs.Relation.Enforcement
import Specimen.Proofs.Walk.Leaves

/-!
# Values that reach the document

A field hands out its values one instance after another.  A leaf that belongs to a field takes the next one,
so that the values of a field stand in the document in the order of their instances.  This needs that every
leaf a field stands for asks for it: that the leaf has no fixed value, and that no other field comes first.

`Delivers` says it of a row of leaves.  It is shown of one leaf and holds of a document by induction on its
leaves.
-/

namespace Specimen

open Run

/-- A leaf asks for every field of a constraint that stands for it. -/
def Plan.Asks (plan : Plan) (c : Constraint) (name path : String) (fixed : Option String) : Prop :=
  ∀ f ∈ c.fields, keyMatches f name path = true →
    fixed = none ∧ plan.participantField? name path = some f

/-- What resolving leaves has done to a constraint: it is still enforced, settled values are kept, and each of
its fields has handed its next values to the leaves that it stands for. -/
structure RunState.Delivers (plan : Plan) (r : Relationship) (c : Constraint) (s : RunState)
    (leaves : List DocumentLeaf) (t : RunState) : Prop where
  enforces : s.Enforces plan r c → t.Enforces plan r c
  kept : ∀ f n v, s.relations.value? f n = some v → t.relations.value? f n = some v
  asked : ∀ f ∈ c.fields,
    t.relations.asked.getD f 0 = s.relations.asked.getD f 0 + (valuesFor f leaves).length
  values : ∀ f ∈ c.fields, ∀ n v, (valuesFor f leaves)[n]? = some v →
    t.relations.value? f (s.relations.asked.getD f 0 + n) = some v

namespace RunState.Delivers

variable {plan : Plan} {r : Relationship} {c : Constraint} {s t u : RunState}
  {leaves more : List DocumentLeaf}

theorem of_quiet (h : s.Quiet t) (hnone : ∀ f ∈ c.fields, valuesFor f leaves = []) :
    s.Delivers plan r c leaves t := by
  refine ⟨fun hs => hs.of_quiet h, fun f n _ hv => (h.same.value?_eq f n).trans hv, ?_, ?_⟩
  · intro f hf
    rw [hnone f hf, h.same.asked]
    rfl
  · intro f hf n v hv
    rw [hnone f hf] at hv
    cases hv

theorem append (hst : s.Delivers plan r c leaves t) (htu : t.Delivers plan r c more u) :
    s.Delivers plan r c (leaves ++ more) u where
  enforces h := htu.enforces (hst.enforces h)
  kept f n v h := htu.kept f n v (hst.kept f n v h)
  asked f hf := by
    rw [htu.asked f hf, hst.asked f hf, valuesFor_append, List.length_append, Nat.add_assoc]
  values f hf n v hv := by
    rw [valuesFor_append] at hv
    by_cases hn : n < (valuesFor f leaves).length
    · rw [List.getElem?_append_left hn] at hv
      exact htu.kept f _ v (hst.values f hf n v hv)
    · have hle := Nat.le_of_not_lt hn
      rw [List.getElem?_append_right hle] at hv
      have hvalue := htu.values f hf _ v hv
      rw [hst.asked f hf, Nat.add_assoc, Nat.add_sub_cancel' hle] at hvalue
      exact hvalue

end RunState.Delivers

namespace Leaf

variable {setup : Setup} {r : Relationship} {c : Constraint} {s s' : RunState} {q : LeafRequest}

theorem keyMatches_of_delegate? {field : String} (h : delegate? setup q = some field) :
    keyMatches field q.name q.path = true := by
  have hfound := (Option.filter_eq_some_iff.1 h).1
  unfold Plan.participantField? at hfound
  simpa using List.find?_some hfound

/-- A leaf that asks for a field asks for no other one, whatever custom values it has. -/
theorem delegate?_of_asks (hasks : setup.plan.Asks c q.name q.path q.fixed) {f : String} (hf : f ∈ c.fields)
    (hstrategy : r.strategy ≠ .consistentPersona) (howner : setup.plan.owner? f = some r)
    (hmatches : keyMatches f q.name q.path = true) : delegate? setup q = some f := by
  have hdraws : setup.plan.drawsFromField f = true := by
    unfold Plan.drawsFromField
    rw [howner]
    simpa using hstrategy
  refine Option.filter_eq_some_iff.2 ⟨(hasks f hf hmatches).2, ?_⟩
  rw [hdraws, Bool.or_true]

/-- The next value of a field is handed out. -/
theorem resolveField_delivers (hchecks : r.Checks setup (fieldSources setup) c) {field : String}
    {value : Option String}
    (hrun : (Relation.resolveField setup (fieldSources setup) field).exec s = (.ok value, s')) :
    (s.Enforces setup.plan r c → s'.Enforces setup.plan r c) ∧
      (∀ f n v, s.relations.value? f n = some v → s'.relations.value? f n = some v) ∧
      (∀ f, s'.relations.asked.getD f 0 =
        s.relations.asked.getD f 0 + if f = field then 1 else 0) ∧
      (field ∈ c.fields → ∃ v, value = some v ∧
        s'.relations.value? field (s.relations.asked.getD field 0) = some v) := by
  have hat := Relation.resolveField_eq_ok hrun
  have hextends := Relation.resolveAt_extends fieldSources_supplied.leavesAlone hat
  refine ⟨fun hs => ?_, fun f n v hv => hextends.kept f n v hv,
    Relation.resolveField_asked fieldSources_supplied.leavesAlone hrun, fun hf => ?_⟩
  · have hnext : RunState.Enforces setup.plan r c { s with relations := (s.relations.next field).2 } :=
      hs.of_values (.of_same rfl rfl rfl rfl) fun _ _ => rfl
    exact Relation.resolveAt_enforces fieldSources_supplied hchecks hnext hat
  · exact Relation.resolveAt_returns_settled fieldSources_supplied.leavesAlone (hchecks.owner? hf)
      (hchecks.supplied field hf).1 hchecks.strategy hat

/-- What has been done for the value of a leaf that is not fixed. -/
theorem resolveOpen_eq_ok {value : String} (hrun : (resolveOpen setup q).exec s = (.ok value, s')) :
    (delegate? setup q = none ∧ s.Quiet s') ∨
      ∃ field supplied t, delegate? setup q = some field ∧
        (Relation.resolveField setup (fieldSources setup) field).exec s = (.ok supplied, t) ∧
        t.Quiet s' ∧ ∀ v, supplied = some v → value = v := by
  unfold resolveOpen at hrun
  split at hrun
  · rename_i hnone
    exact .inl ⟨hnone, (fromSources_takesTentativeSteps q).quiet hrun⟩
  · rename_i field hfield
    obtain ⟨supplied, t, hsupplied, hrun⟩ := exec_bind_eq_ok.1 hrun
    refine .inr ⟨field, supplied, t, hfield, hsupplied, ?_⟩
    cases supplied with
    | none => exact ⟨(fromSources_takesTentativeSteps q).quiet hrun, nofun⟩
    | some v =>
        obtain ⟨_, u, hkeep, hrun⟩ := exec_bind_eq_ok.1 hrun
        obtain ⟨rfl, rfl⟩ := exec_pure_eq_ok.1 hrun
        have hsteps : TakesTentativeSteps (LeafFailure setup) (keepRelated setup q field v) :=
          keepRelated_takesTentativeSteps q field v
        exact ⟨hsteps.quiet hkeep, fun w hw => Option.some.inj hw⟩

theorem delivers_of_unasked (hkeys : ∀ f ∈ c.fields, keyMatches f q.name q.path ≠ true) (value : String)
    (hquiet : s.Quiet s') : s.Delivers setup.plan r c [⟨q.name, q.path, value⟩] s' := by
  refine .of_quiet hquiet fun f hf => ?_
  rw [valuesFor_singleton, if_neg (hkeys f hf)]

/-- A leaf that asks for a field carries the value that is settled for it. -/
theorem delivers_of_asked (hchecks : r.Checks setup (fieldSources setup) c) {field : String}
    (hkeys : ∀ f ∈ c.fields, (keyMatches f q.name q.path = true ↔ f = field)) {t : RunState}
    {supplied : Option String} {value : String}
    (hsupplied : (Relation.resolveField setup (fieldSources setup) field).exec s = (.ok supplied, t))
    (hquiet : t.Quiet s') (hvalue : ∀ v, supplied = some v → value = v) :
    s.Delivers setup.plan r c [⟨q.name, q.path, value⟩] s' := by
  obtain ⟨henforces, hkept, hasked, hsettled⟩ := resolveField_delivers hchecks hsupplied
  refine ⟨fun hs => (henforces hs).of_quiet hquiet, fun f n v hv => ?_, fun f hf => ?_,
    fun f hf n v hv => ?_⟩
  · rw [hquiet.same.value?_eq]
    exact hkept f n v hv
  · rw [hquiet.same.asked, hasked, valuesFor_singleton]
    simp only [hkeys f hf]
    split <;> rfl
  · rw [valuesFor_singleton] at hv
    simp only [hkeys f hf] at hv
    split at hv
    · rename_i heq
      subst heq
      obtain ⟨w, hw, hsettled⟩ := hsettled hf
      cases n with
      | succ n => cases hv
      | zero =>
          rw [hquiet.same.value?_eq, ← Option.some.inj hv, hvalue w hw]
          exact hsettled
    · cases hv

/-- A leaf takes the next value of the field that stands for it. -/
theorem resolve_delivers (hchecks : r.Checks setup (fieldSources setup) c)
    (hasks : setup.plan.Asks c q.name q.path q.fixed) {value : String}
    (hrun : (resolve setup q).exec s = (.ok value, s')) :
    s.Delivers setup.plan r c [⟨q.name, q.path, value⟩] s' := by
  have hmatches : ∀ f ∈ c.fields, keyMatches f q.name q.path = true →
      q.fixed = none ∧ delegate? setup q = some f := fun f hf hkey =>
    ⟨(hasks f hf hkey).1, delegate?_of_asks hasks hf hchecks.strategy (hchecks.owner? hf) hkey⟩
  unfold resolve at hrun
  cases hfixed : q.fixed with
  | some fixed =>
      rw [hfixed] at hrun
      obtain ⟨_, t, hrecord, hrun⟩ := exec_bind_eq_ok.1 hrun
      obtain ⟨rfl, rfl⟩ := exec_pure_eq_ok.1 hrun
      have hsteps : TakesTentativeSteps (LeafFailure setup) (record (.countValue "fixed")) :=
        record_takesTentativeSteps (.value _)
      refine delivers_of_unasked (fun f hf hkey => ?_) _ (hsteps.quiet hrecord)
      rw [(hmatches f hf hkey).1] at hfixed
      cases hfixed
  | none =>
      rw [hfixed] at hrun
      rcases resolveOpen_eq_ok hrun with
        ⟨hnone, hquiet⟩ | ⟨field, supplied, t, hfield, hsupplied, hquiet, hvalue⟩
      · refine delivers_of_unasked (fun f hf hkey => ?_) _ hquiet
        rw [(hmatches f hf hkey).2] at hnone
        cases hnone
      · refine delivers_of_asked hchecks (fun f hf => ⟨fun hkey => ?_, ?_⟩) hsupplied hquiet hvalue
        · exact Option.some.inj ((hmatches f hf hkey).2.symm.trans hfield)
        · rintro rfl
          exact keyMatches_of_delegate? hfield

theorem Resolved.delivers {root : Element} (hchecks : r.Checks setup (fieldSources setup) c)
    (hasks : ∀ name path facets fixed, setup.schema.HasLeaf root name path facets fixed →
      setup.plan.Asks c name path fixed)
    {leaves : List DocumentLeaf} (h : Resolved setup root s leaves s') :
    s.Delivers setup.plan r c leaves s' := by
  obtain ⟨xs, hrow, rfl⟩ := h
  induction hrow with
  | nil hquiet => exact .of_quiet hquiet fun _ _ => rfl
  | cons hquiet hdeclared hrun _ ih =>
      have hbefore : RunState.Delivers setup.plan r c _ [] _ := .of_quiet hquiet fun _ _ => rfl
      exact (hbefore.append (resolve_delivers hchecks (hasks _ _ _ _ hdeclared) hrun)).append ih

/-! ## First values -/

/-- A field whose leaf has custom values has candidates. -/
theorem candidatePool_of_customValues {field : String}
    (hcustom : (setup.index.fieldEntry? field).any (fun entry =>
      (setup.plan.rule? entry.1.name entry.1.path).any fun rule => !rule.customValues.isEmpty) = true)
    (r : Relationship) : Returns (candidatePool setup field r) fun pool _ => pool ≠ [] := by
  cases hentry : setup.index.fieldEntry? field with
  | none =>
      rw [hentry] at hcustom
      cases hcustom
  | some entry =>
      rw [hentry, Option.any_some] at hcustom
      cases hrule : setup.plan.rule? entry.1.name entry.1.path with
      | none =>
          rw [hrule] at hcustom
          cases hcustom
      | some rule =>
          rw [hrule, Option.any_some] at hcustom
          unfold candidatePool fieldRequest
          rw [hentry]
          dsimp only
          rw [pure_bind]
          unfold configuredPool
          dsimp only
          rw [hrule]
          dsimp only
          rw [if_pos hcustom, pure_bind, if_neg (by simpa using hcustom), pure_bind]
          refine .pure fun _ => ?_
          split
          · simpa using hcustom
          · rename_i hconforming
            simpa using hconforming

/-- The field that a relationship settles first is drawn beside no other value. -/
theorem dependentValue_of_unsettled {sources : FieldSources} {field : String} (hdependsOn : r.dependsOn = [])
    (howned : ∀ f ∈ r.fields, setup.plan.owns r f = true) {ordinal : Nat}
    (hopen : ∀ f ∈ r.fields, s.relations.value? f ordinal = none)
    (resolve : String → Run (Option String)) :
    (Relation.dependentValue setup sources resolve r field ordinal).exec s =
      (sources.pool field r >>= fun pool =>
        if pool.isEmpty then sources.independent field
        else Relation.drawDependent sources r Dict.empty field pool).exec s := by
  have hbound : (Relation.bindings r ordinal).exec s = (.ok Dict.empty, s) := by
    rw [← RelationState.bindings_of_unsettled hopen]
    rfl
  unfold Relation.dependentValue
  rw [hdependsOn, Relation.settleForeign_of_owned howned]
  simp only [Relation.settleDependencies, List.contains_nil, Bool.false_eq_true, if_false, pure_bind]
  rw [exec_bind_of_ok hbound]

/-- Settles the first value of a field and keeps it for a leaf. -/
def handOut (setup : Setup) (q : LeafRequest) (field value : String) : Run String := do
  relate fun s => s.settle field 0 value
  keepRelated setup q field value
  return value

/-- The value of a leaf by a relationship of dependent fields that no other one comes before, when nothing
was asked for before. -/
theorem resolve_of_dependentValues (hfixed : q.fixed = none) {field : String}
    (hdelegate : delegate? setup q = some field) (howner : setup.plan.owner? field = some r)
    (hstrategy : r.strategy = .dependentValues) (hafter : r.after = []) (hfirst : s.relations = {}) :
    (resolve setup q).exec s =
      (Relation.dependentValue setup (fieldSources setup)
        (Relation.resolveAt setup (fieldSources setup) 0 setup.plan.owners.size) r field 0 >>=
          handOut setup q field).exec
        { s with
          relations := (s.relations.next field).2
          report := s.report.countRelationship r.id } := by
  have hordinal : (s.relations.next field).1 = 0 := by
    rw [hfirst]
    exact Std.HashMap.getD_empty
  have hopen : (s.relations.next field).2.value? field 0 = none := by
    rw [hfirst]
    exact Std.HashMap.getElem?_empty
  have hfield : ∀ f : Option String → Run String,
      (Relation.resolveField setup (fieldSources setup) field >>= f).exec s =
        (Relation.resolveAt setup (fieldSources setup) 0 (setup.plan.owners.size + 1) field >>= f).exec
          { s with relations := (s.relations.next field).2 } := by
    intro f
    rw [← hordinal]
    rfl
  unfold resolve resolveOpen
  rw [hfixed, hdelegate]
  dsimp only
  rw [hfield]
  unfold Relation.resolveAt
  rw [bind_assoc, exec_get_bind]
  dsimp only
  rw [hopen, howner]
  dsimp only
  unfold Relation.valueBy
  rw [hafter, hstrategy]
  simp only [Relation.settleEarlier, pure_bind, bind_assoc]
  rfl

end Leaf
end Specimen
