import Specimen.Proofs.Constraint.Fields
import Specimen.Proofs.Relation.Suspension

/-!
# Constraints that are enforced

A relationship whose fields depend on each other, or are drawn together, checks its constraints when it
settles a field.  Once all fields of a constraint are settled in an instance, the values satisfy it, or the
report warns; this is kept by everything that settles fields, and it holds of every instance at any time.

A constraint is checked when the last of its fields is drawn.  For dependent values this needs a field that
no other one depends on, since those that others depend on are settled first and without a check, and it
needs candidates to draw from.
-/

namespace Specimen

open Run

/-- What a relationship needs to check a constraint when it settles the fields of it. -/
structure Relationship.Checks (setup : Setup) (sources : FieldSources) (r : Relationship)
    (c : Constraint) : Prop where
  found : setup.plan.relationship? r.id = some r
  strategy : r.strategy ≠ .consistentPersona
  constraint : c ∈ r.constraints
  listsFields : c.ListsFields
  supplied : ∀ f ∈ c.fields, f ∈ r.fields ∧ setup.plan.owns r f = true
  drawn : ∃ f ∈ c.fields, r.strategy = .dependentValues → f ∉ r.dependsOn
  candidates : ∀ f ∈ c.fields, r.strategy = .dependentValues → f ∉ r.dependsOn →
    Returns (sources.pool f r) fun pool _ => pool ≠ []

theorem Relationship.Checks.owner? {setup : Setup} {sources : FieldSources} {r : Relationship}
    {c : Constraint} (h : r.Checks setup sources c) {f : String} (hf : f ∈ c.fields) :
    setup.plan.owner? f = some r :=
  Relation.owner?_of_owns h.found (h.supplied f hf).2

/-- Whatever a relationship has settled for the fields of a constraint satisfies it, or the report warns;
and no dependent field is settled before those it depends on. -/
structure RunState.Enforces (plan : Plan) (r : Relationship) (c : Constraint) (s : RunState) : Prop where
  dependencies : r.strategy = .dependentValues → ∀ n f, plan.owns r f = true → f ∉ r.dependsOn →
    (s.relations.value? f n).isSome → ∀ d ∈ r.dependsOn, plan.owns r d = true →
      (s.relations.value? d n).isSome
  flagged : ∀ n (b : Bindings),
    (∀ f ∈ c.fields, ∃ v, s.relations.value? f n = some v ∧ b.get? f = some v) →
      c.check b = .violated → r.Warned s

/-- A later state has all the values of an earlier one, and the same instances come next. -/
structure RelationState.Extends (s t : RelationState) : Prop where
  asked : t.asked = s.asked
  kept : ∀ f n v, s.value? f n = some v → t.value? f n = some v

namespace RelationState.Extends

variable {s t u : RelationState}

theorem refl (s : RelationState) : s.Extends s := ⟨rfl, fun _ _ _ => id⟩

theorem trans (hst : s.Extends t) (htu : t.Extends u) : s.Extends u :=
  ⟨htu.asked.trans hst.asked, fun f n v h => htu.kept f n v (hst.kept f n v h)⟩

theorem of_settles {K : RunState → RunState → Prop} {r : Relationship} {ordinal : Nat}
    {P : String → Prop} {s t : RunState} (h : s.SettlesBy K r ordinal P t) :
    s.relations.Extends t.relations := ⟨h.changes.asked, h.changes.kept⟩

theorem of_quiet {K : RunState → RunState → Prop} {s t : RunState} (h : s.QuietBy K t) :
    s.relations.Extends t.relations :=
  ⟨h.same.asked, fun f n _ hv => (h.same.value?_eq f n).trans hv⟩

theorem isSome (h : s.Extends t) {f : String} {n : Nat} (hf : (s.value? f n).isSome) :
    (t.value? f n).isSome := by
  obtain ⟨v, hv⟩ := Option.isSome_iff_exists.1 hf
  rw [h.kept f n v hv]
  rfl

end RelationState.Extends

namespace Relation

section Settling

variable {K : RunState → RunState → Prop} {setup : Setup} {sources : FieldSources} {ordinal : Nat}
  {field : String}

/-! ## Values are kept -/

theorem askedFor_extends {resolve : String → Run (Option String)}
    (hresolve : ∀ {f s s' value}, (resolve f).exec s = (.ok value, s') →
      s.relations.Extends s'.relations)
    {asked : List String} {s s' : RunState} (h : AskedFor resolve asked s s') :
    s.relations.Extends s'.relations := by
  induction h with
  | nil => exact .refl _
  | cons hfirst _ ih => exact (hresolve hfirst).trans ih

theorem resolveAt_extends (hsources : LeavesAlone K setup sources) {budget : Nat}
    {s s' : RunState} {value : Option String}
    (h : (resolveAt setup sources ordinal budget field).exec s = (.ok value, s')) :
    s.relations.Extends s'.relations := by
  induction budget generalizing field s s' value with
  | zero => cases h
  | succ budget ih =>
      rcases resolveAt_succ_eq_ok h with
        ⟨rfl, -⟩ | ⟨-, r, earlier, t, u, w, howner, hearlier, -, htu, hby, hlast, -⟩
      · exact .refl _
      · obtain ⟨hr, hid⟩ := owner?_spec howner
        obtain ⟨foreign, x, y, hdependencies, hforeign, -, hsettled⟩ :=
          valueBy_eq_ok hsources hr (by rw [hid]; rfl) hby
        have hux : u.relations.Extends x.relations := by
          rcases hdependencies with rfl | ⟨-, hchanges, -⟩
          · exact .refl _
          · exact .of_settles hchanges
        have hsu := (askedFor_extends ih hearlier).trans (.of_quiet htu)
        have hxy := askedFor_extends ih hforeign
        exact ((hsu.trans hux).trans hxy).trans
          ((RelationState.Extends.of_settles hsettled).trans (.of_settles hlast))

/-- A call for a field resolves it in the instance that comes next. -/
theorem resolveField_eq_ok {s s' : RunState} {value : Option String}
    (h : (resolveField setup sources field).exec s = (.ok value, s')) :
    (resolveAt setup sources (s.relations.asked.getD field 0) (setup.plan.owners.size + 1) field).exec
      { s with relations := (s.relations.next field).2 } = (.ok value, s') := h

/-- A call for a field brings its next instance on, and no others. -/
theorem resolveField_asked (hsources : LeavesAlone K setup sources) {s s' : RunState}
    {value : Option String} (h : (resolveField setup sources field).exec s = (.ok value, s'))
    (f : String) : s'.relations.asked.getD f 0 =
      s.relations.asked.getD f 0 + if f = field then 1 else 0 := by
  rw [(resolveAt_extends hsources (resolveField_eq_ok h)).asked]
  exact RelationState.asked_next s.relations field f

end Settling
end Relation

namespace RunState.Enforces

variable {plan : Plan} {setup : Setup} {sources : FieldSources} {r : Relationship} {c : Constraint}
  {s t : RunState}

/-- What settles nothing of a constraint keeps it enforced. -/
theorem of_settles (h : s.Enforces setup.plan r c) (hchecks : r.Checks setup sources c)
    {r' : Relationship} {ordinal : Nat} {P : String → Prop} (hst : s.Settles r' ordinal P t)
    (hP : ∀ f, P f → setup.plan.owns r f = true → r.strategy = .dependentValues ∧ f ∈ r.dependsOn) :
    t.Enforces setup.plan r c := by
  have hdependencies : r.strategy = .dependentValues → ∀ n f, setup.plan.owns r f = true →
      f ∉ r.dependsOn → (t.relations.value? f n).isSome → ∀ d ∈ r.dependsOn,
        setup.plan.owns r d = true → (s.relations.value? d n).isSome := by
    intro hstrategy n f howns hdependent hsome
    rw [hst.changes.value?_eq fun hPf => hdependent (hP f hPf howns).2] at hsome
    exact h.dependencies hstrategy n f howns hdependent hsome
  have hkept := RelationState.Extends.of_settles hst
  constructor
  · intro hstrategy n f howns hdependent hsome d hd hd'
    exact hkept.isSome (hdependencies hstrategy n f howns hdependent hsome d hd hd')
  · intro n b hb hviolated
    refine (h.flagged n b (fun f hf => ?_) hviolated).grows hst.grows
    obtain ⟨v, hv, hbv⟩ := hb f hf
    refine ⟨v, ?_, hbv⟩
    by_cases hsettled : s.relations.value? f n = none
    · by_cases hPf : P f
      · -- `f` comes before a field of the constraint that is settled already, so it cannot be new
        obtain ⟨hstrategy, hdepended⟩ := hP f hPf (hchecks.supplied f hf).2
        obtain ⟨g, hg, hdependent⟩ := hchecks.drawn
        obtain ⟨vg, hvg, -⟩ := hb g hg
        have hsome := hdependencies hstrategy n g (hchecks.supplied g hg).2 (hdependent hstrategy)
          (by rw [hvg]; rfl) f hdepended (hchecks.supplied f hf).2
        rw [hsettled] at hsome
        cases hsome
      · rw [← hst.changes.value?_eq hPf, hv]
    · obtain ⟨w, hw⟩ := Option.ne_none_iff_exists'.1 hsettled
      rw [hw, ← hkept.kept f n w hw, hv]

theorem of_values (h : s.Enforces plan r c) (hgrows : s.Grows t)
    (hvalues : ∀ f n, t.relations.value? f n = s.relations.value? f n) : t.Enforces plan r c := by
  constructor
  · intro hstrategy n f howns hdependent hsome d hd hd'
    rw [hvalues] at hsome ⊢
    exact h.dependencies hstrategy n f howns hdependent hsome d hd hd'
  · intro n b hb hviolated
    refine (h.flagged n b (fun f hf => ?_) hviolated).grows hgrows
    rw [← hvalues]
    exact hb f hf

theorem of_quiet (h : s.Enforces plan r c) (hst : s.Quiet t) : t.Enforces plan r c :=
  h.of_values hst.grows hst.same.value?_eq

/-- A dependent field is settled by a value that was checked. -/
theorem of_dependent (h : s.Enforces setup.plan r c) (hchecks : r.Checks setup sources c)
    {ordinal : Nat} {field v : String} (hst : s.Settles r ordinal (· = field) t)
    (hnow : t.relations.value? field ordinal = some ((s.relations.value? field ordinal).getD v))
    (hdependencies : ∀ d ∈ r.dependsOn, setup.plan.owns r d = true →
      (s.relations.value? d ordinal).isSome)
    (hchecked : field ∈ c.fields →
      c.check ((s.relations.bindings r ordinal).insert field v) = .violated → r.Warned s) :
    t.Enforces setup.plan r c := by
  have hkept := RelationState.Extends.of_settles hst
  constructor
  · intro hstrategy n f howns hdependent hsome d hd hd'
    by_cases hsame : t.relations.value? f n = s.relations.value? f n
    · rw [hsame] at hsome
      exact hkept.isSome (h.dependencies hstrategy n f howns hdependent hsome d hd hd')
    · obtain ⟨-, rfl⟩ := hst.changes.only f n hsame
      exact hkept.isSome (hdependencies d hd hd')
  · intro n b hb hviolated
    by_cases hsame : ∀ f ∈ c.fields, t.relations.value? f n = s.relations.value? f n
    · refine (h.flagged n b (fun f hf => ?_) hviolated).grows hst.grows
      rw [← hsame f hf]
      exact hb f hf
    · obtain ⟨f, hf, hne⟩ : ∃ f ∈ c.fields, t.relations.value? f n ≠ s.relations.value? f n := by
        simpa using hsame
      obtain ⟨rfl, rfl⟩ := hst.changes.only f n hne
      have hopen : s.relations.value? f n = none := by
        by_contra hsettled
        obtain ⟨w, hw⟩ := Option.ne_none_iff_exists'.1 hsettled
        exact hne ((hkept.kept f n w hw).trans hw.symm)
      -- the other fields of the constraint were settled before, so it was checked with their values
      have hagree : Bindings.AgreeOn c.fields b ((s.relations.bindings r n).insert f v) := by
        intro g hg
        obtain ⟨w, hw, hbw⟩ := hb g hg
        rw [hbw, Dict.get?_insert]
        split
        · rename_i heq
          subst heq
          rw [hnow, hopen] at hw
          exact hw.symm
        · rename_i hother
          rw [RelationState.get?_bindings, if_pos (hchecks.supplied g hg).1, ← hw]
          exact (hst.changes.value?_eq (fun heq => hother heq.symm) n).symm ▸ rfl
      rw [Constraint.check_congr hchecks.listsFields hagree] at hviolated
      exact (hchecked hf hviolated).grows hst.grows

/-- Fields that are settled together have values that were checked. -/
theorem of_drawnTogether (h : s.Enforces setup.plan r c) (hchecks : r.Checks setup sources c)
    (hstrategy : r.strategy = .constraintBased) {ordinal : Nat} {P : String → Prop} {last : Bindings}
    (hst : s.Settles r ordinal P t)
    (hlast : ∀ f ∈ r.fields, setup.plan.owns r f = true →
      ∃ v, t.relations.value? f ordinal = some v ∧ last.get? f = some v)
    (hchecked : c.check last = .violated → r.Warned t) : t.Enforces setup.plan r c := by
  constructor
  · intro hdependent
    rw [hstrategy] at hdependent
    cases hdependent
  · intro n b hb hviolated
    by_cases hn : n = ordinal
    · subst hn
      have hagree : Bindings.AgreeOn c.fields b last := by
        intro f hf
        obtain ⟨v, hv, hbv⟩ := hb f hf
        obtain ⟨w, hw, hlastw⟩ := hlast f (hchecks.supplied f hf).1 (hchecks.supplied f hf).2
        rw [hbv, hlastw, ← hv, hw]
      rw [Constraint.check_congr hchecks.listsFields hagree] at hviolated
      exact hchecked hviolated
    · refine (h.flagged n b (fun f hf => ?_) hviolated).grows hst.grows
      obtain ⟨v, hv, hbv⟩ := hb f hf
      refine ⟨v, ?_, hbv⟩
      rw [← hv]
      by_contra hne
      exact hn (hst.changes.only f n (Ne.symm hne)).2

end RunState.Enforces

namespace Relation

section Settling

variable {K : RunState → RunState → Prop} {setup : Setup} {sources : FieldSources}
  {failure : RunError → Prop} {ordinal : Nat} {r : Relationship} {c : Constraint} {field : String}

theorem askedFor_enforces {resolve : String → Run (Option String)}
    (hresolve : ∀ {f s s' value}, s.Enforces setup.plan r c → (resolve f).exec s = (.ok value, s') →
      s'.Enforces setup.plan r c)
    {asked : List String} {s s' : RunState} (h : AskedFor resolve asked s s')
    (hs : s.Enforces setup.plan r c) : s'.Enforces setup.plan r c := by
  induction h with
  | nil => exact hs
  | cons hfirst _ ih => exact ih (hresolve hs hfirst)

/-- What another relationship settles keeps a constraint enforced, if what is asked for does. -/
theorem valueBy_enforces_of_other (hsupplied : Supplied setup sources failure)
    (hchecks : r.Checks setup sources c) {r' : Relationship} (howner : setup.plan.owner? field = some r')
    (hother : r'.id ≠ r.id) {resolve : String → Run (Option String)}
    (hresolve : ∀ {f s s' value}, s.Enforces setup.plan r c → (resolve f).exec s = (.ok value, s') →
      s'.Enforces setup.plan r c)
    {s s' : RunState} {value : Option String} (hs : s.Enforces setup.plan r c)
    (h : (valueBy setup sources resolve r' field ordinal).exec s = (.ok value, s')) :
    s'.Enforces setup.plan r c := by
  obtain ⟨hr, hid⟩ := owner?_spec howner
  have hforeign : ∀ f, setup.plan.owns r' f = true → setup.plan.owns r f = true → False := by
    intro f howns' howns
    exact hother (Option.some.inj ((eq_of_beq howns').symm.trans (eq_of_beq howns)))
  obtain ⟨asked, t, u, hdependencies, hasked, -, hsettled⟩ :=
    valueBy_eq_ok hsupplied.leavesAlone hr (by rw [hid]; rfl) h
  have ht : t.Enforces setup.plan r c := by
    rcases hdependencies with rfl | ⟨-, hchanges, -⟩
    · exact hs
    · exact hs.of_settles hchecks hchanges fun f hf howns => (hforeign f hf.2 howns).elim
  exact (askedFor_enforces hresolve hasked ht).of_settles hchecks hsettled fun f hf howns =>
    (hforeign f hf.2 howns).elim

theorem valueBy_of_dependent {resolve : String → Run (Option String)}
    (hstrategy : r.strategy = .dependentValues) {s s' : RunState} {value : Option String}
    (h : (valueBy setup sources resolve r field ordinal).exec s = (.ok value, s')) :
    ∃ v, value = some v ∧
      (dependentValue setup sources resolve r field ordinal).exec s = (.ok v, s') := by
  unfold valueBy at h
  rw [hstrategy] at h
  obtain ⟨v, t, hvalue, h⟩ := exec_bind_eq_ok.1 h
  obtain ⟨rfl, rfl⟩ := exec_pure_eq_ok.1 h
  exact ⟨v, rfl, hvalue⟩

theorem valueBy_of_constraintBased {resolve : String → Run (Option String)}
    (hstrategy : r.strategy = .constraintBased) {s s' : RunState} {value : Option String}
    (h : (valueBy setup sources resolve r field ordinal).exec s = (.ok value, s')) :
    (constraintValue setup sources resolve r field ordinal).exec s = (.ok value, s') := by
  unfold valueBy at h
  rw [hstrategy] at h
  exact h

/-- A dependent field keeps a constraint enforced: if others depend on it, the constraint is still to be
checked, and if not, it has been checked by now. -/
theorem dependentValue_enforces (hsupplied : Supplied setup sources failure)
    (hchecks : r.Checks setup sources c) (howner : setup.plan.owner? field = some r)
    (hstrategy : r.strategy = .dependentValues) {budget : Nat}
    (hresolve : ∀ {f s s' value}, s.Enforces setup.plan r c →
      (resolveAt setup sources ordinal budget f).exec s = (.ok value, s') → s'.Enforces setup.plan r c)
    {s t s' : RunState} {v : String} (hs : s.Enforces setup.plan r c)
    (hvalue : (dependentValue setup sources (resolveAt setup sources ordinal budget) r field ordinal).exec
      s = (.ok v, t))
    (hlast : t.Settles r ordinal (· = field) s')
    (hnow : s'.relations.value? field ordinal = some ((t.relations.value? field ordinal).getD v)) :
    s'.Enforces setup.plan r c := by
  obtain ⟨hr, hid⟩ := owner?_spec howner
  rcases dependentValue_eq_ok hsupplied.leavesAlone hr (by rw [hid]; rfl) hvalue with
    ⟨hdepended, hst⟩ | ⟨hdependent, x, y, hdependencies, hsettled, hforeign, hyt, hchecked⟩
  · refine (hs.of_quiet hst).of_settles hchecks hlast ?_
    rintro _ rfl -
    exact ⟨hstrategy, hdepended⟩
  · have hx := hs.of_settles hchecks hdependencies fun f hf _ => ⟨hstrategy, hf.1⟩
    have ht := (askedFor_enforces hresolve hforeign hx).of_quiet hyt
    have hxt : x.relations.Extends t.relations :=
      (askedFor_extends (resolveAt_extends hsupplied.leavesAlone) hforeign).trans (.of_quiet hyt)
    refine ht.of_dependent hchecks hlast hnow
      (fun d hd howns => hxt.isSome (hsettled d hd howns)) fun hfield hviolated => ?_
    rw [hyt.same.bindings_eq] at hviolated
    exact hchecked (hchecks.candidates field hfield hstrategy hdependent) c hchecks.constraint hviolated

theorem constraintValue_enforces (hsupplied : Supplied setup sources failure)
    (hchecks : r.Checks setup sources c) (howner : setup.plan.owner? field = some r)
    (hstrategy : r.strategy = .constraintBased) {resolve : String → Run (Option String)}
    (hresolve : ∀ {f s s' value}, s.Enforces setup.plan r c → (resolve f).exec s = (.ok value, s') →
      s'.Enforces setup.plan r c)
    {s t s' : RunState} {value : Option String} (hs : s.Enforces setup.plan r c)
    (hvalue : (constraintValue setup sources resolve r field ordinal).exec s = (.ok value, t))
    (hlast : t.Settles r ordinal (· = field) s') : s'.Enforces setup.plan r c := by
  obtain ⟨u, last, hforeign, hsettled, hdrawn, hchecked, -⟩ :=
    constraintValue_eq_ok hsupplied.leavesAlone hvalue
  have hu := askedFor_enforces hresolve hforeign hs
  have hus' := hsettled.trans RunState.kept_grows
    (hlast.mono fun f hf => hf ▸ owns_of_owner? howner)
  refine hu.of_drawnTogether hchecks hstrategy hus' (fun f hf howns => ?_) fun hviolated =>
    (hchecked c hchecks.constraint hviolated).grows hlast.grows
  obtain ⟨v, hv, hlastv⟩ := hdrawn f hf howns
  exact ⟨v, hlast.changes.kept f ordinal v hv, hlastv⟩

/-- Settling any field keeps a constraint enforced. -/
theorem resolveAt_enforces (hsupplied : Supplied setup sources failure)
    (hchecks : r.Checks setup sources c) {budget : Nat} {s s' : RunState} {value : Option String}
    (hs : s.Enforces setup.plan r c)
    (h : (resolveAt setup sources ordinal budget field).exec s = (.ok value, s')) :
    s'.Enforces setup.plan r c := by
  induction budget generalizing field s s' value with
  | zero => cases h
  | succ budget ih =>
      rcases resolveAt_succ_eq_ok h with
        ⟨rfl, -⟩ | ⟨-, r', earlier, t, u, w, howner, hearlier, -, htu, hby, hlast, hnow⟩
      · exact hs
      · have hu := (askedFor_enforces ih hearlier hs).of_quiet htu
        by_cases hother : r'.id ≠ r.id
        · have hw := valueBy_enforces_of_other hsupplied hchecks howner hother ih hu hby
          refine hw.of_settles hchecks hlast ?_
          rintro _ rfl howns
          have hid := (owner?_spec howner).2
          exact absurd (Option.some.inj (hid.symm.trans (eq_of_beq howns))) hother
        · obtain rfl : r' = r := by
            have hfound := relationship?_of_owner? howner
            rw [not_not.1 hother, hchecks.found] at hfound
            exact (Option.some.inj hfound).symm
          cases hstrategy : r'.strategy with
          | consistentPersona => exact absurd hstrategy hchecks.strategy
          | dependentValues =>
              obtain ⟨v, rfl, hvalue⟩ := valueBy_of_dependent hstrategy hby
              exact dependentValue_enforces hsupplied hchecks howner hstrategy ih hu hvalue hlast
                (RelationState.value?_of_eq_settle hnow)
          | constraintBased =>
              have hvalue := valueBy_of_constraintBased hstrategy hby
              exact constraintValue_enforces hsupplied hchecks howner hstrategy ih hu hvalue hlast

/-! ## Values that are returned -/

/-- A field that is being settled is still open when all it asks for has been settled. -/
theorem unsettled_of_askedFor (hsources : LeavesAlone K setup sources) {budget : Nat}
    {asked : List String} {s s' : RunState}
    (h : AskedFor (resolveAt setup sources ordinal budget) asked s s')
    (hopen : s.relations.value? field ordinal = none)
    (hasks : ∀ f ∈ asked, AsksFor setup.plan ordinal s.relations field f) :
    s'.relations.value? field ordinal = none := by
  have hstays : StaysOpen setup.plan ordinal [field] s.relations s'.relations :=
    (askedFor_staysOpen (resolveAt_staysOpen hsources budget) h (by simpa using hopen) (by simp)
      (List.mem_singleton_self field) hasks).2
  exact hstays.unsettled field (List.mem_singleton_self field)

/-- A field whose owner settles one field at a time is still open when the value for it is there. -/
theorem unsettled_of_dependentValue (hsources : LeavesAlone K setup sources)
    (howner : setup.plan.owner? field = some r) (hstrategy : r.strategy = .dependentValues)
    {budget : Nat} {s s' : RunState} {v : String}
    (h : (dependentValue setup sources (resolveAt setup sources ordinal budget) r field ordinal).exec s =
      (.ok v, s'))
    (hopen : s.relations.value? field ordinal = none) : s'.relations.value? field ordinal = none := by
  obtain ⟨hr, hid⟩ := owner?_spec howner
  rcases dependentValue_eq_ok hsources hr (by rw [hid]; rfl) h with
    ⟨-, hquiet⟩ | ⟨hdependent, t, u, hdependencies, -, hforeign, hquiet, -⟩
  · rw [hquiet.same.value?_eq, hopen]
  · rw [hquiet.same.value?_eq]
    refine unsettled_of_askedFor hsources hforeign ?_ fun f hf => ?_
    · rw [hdependencies.changes.value?_eq fun hP => hdependent hP.1, hopen]
    · obtain ⟨hother, hne, howns⟩ := Plan.mem_foreignFields.1 hf
      refine ⟨r, howner, .inr ⟨⟨hother, hne, howns, fun _ => hdependent⟩, fun hpersona => ?_⟩⟩
      rw [hstrategy] at hpersona
      cases hpersona

/-- The value of a field that its owner draws is the one that is settled. -/
theorem resolveAt_returns_settled (hsources : LeavesAlone K setup sources)
    (howner : setup.plan.owner? field = some r) (hfield : field ∈ r.fields)
    (hstrategy : r.strategy ≠ .consistentPersona) {budget : Nat} {s s' : RunState}
    {value : Option String}
    (h : (resolveAt setup sources ordinal budget field).exec s = (.ok value, s')) :
    ∃ v, value = some v ∧ s'.relations.value? field ordinal = some v := by
  cases budget with
  | zero => cases h
  | succ budget =>
      rcases resolveAt_succ_eq_ok h with
        ⟨rfl, rfl, hsome⟩ | ⟨hopen, r', earlier, t, u, w, howner', hearlier, hmem, htu, hby, hlast, hnow⟩
      · rcases hsome with hsome | hnone
        · obtain ⟨v, hv⟩ := Option.isSome_iff_exists.1 hsome
          exact ⟨v, hv, hv⟩
        · rw [howner] at hnone
          cases hnone
      · obtain rfl : r' = r := Option.some.inj (howner'.symm.trans howner)
        cases hkind : r'.strategy with
        | consistentPersona => exact absurd hkind hstrategy
        | dependentValues =>
            obtain ⟨v, rfl, hvalue⟩ := valueBy_of_dependent hkind hby
            -- nothing that the field asks for settles it, so its value is not an older one
            have hopenu : u.relations.value? field ordinal = none := by
              rw [htu.same.value?_eq]
              exact unsettled_of_askedFor hsources hearlier hopen fun f hf =>
                ⟨r', howner, .inl ((hmem f).1 hf)⟩
            refine ⟨v, rfl, (RelationState.value?_of_eq_settle hnow).trans ?_⟩
            rw [unsettled_of_dependentValue hsources howner hkind hvalue hopenu]
            rfl
        | constraintBased =>
            obtain ⟨x, last, -, -, hdrawn, -, rfl⟩ :=
              constraintValue_eq_ok hsources (valueBy_of_constraintBased hkind hby)
            obtain ⟨v, hv, -⟩ := hdrawn field hfield (owns_of_owner? howner)
            exact ⟨v, hv, hlast.changes.kept field ordinal v hv⟩

end Settling
end Relation
end Specimen
