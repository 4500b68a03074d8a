import Specimen.Proofs.Relation.Inversion

/-!
# Fields that are being settled

A field may ask for others while it is settled, and those for others again.  None of the fields on the way
is asked for a second time, and none is settled behind the back of the others: a field that was not settled
when it was asked for first would ask again for the fields on the way, and so on without end, so that no run
like this returns.

The invariant is that every field on the way still asks for another one on the way.  It is kept because
owners settle their fields only after they have asked for all that any of these fields asks for.
-/

namespace Specimen

open Run

namespace Relation

/-- A field that is not settled asks for another one before it is settled: one of a relationship that comes
before, or a foreign one, unless a record has been picked for its owner. -/
def AsksFor (plan : Plan) (ordinal : Nat) (s : RelationState) (field other : String) : Prop :=
  ∃ r, plan.owner? field = some r ∧ (plan.SuppliedEarlier r other ∨ plan.ReadsForeign r field other ∧
    (r.strategy = .consistentPersona → r.source.isSome ∧ s.persona? r.id ordinal = none))

/-- The fields on a path are not settled, and each asks for another one on it or for the one that was asked
for last. -/
structure Suspended (plan : Plan) (ordinal : Nat) (path : List String) (field : String)
    (s : RelationState) : Prop where
  unsettled : ∀ d ∈ path, s.value? d ordinal = none
  asks : ∀ d ∈ path, ∃ other ∈ field :: path, AsksFor plan ordinal s d other

/-- The fields on a path are not settled yet, and no record has been picked for their owners since. -/
structure StaysOpen (plan : Plan) (ordinal : Nat) (path : List String) (s t : RelationState) :
    Prop where
  unsettled : ∀ d ∈ path, t.value? d ordinal = none
  personas : ∀ d ∈ path, ∀ r, plan.owner? d = some r → r.strategy = .consistentPersona →
    t.persona? r.id ordinal = s.persona? r.id ordinal

section Owners

variable {plan : Plan} {r r' : Relationship} {field other : String}

theorem relationship?_of_owner? (h : plan.owner? field = some r) : plan.relationship? r.id = some r := by
  have hid := (owner?_spec h).2
  obtain ⟨id, hget, hfound⟩ := Option.bind_eq_some_iff.1 h
  cases hget.symm.trans hid
  exact hfound

theorem owner?_of_owns (hfound : plan.relationship? r.id = some r) (howns : plan.owns r field = true) :
    plan.owner? field = some r := by
  unfold Plan.owner?
  rw [eq_of_beq howns]
  exact hfound

theorem owns_of_owner? (h : plan.owner? field = some r) : plan.owns r field = true := by
  unfold Plan.owns
  rw [(owner?_spec h).2]
  exact beq_self_eq_true _

theorem owner_eq_of_id (h : plan.owner? field = some r) (h' : plan.owner? other = some r')
    (hid : r'.id = r.id) : r' = r := by
  have hfound := relationship?_of_owner? h'
  rw [hid, relationship?_of_owner? h] at hfound
  exact (Option.some.inj hfound).symm

end Owners

section Settling

variable {K : RunState → RunState → Prop} {setup : Setup} {sources : FieldSources} {ordinal : Nat}
  {path : List String} {field : String}

namespace StaysOpen

variable {plan : Plan} {s t u : RelationState}

theorem refl (hopen : ∀ d ∈ path, s.value? d ordinal = none) : StaysOpen plan ordinal path s s :=
  ⟨hopen, fun _ _ _ _ _ => rfl⟩

theorem trans (hst : StaysOpen plan ordinal path s t) (htu : StaysOpen plan ordinal path t u) :
    StaysOpen plan ordinal path s u where
  unsettled := htu.unsettled
  personas d hd r hr hpersona :=
    (htu.personas d hd r hr hpersona).trans (hst.personas d hd r hr hpersona)

theorem tail {d : String} (h : StaysOpen plan ordinal (d :: path) s t) :
    StaysOpen plan ordinal path s t where
  unsettled e he := h.unsettled e (List.mem_cons_of_mem d he)
  personas e he := h.personas e (List.mem_cons_of_mem d he)

/-- The fields on the path ask for what they asked for before. -/
theorem asks (h : StaysOpen plan ordinal path s t) {d other : String} (hd : d ∈ path)
    (hask : AsksFor plan ordinal s d other) : AsksFor plan ordinal t d other := by
  obtain ⟨r, hr, hearlier | ⟨hreads, hpicks⟩⟩ := hask
  · exact ⟨r, hr, .inl hearlier⟩
  · refine ⟨r, hr, .inr ⟨hreads, fun hstrategy => ?_⟩⟩
    rw [h.personas d hd r hr hstrategy]
    exact hpicks hstrategy

/-- What a relationship settles leaves the fields of others open. -/
theorem of_settles {r : Relationship} {P : String → Prop} {s t : RunState}
    (h : s.SettlesBy K r ordinal P t) (hopen : ∀ d ∈ path, s.relations.value? d ordinal = none)
    (hP : ∀ d ∈ path, ¬ P d)
    (howner : ∀ d ∈ path, ∀ r', plan.owner? d = some r' → r'.strategy = .consistentPersona →
      r'.id ≠ r.id) : StaysOpen plan ordinal path s.relations t.relations where
  unsettled d hd := (h.changes.value?_eq (hP d hd) ordinal).trans (hopen d hd)
  personas d hd r' hr' hpersona := h.changes.persona?_eq (howner d hd r' hr' hpersona) ordinal

theorem of_quiet {s t : RunState} (h : s.Quiet t)
    (hopen : ∀ d ∈ path, s.relations.value? d ordinal = none) :
    StaysOpen plan ordinal path s.relations t.relations where
  unsettled d hd := (h.same.value?_eq d ordinal).trans (hopen d hd)
  personas _ _ r _ _ := h.same.persona?_eq r.id ordinal

end StaysOpen

/-- Fields that are asked for one after the other, all by the first field of a path. -/
theorem askedFor_staysOpen {resolve : String → Run (Option String)}
    (hresolve : ∀ {path f s s' value}, Suspended setup.plan ordinal path f s.relations →
      (resolve f).exec s = (.ok value, s') →
        f ∉ path ∧ StaysOpen setup.plan ordinal path s.relations s'.relations)
    {asked : List String} {s s' : RunState} (h : AskedFor resolve asked s s')
    (hopen : ∀ d ∈ path, s.relations.value? d ordinal = none)
    (hothers : ∀ d ∈ path, d = field ∨ ∃ other ∈ path, AsksFor setup.plan ordinal s.relations d other)
    (hfield : field ∈ path) (hasks : ∀ f ∈ asked, AsksFor setup.plan ordinal s.relations field f) :
    (∀ f ∈ asked, f ∉ path) ∧ StaysOpen setup.plan ordinal path s.relations s'.relations := by
  induction h with
  | nil => exact ⟨List.forall_mem_nil _, .refl hopen⟩
  | @cons f rest s t u value hfirst _ ih =>
      have hsuspended : Suspended setup.plan ordinal path f s.relations := by
        refine ⟨hopen, fun d hd => ?_⟩
        rcases hothers d hd with rfl | ⟨other, hother, hask⟩
        · exact ⟨f, List.mem_cons_self, hasks f List.mem_cons_self⟩
        · exact ⟨other, List.mem_cons_of_mem f hother, hask⟩
      obtain ⟨hf, hst⟩ := hresolve hsuspended hfirst
      obtain ⟨hrest, htu⟩ := ih hst.unsettled
        (fun d hd => (hothers d hd).imp_right fun ⟨other, hother, hask⟩ =>
          ⟨other, hother, hst.asks hd hask⟩)
        (fun g hg => hst.asks hfield (hasks g (List.mem_cons_of_mem f hg)))
      exact ⟨List.forall_mem_cons.2 ⟨hf, hrest⟩, hst.trans htu⟩

/-- A field on the path that has the owner of the field that was asked for last waits for a foreign field: it
would not be on the path if a relationship that comes before supplied what it waits for. -/
theorem exists_readsForeign {plan : Plan} {s t : RelationState} {r : Relationship}
    (hpath : Suspended plan ordinal path field s) (hst : StaysOpen plan ordinal (field :: path) s t)
    (hearlier : ∀ f, plan.SuppliedEarlier r f → f ∉ field :: path) {d : String} (hd : d ∈ path)
    (howner : plan.owner? d = some r) :
    ∃ other ∈ field :: path, plan.ReadsForeign r d other ∧
      (r.strategy = .consistentPersona → r.source.isSome ∧ t.persona? r.id ordinal = none) := by
  obtain ⟨other, hother, hask⟩ := hpath.asks d hd
  obtain ⟨r', hr', hbefore | hreads⟩ := hst.asks (List.mem_cons_of_mem field hd) hask
  · cases howner.symm.trans hr'
    exact absurd hother (hearlier other hbefore)
  · cases howner.symm.trans hr'
    exact ⟨other, hother, hreads⟩

/-- What a relationship reads for one of its fields it reads for all of them, but for those that others
depend on. -/
theorem readsForeign_of_owner {plan : Plan} {r : Relationship} {d other : String}
    (howner : plan.owner? field = some r) (hreads : plan.ReadsForeign r d other)
    (hdependent : r.strategy = .dependentValues → field ∉ r.dependsOn) :
    plan.ReadsForeign r field other := by
  obtain ⟨hother, -, howns, -⟩ := hreads
  refine ⟨hother, ?_, howns, hdependent⟩
  rintro rfl
  rw [owns_of_owner? howner] at howns
  cases howns

/-- What the owner of a field settles beforehand is none of the path: a field on it that others depend on asks
for nothing foreign. -/
theorem dependencies_staysOpen {s : RelationState} {u x : RunState} {r : Relationship}
    (hpath : Suspended setup.plan ordinal path field s)
    (hsu : StaysOpen setup.plan ordinal (field :: path) s u.relations)
    (hearlier : ∀ f, setup.plan.SuppliedEarlier r f → f ∉ field :: path)
    (howner : setup.plan.owner? field = some r)
    (hux : x = u ∨ r.strategy = .dependentValues ∧ u.SettlesBy K r ordinal
      (fun f => f ∈ r.dependsOn ∧ setup.plan.owns r f = true) x ∧ field ∉ r.dependsOn) :
    StaysOpen setup.plan ordinal (field :: path) u.relations x.relations := by
  rcases hux with rfl | ⟨hstrategy, hsettles, hdependent⟩
  · exact .refl hsu.unsettled
  · have hfound := relationship?_of_owner? howner
    have hoff : ∀ d ∈ field :: path, ¬ (d ∈ r.dependsOn ∧ setup.plan.owns r d = true) := by
      refine List.forall_mem_cons.2 ⟨fun hP => hdependent hP.1, ?_⟩
      rintro d hd ⟨hdepended, howns⟩
      obtain ⟨other, -, hreads, -⟩ :=
        exists_readsForeign hpath hsu hearlier hd (owner?_of_owns hfound howns)
      exact hreads.2.2.2 hstrategy hdepended
    refine .of_settles hsettles hsu.unsettled hoff fun d hd r' hr' hpersona hid => ?_
    rw [owner_eq_of_id howner hr' hid, hstrategy] at hpersona
    cases hpersona

/-- What the owner of a field settles for it, and the field itself, leave the path open if a field on the path
has this owner only where the owner settles one field at a time. -/
theorem settled_staysOpen {r : Relationship} {y w s' : RunState}
    (howner : setup.plan.owner? field = some r) (hfield : field ∉ path)
    (hcommon : ∀ d ∈ path, setup.plan.owner? d = some r → r.strategy = .dependentValues)
    (hopen : ∀ d ∈ path, y.relations.value? d ordinal = none)
    (hyw : y.SettlesBy K r ordinal
      (fun f => r.strategy ≠ .dependentValues ∧ setup.plan.owns r f = true) w)
    (hws : w.Settles r ordinal (· = field) s') :
    StaysOpen setup.plan ordinal path y.relations s'.relations := by
  have hfound := relationship?_of_owner? howner
  have hpersonas : ∀ d ∈ path, ∀ r', setup.plan.owner? d = some r' →
      r'.strategy = .consistentPersona → r'.id ≠ r.id := by
    intro d hd r' hr' hpersona hid
    obtain rfl := owner_eq_of_id howner hr' hid
    rw [hcommon d hd hr'] at hpersona
    cases hpersona
  have hopened : StaysOpen setup.plan ordinal path y.relations w.relations :=
    .of_settles hyw hopen (fun d hd hP => hP.1 (hcommon d hd (owner?_of_owns hfound hP.2))) hpersonas
  exact hopened.trans
    (.of_settles hws hopened.unsettled (fun d hd heq => hfield (heq ▸ hd)) hpersonas)

/-- No field on the path is asked for again, and all of them stay open. -/
theorem resolveAt_staysOpen (hsources : LeavesAlone K setup sources) (budget : Nat)
    {s s' : RunState} {value : Option String}
    (hpath : Suspended setup.plan ordinal path field s.relations)
    (h : (resolveAt setup sources ordinal budget field).exec s = (.ok value, s')) :
    field ∉ path ∧ StaysOpen setup.plan ordinal path s.relations s'.relations := by
  -- a field that is asked for on the way is resolved with a smaller budget, below a longer path
  induction budget generalizing path field s s' value with
  | zero => cases h
  | succ budget ih =>
      rcases resolveAt_succ_eq_ok h with
        ⟨rfl, rfl, hnone⟩ | ⟨hopen, r, earlier, t, u, w, howner, hearlier, hmem, htu, hby, hlast, -⟩
      · refine ⟨fun hfield => ?_, .refl hpath.unsettled⟩
        obtain ⟨other, -, r, howner, -⟩ := hpath.asks field hfield
        rw [hpath.unsettled field hfield, howner] at hnone
        simp at hnone
      · obtain ⟨hr, hid⟩ := owner?_spec howner
        have hothers : ∀ d ∈ field :: path, d = field ∨
            ∃ other ∈ field :: path, AsksFor setup.plan ordinal s.relations d other := by
          intro d hd
          exact (List.mem_cons.1 hd).imp_right (hpath.asks d)
        obtain ⟨hearlierOff, hst⟩ := askedFor_staysOpen ih hearlier
          (List.forall_mem_cons.2 ⟨hopen, hpath.unsettled⟩) hothers List.mem_cons_self
          fun f hf => ⟨r, howner, .inl ((hmem f).1 hf)⟩
        have hoff : ∀ f, setup.plan.SuppliedEarlier r f → f ∉ field :: path :=
          fun f hf => hearlierOff f ((hmem f).2 hf)
        have hsu : StaysOpen setup.plan ordinal (field :: path) s.relations u.relations :=
          hst.trans (.of_quiet htu hst.unsettled)
        obtain ⟨foreign, x, y, hdependencies, hforeign, hforeignMem, hsettled⟩ :=
          valueBy_eq_ok hsources hr (by rw [hid]; rfl) hby
        have hux := dependencies_staysOpen hpath hsu hoff howner hdependencies
        obtain ⟨hforeignOff, hxy⟩ := askedFor_staysOpen ih hforeign hux.unsettled
          (fun d hd => (hothers d hd).imp_right fun ⟨other, hother, hask⟩ =>
            ⟨other, hother, (hsu.trans hux).asks hd hask⟩) List.mem_cons_self
          fun f hf => hux.asks List.mem_cons_self ⟨r, howner, .inr ((hforeignMem f).1 hf)⟩
        -- whatever another field of the owner waits for was asked for by now, and was off the path
        have hcommon : ∀ d ∈ path, setup.plan.owner? d = some r →
            r.strategy = .dependentValues ∧ field ∈ r.dependsOn := by
          intro d hd hd'
          by_contra hnot
          obtain ⟨other, hother, hreads, hpicks⟩ := exists_readsForeign hpath hsu hoff hd hd'
          have hmine := readsForeign_of_owner howner hreads fun hstrategy hmem => hnot ⟨hstrategy, hmem⟩
          exact hforeignOff other ((hforeignMem other).2 ⟨hmine, hpicks⟩) hother
        have hfield : field ∉ path := by
          intro hmem
          obtain ⟨other, -, hreads, -⟩ := exists_readsForeign hpath hsu hoff hmem howner
          obtain ⟨hstrategy, hdepended⟩ := hcommon field hmem howner
          exact hreads.2.2.2 hstrategy hdepended
        have hlast := settled_staysOpen howner hfield (fun d hd hd' => (hcommon d hd hd').1)
          hxy.tail.unsettled hsettled hlast
        exact ⟨hfield, (((hsu.trans hux).trans hxy).tail).trans hlast⟩

end Settling
end Relation
end Specimen
