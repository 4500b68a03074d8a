import Specimen.Proofs.Plan.Owners
import Specimen.Proofs.Relation.Turns

/-!
# Values that are written once

What relationships remember is written once: no call replaces the value of a field in an instance or the
record that was picked for one.  A value that a call hands out is remembered, and every value of a persona
is the one that the record of its instance has.

A record is picked only after the foreign fields were asked for, and the values of a persona could then be
older than its record.  They are not: nothing that a field asks for on the way picks a record for its owner,
and without a record no field of the owner is settled.
-/

namespace Specimen

open Run

/-- A record of the source of a relationship. -/
def Setup.recordAt? (setup : Setup) (r : Relationship) (index : Nat) : Option Json :=
  r.source.bind fun source => (setup.contexts.records source).toOption.bind (·[index]?)

theorem Setup.recordAt?_eq {setup : Setup} {r : Relationship} {source : String} {records : List Json}
    (hsource : r.source = some source) (hrecords : setup.contexts.records source = .ok records) (index : Nat) :
    setup.recordAt? r index = records[index]? := by
  unfold recordAt?
  rw [hsource, Option.bind_some, hrecords]
  rfl

namespace RelationState

/-- Every value of a relationship is what the record that was picked for its instance has for the field. -/
def FromRecords (setup : Setup) (r : Relationship) (s : RelationState) : Prop :=
  ∀ n f v, setup.plan.owns r f = true → s.value? f n = some v →
    ∃ index record, s.persona? r.id n = some (some index) ∧ setup.recordAt? r index = some record ∧
      recordText? record (r.recordKey f) = some v

/-- A later state has the records that were picked before, and the values of all personas are still from
their records. -/
structure Coheres (setup : Setup) (s t : RelationState) : Prop where
  picked : ∀ id n index, s.persona? id n = some index → t.persona? id n = some index
  fromRecords : ∀ r, setup.plan.relationship? r.id = some r → r.strategy = .consistentPersona →
    s.FromRecords setup r → t.FromRecords setup r

variable {setup : Setup} {r : Relationship} {ordinal : Nat} {P : String → Prop} {s t u : RelationState}

/-- Without a record, nothing of a persona is settled. -/
theorem FromRecords.value?_eq_none (h : s.FromRecords setup r) (hnone : s.persona? r.id ordinal = none) {f : String}
    (howns : setup.plan.owns r f = true) : s.value? f ordinal = none := by
  by_contra hsettled
  obtain ⟨v, hv⟩ := Option.ne_none_iff_exists'.1 hsettled
  obtain ⟨index, record, hindex, -⟩ := h ordinal f v howns hv
  rw [hnone] at hindex
  cases hindex

theorem FromRecords.congr (h : s.FromRecords setup r)
    (hvalues : ∀ f n, setup.plan.owns r f = true → t.value? f n = s.value? f n)
    (hpicked : ∀ n index, s.persona? r.id n = some index → t.persona? r.id n = some index) :
    t.FromRecords setup r := by
  intro n f v howns hv
  rw [hvalues f n howns] at hv
  obtain ⟨index, record, hindex, hrecord⟩ := h n f v howns hv
  exact ⟨index, record, hpicked n (some index) hindex, hrecord⟩

namespace Coheres

theorem refl (s : RelationState) : s.Coheres setup s := ⟨fun _ _ _ => id, fun _ _ _ => id⟩

theorem trans (hst : s.Coheres setup t) (htu : t.Coheres setup u) : s.Coheres setup u where
  picked id n index h := htu.picked id n index (hst.picked id n index h)
  fromRecords r hfound hpersona h := htu.fromRecords r hfound hpersona (hst.fromRecords r hfound hpersona h)

theorem of_same (h : s.SameValues t) : s.Coheres setup t where
  picked id n _ hindex := (h.persona?_eq id n).trans hindex
  fromRecords _ _ _ hs := hs.congr (fun f n _ => h.value?_eq f n) fun n _ hindex =>
    (h.persona?_eq _ n).trans hindex

/-- What a relationship settles that is no persona concerns no persona. -/
theorem of_changes (h : Changes r ordinal P s t) (hstrategy : r.strategy ≠ .consistentPersona)
    (hfound : setup.plan.relationship? r.id = some r) (hP : ∀ f, P f → setup.plan.owns r f = true) :
    s.Coheres setup t := by
  have hpicked : ∀ id n, t.persona? id n = s.persona? id n := by
    intro id n
    by_contra hne
    exact hstrategy (h.personas id n hne).2.2
  refine ⟨fun id n index hindex => (hpicked id n).trans hindex, fun r' hfound' hpersona hs => ?_⟩
  refine hs.congr (fun f n howns => ?_) fun n index hindex => (hpicked r'.id n).trans hindex
  apply h.value?_eq
  intro hf
  have hid : r.id = r'.id := Option.some.inj ((eq_of_beq (hP f hf)).symm.trans (eq_of_beq howns))
  rw [← hid, hfound] at hfound'
  exact hstrategy (Option.some.inj hfound' ▸ hpersona)

/-- A record is picked for an instance that had none. -/
theorem of_setPersona (hnone : s.persona? r.id ordinal = none) (index : Option Nat) :
    s.Coheres setup (s.setPersona r.id ordinal index) := by
  have hpicked : ∀ id n i, s.persona? id n = some i →
      (s.setPersona r.id ordinal index).persona? id n = some i := by
    intro id n i hi
    have hother : (r.id, ordinal) ≠ (id, n) := by
      intro heq
      obtain ⟨rfl, rfl⟩ := Prod.mk.inj heq
      rw [hnone] at hi
      cases hi
    rw [persona?_setPersona, if_neg hother, hi]
  exact ⟨hpicked, fun r' _ _ hs => hs.congr (fun _ _ _ => rfl) (hpicked r'.id)⟩

/-- A persona settles one of its fields by its record. -/
theorem of_settle (hfound : setup.plan.relationship? r.id = some r) {index : Nat} {record : Json}
    (hpicked : s.persona? r.id ordinal = some (some index))
    (hrecord : setup.recordAt? r index = some record) {f v : String}
    (howns : setup.plan.owns r f = true) (hv : recordText? record (r.recordKey f) = some v) :
    s.Coheres setup (s.settle f ordinal v) := by
  refine ⟨fun _ _ _ => id, fun r' hfound' _ hs n g w hg hw => ?_⟩
  rw [value?_settle] at hw
  split at hw
  · rename_i heq
    obtain ⟨rfl, rfl⟩ := Prod.mk.inj heq
    cases hold : s.value? f ordinal with
    | some old =>
        rw [hold] at hw
        cases hw
        exact hs ordinal f old hg hold
    | none =>
        rw [hold] at hw
        cases hw
        have hid : r.id = r'.id := Option.some.inj ((eq_of_beq howns).symm.trans (eq_of_beq hg))
        rw [← hid, hfound] at hfound'
        cases hfound'
        exact ⟨index, record, hpicked, hrecord, hv⟩
  · exact hs n g w hg hw

end Coheres
end RelationState

namespace Relation

section Settling

variable {K : RunState → RunState → Prop} {setup : Setup} {sources : FieldSources}
  {resolve : String → Run (Option String)} {ordinal : Nat} {r : Relationship} {field : String}

theorem askedFor_coheres
    (hresolve : ∀ {f s s' value}, (resolve f).exec s = (.ok value, s') →
      s.relations.Coheres setup s'.relations)
    {asked : List String} {s s' : RunState} (h : AskedFor resolve asked s s') :
    s.relations.Coheres setup s'.relations := by
  induction h with
  | nil => exact .refl _
  | cons hfirst _ ih => exact (hresolve hfirst).trans ih

/-- A persona settles its fields by its record. -/
theorem settleRecord_coheres (hfound : setup.plan.relationship? r.id = some r) {index : Nat}
    {record : Json} {s s' : RunState} (hpicked : s.relations.persona? r.id ordinal = some (some index))
    (hrecord : setup.recordAt? r index = some record)
    (h : (settleRecord setup r record ordinal).exec s = (.ok (), s')) :
    s.relations.Coheres setup s'.relations := by
  cases h
  -- along the fields, the record of the instance stays picked
  refine (List.foldlRecOn (motive := fun t => t.persona? r.id ordinal = some (some index) ∧
    s.relations.Coheres setup t) r.fields _ ⟨hpicked, .refl _⟩ fun t ht f _ => ?_).2
  obtain ⟨hindex, hst⟩ := ht
  split
  · rename_i howns
    split
    · rename_i v hv
      exact ⟨hindex, hst.trans (.of_settle hfound hindex hrecord howns hv)⟩
    · exact ⟨hindex, hst⟩
  · exact ⟨hindex, hst⟩

/-- No record is picked for the owner of a field by what the field asks for. -/
theorem persona?_of_askedFor (hsources : LeavesAlone K setup sources)
    (howner : setup.plan.owner? field = some r) (hstrategy : r.strategy = .consistentPersona)
    {budget : Nat} {asked : List String} {s s' : RunState}
    (h : AskedFor (resolveAt setup sources ordinal budget) asked s s')
    (hopen : s.relations.value? field ordinal = none)
    (hasks : ∀ f ∈ asked, AsksFor setup.plan ordinal s.relations field f) :
    s'.relations.persona? r.id ordinal = s.relations.persona? r.id ordinal := by
  have hstays : StaysOpen setup.plan ordinal [field] s.relations s'.relations :=
    (askedFor_staysOpen (resolveAt_staysOpen hsources budget) h (by simpa using hopen) (by simp)
      (List.mem_singleton_self field) hasks).2
  exact hstays.personas field (List.mem_singleton_self field) r howner hstrategy

/-- A persona finds the record of an instance, or picks one where there was none. -/
theorem personaOf_coheres (hsources : LeavesAlone K setup sources)
    (howner : setup.plan.owner? field = some r) (hstrategy : r.strategy = .consistentPersona)
    (hsource : r.source.isSome) {budget : Nat}
    (hresolve : ∀ {f s s' value}, (resolveAt setup sources ordinal budget f).exec s = (.ok value, s') →
      s.relations.Coheres setup s'.relations)
    {s s' : RunState} (hopen : s.relations.value? field ordinal = none) {records : List Json}
    {index : Option Nat}
    (h : (personaOf setup (resolveAt setup sources ordinal budget) r records field ordinal).exec s =
      (.ok index, s')) :
    s.relations.Coheres setup s'.relations ∧ s'.relations.persona? r.id ordinal = some index := by
  rcases personaOf_eq_ok hstrategy h with
    ⟨hpicked, rfl⟩ | ⟨hnone, t, u, hforeign, htu, -, hset⟩
  · exact ⟨.refl _, hpicked⟩
  · have hasks : ∀ f ∈ setup.plan.foreignFields r field,
        AsksFor setup.plan ordinal s.relations field f := by
      intro f hf
      obtain ⟨hother, hne, howns⟩ := Plan.mem_foreignFields.1 hf
      refine ⟨r, howner, .inr ⟨⟨hother, hne, howns, fun hdependent => ?_⟩, fun _ => ⟨hsource, hnone⟩⟩⟩
      rw [hstrategy] at hdependent
      cases hdependent
    have hstill : u.relations.persona? r.id ordinal = none := by
      rw [htu.same.persona?_eq, persona?_of_askedFor hsources howner hstrategy hforeign hopen hasks, hnone]
    rw [hset]
    refine ⟨?_, by rw [RelationState.persona?_setPersona, if_pos rfl]⟩
    have hsu := (askedFor_coheres hresolve hforeign).trans (.of_same htu.same)
    exact hsu.trans (.of_setPersona hstill index)

/-- The value of a persona is remembered when it is there. -/
theorem value_of_personaValue {s s' : RunState} {value : Option String}
    (h : (personaValue setup resolve r field ordinal).exec s = (.ok value, s')) :
    value = none ∨ value = s'.relations.value? field ordinal := by
  rcases personaValue_cases h with ⟨-, hnone, -⟩ | ⟨-, -, -, -, -, -, -, ⟨hnone, -⟩ | ⟨-, -, -, hvalue⟩⟩
  · exact .inl hnone
  · exact .inl hnone
  · exact .inr hvalue

theorem personaValue_coheres (hsources : LeavesAlone K setup sources)
    (howner : setup.plan.owner? field = some r) (hstrategy : r.strategy = .consistentPersona)
    {budget : Nat}
    (hresolve : ∀ {f s s' value}, (resolveAt setup sources ordinal budget f).exec s = (.ok value, s') →
      s.relations.Coheres setup s'.relations)
    {s s' : RunState} (hopen : s.relations.value? field ordinal = none) {value : Option String}
    (h : (personaValue setup (resolveAt setup sources ordinal budget) r field ordinal).exec s =
      (.ok value, s')) : s.relations.Coheres setup s'.relations := by
  rcases personaValue_cases h with
    ⟨-, -, rfl⟩ | ⟨source, records, index, t, hsource, hrecords, hindex, hread⟩
  · exact .refl _
  · obtain ⟨hst, hpicked⟩ :=
      personaOf_coheres hsources howner hstrategy (by rw [hsource]; rfl) hresolve hopen hindex
    rcases hread with ⟨-, rfl⟩ | ⟨record, hrecord, hsettle, -⟩
    · exact hst
    · obtain ⟨i, rfl, hget⟩ := Option.bind_eq_some_iff.1 hrecord
      have hat : setup.recordAt? r i = some record := (Setup.recordAt?_eq hsource hrecords i).trans hget
      exact hst.trans (settleRecord_coheres (relationship?_of_owner? howner) hpicked hat hsettle)

/-- A value that is remembered already is settled to no effect. -/
theorem coheres_of_remembered {s t : RelationState} {value : Option String}
    (hvalue : value = none ∨ value = s.value? field ordinal)
    (h : t = value.elim s (s.settle field ordinal)) : s.Coheres setup t := by
  subst h
  cases value with
  | none => exact .refl s
  | some v =>
      have hv : s.value? field ordinal = some v := (hvalue.resolve_left nofun).symm
      refine ⟨fun _ _ _ => id, fun r' _ _ hs => hs.congr (fun f n _ => ?_) fun _ _ => id⟩
      refine RelationState.value?_settle.trans ?_
      split
      · rename_i heq
        obtain ⟨rfl, rfl⟩ := Prod.mk.inj heq
        rw [hv]
        rfl
      · rfl

/-- Whatever a field asks for, the values of all personas are from their records. -/
theorem resolveAt_coheres (hsources : LeavesAlone K setup sources) {budget : Nat} {s s' : RunState}
    {value : Option String}
    (h : (resolveAt setup sources ordinal budget field).exec s = (.ok value, s')) :
    s.relations.Coheres setup s'.relations := by
  induction budget generalizing field s s' value with
  | zero => cases h
  | succ budget ih =>
      rcases resolveAt_succ_eq_ok h with
        ⟨rfl, -⟩ | ⟨hopen, r, earlier, t, u, w, howner, hearlier, hmem, htu, hby, hlast, hnow⟩
      · exact .refl _
      · obtain ⟨hr, hid⟩ := owner?_spec howner
        have hsu := (askedFor_coheres ih hearlier).trans (.of_same htu.same)
        by_cases hstrategy : r.strategy = .consistentPersona
        · have hpersona := hby
          unfold valueBy at hpersona
          rw [hstrategy] at hpersona
          have hopenu : u.relations.value? field ordinal = none := by
            rw [htu.same.value?_eq]
            exact unsettled_of_askedFor hsources hearlier hopen fun f hf =>
              ⟨r, howner, .inl ((hmem f).1 hf)⟩
          have huw := personaValue_coheres hsources howner hstrategy ih hopenu hpersona
          exact (hsu.trans huw).trans (coheres_of_remembered (value_of_personaValue hpersona) hnow)
        · have hfound := relationship?_of_owner? howner
          obtain ⟨foreign, x, y, hdependencies, hforeign, -, hsettled⟩ :=
            valueBy_eq_ok hsources hr (by rw [hid]; rfl) hby
          have hux : u.relations.Coheres setup x.relations := by
            rcases hdependencies with rfl | ⟨-, hchanges, -⟩
            · exact .refl _
            · exact .of_changes hchanges.changes hstrategy hfound fun f hf => hf.2
          have hyw : y.relations.Coheres setup w.relations :=
            .of_changes hsettled.changes hstrategy hfound fun f hf => hf.2
          have hws : w.relations.Coheres setup s'.relations :=
            .of_changes hlast.changes hstrategy hfound fun f hf => hf ▸ owns_of_owner? howner
          exact (((hsu.trans hux).trans (askedFor_coheres ih hforeign)).trans hyw).trans hws

/-- A value that is handed out is remembered. -/
theorem resolveAt_remembers (hsources : LeavesAlone K setup sources)
    (hfields : ∀ r, setup.plan.owner? field = some r → field ∈ r.fields) {budget : Nat}
    {s s' : RunState} {v : String}
    (h : (resolveAt setup sources ordinal budget field).exec s = (.ok (some v), s')) :
    s'.relations.value? field ordinal = some v := by
  cases budget with
  | zero => cases h
  | succ budget =>
      rcases resolveAt_succ_eq_ok h with
        ⟨rfl, hvalue, -⟩ | ⟨hopen, r, earlier, t, u, w, howner, hearlier, -, -, hby, hlast, -⟩
      · exact hvalue.symm
      · by_cases hstrategy : r.strategy = .consistentPersona
        · unfold valueBy at hby
          rw [hstrategy] at hby
          exact hlast.changes.kept field ordinal v
            ((value_of_personaValue hby).resolve_left nofun).symm
        · obtain ⟨w, hw, hsettled⟩ :=
            resolveAt_returns_settled hsources howner (hfields r howner) hstrategy h
          cases hw
          exact hsettled

end Settling

/-! ## Rows of calls -/

/-- Fields were asked for in a row of calls, each with its answer. -/
inductive Calls (setup : Setup) (sources : FieldSources) :
    RunState → List (String × Option String) → RunState → Prop where
  | nil {s : RunState} : Calls setup sources s [] s
  | cons {s t u : RunState} {field : String} {value : Option String}
      {rest : List (String × Option String)}
      (hcall : (resolveField setup sources field).exec s = (.ok value, t))
      (hrest : Calls setup sources t rest u) : Calls setup sources s ((field, value) :: rest) u

/-- The answers to the calls for a field. -/
def answers (field : String) (calls : List (String × Option String)) : List (Option String) :=
  (calls.filter fun call => call.1 == field).map (·.2)

/-- What a row of calls has done: nothing that was remembered is replaced, every call for a field brings its
next instance on, and a value that was handed out is remembered for its instance. -/
structure HandsOut (setup : Setup) (s : RunState) (calls : List (String × Option String)) (t : RunState) :
    Prop where
  kept : ∀ f n v, s.relations.value? f n = some v → t.relations.value? f n = some v
  coheres : s.relations.Coheres setup t.relations
  asked : ∀ f, t.relations.asked.getD f 0 = s.relations.asked.getD f 0 + (answers f calls).length
  remembered : ∀ f n v, (answers f calls)[n]? = some (some v) →
    t.relations.value? f (s.relations.asked.getD f 0 + n) = some v

theorem answers_append (field : String) (calls more : List (String × Option String)) :
    answers field (calls ++ more) = answers field calls ++ answers field more := by
  unfold answers
  rw [List.filter_append, List.map_append]

theorem answers_singleton (f field : String) (value : Option String) :
    answers f [(field, value)] = if field = f then [value] else [] := by
  unfold answers
  by_cases h : field = f
  · simp [h]
  · simp [h]

section Calls

variable {K : RunState → RunState → Prop} {setup : Setup} {sources : FieldSources} {s t u : RunState}
  {calls more : List (String × Option String)}

namespace HandsOut

theorem of_quiet (h : s.Quiet t) : HandsOut setup s [] t :=
  ⟨fun f n _ hv => (h.same.value?_eq f n).trans hv, .of_same h.same, fun f => by rw [h.same.asked]; rfl,
    nofun⟩

theorem trans (hst : HandsOut setup s calls t) (htu : HandsOut setup t more u) :
    HandsOut setup s (calls ++ more) u where
  kept f n v h := htu.kept f n v (hst.kept f n v h)
  coheres := hst.coheres.trans htu.coheres
  asked f := by rw [htu.asked, hst.asked, answers_append, List.length_append, Nat.add_assoc]
  remembered f n v h := by
    rw [answers_append] at h
    by_cases hn : n < (answers f calls).length
    · rw [List.getElem?_append_left hn] at h
      exact htu.kept f _ v (hst.remembered f n v h)
    · have hle := Nat.le_of_not_lt hn
      rw [List.getElem?_append_right hle] at h
      have hvalue := htu.remembered f _ v h
      rw [hst.asked, Nat.add_assoc, Nat.add_sub_cancel' hle] at hvalue
      exact hvalue

/-- A call hands out the next value of its field. -/
theorem of_call (hsources : LeavesAlone K setup sources) {field : String} {value : Option String}
    (hfields : ∀ r, setup.plan.owner? field = some r → field ∈ r.fields)
    (h : (resolveField setup sources field).exec s = (.ok value, t)) :
    HandsOut setup s [(field, value)] t := by
  have hat := resolveField_eq_ok h
  have hcoheres := resolveAt_coheres hsources hat
  refine ⟨fun f n v hv => (resolveAt_extends hsources hat).kept f n v hv,
    ⟨hcoheres.picked, hcoheres.fromRecords⟩, fun f => ?_, fun f n v hv => ?_⟩
  · rw [resolveField_asked hsources h, answers_singleton]
    simp only [eq_comm (a := f)]
    split <;> rfl
  · rw [answers_singleton] at hv
    split at hv
    · rename_i heq
      subst heq
      cases n with
      | succ n => cases hv
      | zero =>
          cases hv
          exact resolveAt_remembers hsources hfields hat
    · cases hv

end HandsOut

theorem Calls.handsOut (hsources : LeavesAlone K setup sources)
    (hfields : ∀ field r, setup.plan.owner? field = some r → field ∈ r.fields)
    (h : Calls setup sources s calls t) : HandsOut setup s calls t := by
  induction h with
  | nil => exact .of_quiet (.refl _)
  | cons hcall _ ih => exact (HandsOut.of_call hsources (hfields _) hcall).trans ih

end Calls

/-- Sources that leave alone what relationships remember. -/
structure KeepRelations (sources : FieldSources) : Prop where
  independent : ∀ {f s v t}, (sources.independent f).exec s = (.ok v, t) → t.relations = s.relations
  pool : ∀ {f r s candidates t}, (sources.pool f r).exec s = (.ok candidates, t) →
    t.relations = s.relations

theorem kept_anything : RunState.Kept fun _ _ => True := ⟨fun _ => trivial, fun _ _ => trivial⟩

theorem KeepRelations.leavesAlone {sources : FieldSources} (h : KeepRelations sources) (setup : Setup) :
    LeavesAlone (fun _ _ => True) setup sources where
  kept := kept_anything
  independent _ _ _ _ _ hvalue := by
    refine ⟨trivial, ?_⟩
    rw [h.independent hvalue]
    exact ⟨rfl, rfl, rfl⟩
  pool _ _ _ _ _ _ _ hpool := by
    refine ⟨trivial, ?_⟩
    rw [h.pool hpool]
    exact ⟨rfl, rfl, rfl⟩

theorem fromRecords_of_empty {setup : Setup} {r : Relationship} : RelationState.FromRecords setup r {} := by
  intro n f v _ hv
  have hnone : RelationState.value? {} f n = none := Std.HashMap.getElem?_empty
  rw [hnone] at hv
  cases hv

/-- Along every row of calls that begins with nothing remembered, values and records are written once, the
`n`-th call for a field hands out what everyone reads in its instance `n`, and all values of a persona are
from the record of their instance. -/
theorem values_written_once {c : Config} {plan : Plan} (h : c.compile = .ok plan) (setup : Setup)
    (warnings : List Issue) (hplan : setup.plan = { plan with warnings }) (sources : FieldSources)
    (hsources : KeepRelations sources) {s t u : RunState} {calls more : List (String × Option String)}
    (hstart : s.relations = {}) (hcalls : Calls setup sources s calls t)
    (hmore : Calls setup sources t more u) :
    (∀ f n v, t.relations.value? f n = some v → u.relations.value? f n = some v) ∧
    (∀ f n v, (answers f calls)[n]? = some (some v) → t.relations.value? f n = some v ∧
      (∀ r : Relationship, f ∈ r.fields → (t.relations.bindings r n).get? f = some v) ∧
      ∀ budget, (resolveAt setup sources n (budget + 1) f).exec t = (.ok (some v), t)) ∧
    (∀ id n index, t.relations.persona? id n = some index → u.relations.persona? id n = some index) ∧
    ∀ r ∈ setup.plan.relationships, r.strategy = .consistentPersona →
      t.relations.FromRecords setup r := by
  have hfields : ∀ field r, setup.plan.owner? field = some r → field ∈ r.fields := by
    rw [hplan]
    exact fun field r => Config.mem_fields_of_owner? h
  have hfound : ∀ r ∈ setup.plan.relationships, setup.plan.relationship? r.id = some r := by
    rw [hplan]
    exact fun r => Config.relationship?_of_mem h
  have halone := hsources.leavesAlone setup
  have hst := hcalls.handsOut halone hfields
  have htu := hmore.handsOut halone hfields
  refine ⟨htu.kept, fun f n v hv => ?_, htu.coheres.picked, fun r hr hpersona => ?_⟩
  · have hasked : s.relations.asked.getD f 0 = 0 := by
      rw [hstart]
      exact Std.HashMap.getD_empty
    have hvalue := hst.remembered f n v hv
    rw [hasked, Nat.zero_add] at hvalue
    refine ⟨hvalue, fun r hf => ?_, fun budget => ?_⟩
    · rw [RelationState.get?_bindings, if_pos hf, hvalue]
    · unfold resolveAt
      rw [exec_get_bind, hvalue]
      rfl
  · refine hst.coheres.fromRecords r (hfound r hr) hpersona ?_
    rw [hstart]
    exact fromRecords_of_empty

/-- Sources that know no value. -/
def noSources : FieldSources where
  independent _ := pure ""
  pool _ _ := pure []
  selection field := (field, .random)

theorem noSources_keepRelations : KeepRelations noSources where
  independent h := by rw [(exec_pure_eq_ok.1 h).2]
  pool h := by rw [(exec_pure_eq_ok.1 h).2]

/-- The setup of a run for two people. -/
def peopleSetup : Setup where
  schema := { version := "0.1", elements := [] }
  plan := peopleConfig.draft.2
  contexts := (Contexts.merge peopleConfig.dataContexts).toOption.getD {}

theorem values_written_once_people : ∃ r ∈ peopleSetup.plan.relationships, ∃ t,
    Calls peopleSetup noSources (.start 0 {})
      [("@First", some "Ana"), ("@First", some "Ben"), ("@Mail", some "ana@x")] t ∧
    t.relations.value? "@First" 1 = some "Ben" ∧ t.relations.value? "@Mail" 0 = some "ana@x" ∧
    r.strategy = .consistentPersona ∧ t.relations.FromRecords peopleSetup r := by
  have hcompile : peopleConfig.compile = .ok peopleConfig.draft.2 :=
    Config.compile_of_sound (by decide +kernel)
  obtain ⟨r, hr⟩ : ∃ r, PersonRelationship peopleSetup r :=
    exists_personRelationship (by decide +kernel) rfl
  have hmem : r ∈ peopleSetup.plan.relationships :=
    (owner?_spec (hr.owner "@First" (by simp [hr.fields]))).1
  obtain ⟨hfirst, htook⟩ := hr.handsOut_first noSources (s := .start 0 {}) rfl rfl
  obtain ⟨hsecond, hasked, hmail⟩ := hr.handsOut_second noSources htook
  have hcalls : Calls peopleSetup noSources (.start 0 {})
      [("@First", some "Ana"), ("@First", some "Ben"), ("@Mail", some "ana@x")] _ :=
    .cons hfirst (.cons hsecond (.cons (PersonRelationship.handsOut_mail noSources hasked hmail) .nil))
  obtain ⟨-, hhanded, -, hrecords⟩ := values_written_once hcompile peopleSetup _ rfl noSources
    noSources_keepRelations rfl hcalls .nil
  exact ⟨r, hmem, _, hcalls, (hhanded "@First" 1 "Ben" (by decide)).1,
    (hhanded "@Mail" 0 "ana@x" (by decide)).1, hr.turns.strategy, hrecords r hmem hr.turns.strategy⟩

end Relation
end Specimen
