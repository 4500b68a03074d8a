import Specimen.Proofs.Relation.Judgement
import Specimen.Proofs.Run.Relationships

/-!
# Personas of a run

When a persona picks a record, the report of the run is told of the constraints that the record violates together with
what is settled beside it.  Afterwards the fields of the persona have what the record says, and foreign ones what their
owners have settled.  The two are the same where the record does not contradict the owners; where it does, a violation
can go unnoticed.
-/

namespace Specimen

open Run

namespace Generation

open Specimen.Relation (Reached resolveAt settleForeign pickPersona personaValue)

/-- When a persona has picked a record in a reachable state, the pick is flagged exactly if the record violates a
constraint beside the values that were settled by then.  So it is flagged whenever the values that are settled after
it violate a constraint and the record agrees with the owners of the fields that the constraint refers to. -/
theorem personas_judged (setup : Setup) {r : Relationship} (hstrategy : r.strategy = .consistentPersona)
    {field : String} (howner : setup.plan.owner? field = some r) {ordinal budget index : Nat} {s s' : RunState}
    (hs : Reached setup (Leaf.fieldSources setup) s) (hnone : s.relations.persona? r.id ordinal = none)
    {value : Option String}
    (h : (personaValue setup (resolveAt setup (Leaf.fieldSources setup) ordinal budget) r field ordinal).exec s =
      (.ok value, s'))
    (hpicked : s'.relations.persona? r.id ordinal = some (some index)) :
    ∃ records record t u notices, (∀ i, setup.recordAt? r i = records[i]?) ∧ records[index]? = some record ∧
      (settleForeign setup (resolveAt setup (Leaf.fieldSources setup) ordinal budget) r field r.fields).exec s =
        (.ok (), t) ∧
      (pickPersona setup r records ordinal).exec t = (.ok (some index), u) ∧ t.Reports notices u ∧
      (r.Flagged notices ↔
        ∃ k ∈ r.constraints, k.check (r.bindRecord record (t.relations.bindings r ordinal)) = .violated) ∧
      ∀ k ∈ r.constraints, k.check (s'.relations.bindings r ordinal) = .violated →
        r.AgreesWithOwners setup.plan record k.expr.fields ordinal s'.relations → r.Flagged notices := by
  have hsources : Relation.LeavesAlone RunState.Grows setup (Leaf.fieldSources setup) :=
    Leaf.fieldSources_supplied.leavesAlone
  have hfound := Relation.relationship?_of_owner? howner
  have hbefore : s.relations.FromRecords setup r := hs.fromRecords hsources hfound hstrategy
  have hopen := hbefore.value?_eq_none hnone (Relation.owns_of_owner? howner)
  have hcoheres := Relation.personaValue_coheres hsources howner hstrategy (Relation.resolveAt_coheres hsources) hopen h
  obtain ⟨records, t, u, hat, hforeign, hpick, -, hkept⟩ := Relation.personaValue_stages hfound hnone h hpicked
  obtain ⟨record, notices, hget, hreports, hflagged⟩ := Relation.pickPersona_eq_ok hpick
  refine ⟨records, record, t, u, notices, hat, hget, hforeign, hpick, hreports, hflagged,
    fun k hk hviolated hagrees => hflagged.2 ⟨k, hk, ?_⟩⟩
  have hafter : s'.relations.FromRecords setup r := hcoheres.fromRecords r hfound hstrategy hbefore
  have hextend := Relationship.extendOn_bindRecord hafter hpicked ((hat index).trans hget)
    (fun f => hkept f ordinal) hagrees
  exact Constraint.check_violated_mono hextend hviolated

/-- A guest with a first name and a city. -/
def guest : Element :=
  .mk { name := "Guest" }
    (some (.mk { kind := .sequence }
      [.element (.mk { name := "First", typeRef := some "xs:string" } none),
        .element (.mk { name := "City", typeRef := some "xs:string" } none)]))

def guestSchema : Schema where
  version := "0.1"
  elements := [guest]

/-- The only guest on record, perhaps with a city. -/
def guestRecord (known : Bool) : Json :=
  .object (("First", .string "Ana") :: if known then [("City", .string "Rome")] else [])

/-- All guests are in Paris, but those on record have to be in Rome. -/
def guestConfig (known : Bool) : Config where
  dataContexts := Dict.empty.insert "c" { values := Dict.empty.insert "people" (.array [guestRecord known]) }
  relationships := (Dict.empty.insert "city"
      { fields := ["City"]
        strategy := "dependent_values"
        dependsOn := ["City"] }).insert "person"
    { fields := ["First", "City"]
      strategy := "consistent_persona"
      source := some "c.people"
      constraints := ["City == 'Rome'"]
      maxAttempts := some 1 }
  elements := Dict.empty.insert "City"
    { customValues := [.string "Paris"], selectionStrategy := some "random" }

/-- What is computed of a run for a guest: the relationships, the record, and that the guest is in Paris. -/
def guestCheck (known : Bool) (setup : Setup) (root : Element) : Bool :=
  ((setup.plan.owner? "City").any fun city =>
    city.strategy == .dependentValues && city.after == [] && city.dependsOn == ["City"] &&
      returnsText ((Leaf.fieldSources setup).independent "City")
        { firstState setup root 0 zeroRng with report := (firstReport setup root 0).countRelationship city.id } "Paris"
          fun t => t.report.warnings.isEmpty) &&
  ((setup.plan.owner? "First").any fun person =>
    person.strategy == .consistentPersona && person.fields == ["First", "City"] &&
      !setup.plan.owns person "City" && person.source == some "c.people" && person.recordKey "City" == "City" &&
        person.constraints.length == 1 && person.constraints.all fun k =>
          k.fields == ["City"] && k.expr.fields == ["City"] &&
            k.check (Dict.empty.insert "City" "Paris") == .violated &&
              k.check (Dict.empty.insert "City" "Rome") != .violated) &&
  match setup.contexts.records "c.people" with
  | .ok records => records.length == 1 &&
      recordText? (records.getD 0 .null) "City" == if known then some "Rome" else none
  | .error _ => false

theorem guestCheck_of_prepare (known : Bool) : ∃ setup root,
    prepare guestSchema (guestConfig known) {} = .ok (setup, root) ∧ guestCheck known setup root = true := by
  have horder : ∀ b, ((guestConfig b).relationships.entries.map fun e =>
      (guestConfig b).compileRelationship (Config.compileSettings (guestConfig b).settings).2 e.1 e.2).filterMap
        (·.2) |>.Pairwise fun a b => Config.precedes a b = true := by decide +kernel
  have hchecked : ∀ b, (prepare guestSchema (guestConfig b) {}).toOption.any
      (fun p => guestCheck b p.1 p.2) = true := by
    intro b
    unfold prepare planFor Config.compile Config.draft
    rw [show override (guestConfig b) {} = guestConfig b from rfl]
    dsimp only
    rw [Config.mergeSort_of_inOrder (horder b)]
    revert b
    decide +kernel
  obtain ⟨⟨setup, root⟩, hsome, hcheck⟩ := (Option.any_eq_true _ _).1 (hchecked known)
  exact ⟨setup, root, toOption_eq_some.1 hsome, hcheck⟩

/-- A guest with the relationships for the city and for the person, the constraint, and the record. -/
structure GuestRun (known : Bool) (setup : Setup) (root : Element) (city person : Relationship) (k : Constraint)
    (record : Json) : Prop where
  prepared : prepare guestSchema (guestConfig known) {} = .ok (setup, root)
  cityOwner : setup.plan.owner? "City" = some city
  cityStrategy : city.strategy = .dependentValues
  cityAfter : city.after = []
  cityDependsOn : city.dependsOn = ["City"]
  cityValue : ∃ t, ((Leaf.fieldSources setup).independent "City").exec
    { firstState setup root 0 zeroRng with report := (firstReport setup root 0).countRelationship city.id } =
      (.ok "Paris", t) ∧ t.report.warnings = #[]
  personOwner : setup.plan.owner? "First" = some person
  personStrategy : person.strategy = .consistentPersona
  fields : person.fields = ["First", "City"]
  foreign : setup.plan.owns person "City" = false
  source : person.source = some "c.people"
  key : person.recordKey "City" = "City"
  constraints : person.constraints = [k]
  lists : k.fields = ["City"] ∧ k.expr.fields = ["City"]
  checks : k.check (Dict.empty.insert "City" "Paris") = .violated ∧
    k.check (Dict.empty.insert "City" "Rome") ≠ .violated
  records : setup.contexts.records "c.people" = .ok [record]
  recorded : recordText? record "City" = if known then some "Rome" else none

theorem exists_guestRun (known : Bool) : ∃ setup root city person k record,
    GuestRun known setup root city person k record := by
  obtain ⟨setup, root, hprepared, hcheck⟩ := guestCheck_of_prepare known
  unfold guestCheck at hcheck
  simp only [Bool.and_eq_true, Option.any_eq_true, beq_iff_eq, Bool.not_eq_true', List.length_eq_one_iff] at hcheck
  obtain ⟨⟨⟨city, hcity, ⟨⟨hcityStrategy, hcityAfter⟩, hcityDependsOn⟩, hgives⟩, person, hperson, hfacts⟩,
    hrecords⟩ := hcheck
  obtain ⟨⟨⟨⟨⟨⟨hpersonStrategy, hfields⟩, hforeign⟩, hsource⟩, hkey⟩, k, hconstraints⟩, hall⟩ := hfacts
  rw [hconstraints, List.all_cons, List.all_nil, Bool.and_true] at hall
  simp only [Bool.and_eq_true, beq_iff_eq, bne_iff_ne] at hall
  obtain ⟨⟨⟨hk, hkexpr⟩, hparis⟩, hrome⟩ := hall
  obtain ⟨t, hvalue, hwarnings⟩ := exists_of_returnsText hgives
  split at hrecords
  · rename_i records hfound
    simp only [Bool.and_eq_true, beq_iff_eq, List.length_eq_one_iff] at hrecords
    obtain ⟨⟨record, rfl⟩, hrecorded⟩ := hrecords
    exact ⟨setup, root, city, person, k, record, hprepared, hcity, hcityStrategy, hcityAfter, hcityDependsOn,
      ⟨t, hvalue, Array.isEmpty_iff.1 hwarnings⟩, hperson, hpersonStrategy, hfields, hforeign, hsource, hkey,
      hconstraints, ⟨hk, hkexpr⟩, ⟨hparis, hrome⟩, hfound, hrecorded⟩
  · cases hrecords

namespace GuestRun

variable {known : Bool} {setup : Setup} {root : Element} {city person : Relationship} {k : Constraint} {record : Json}

/-- When the first name of the guest is asked for, the city is settled first, and it is Paris. -/
theorem settlesCity (h : GuestRun known setup root city person k record) : ∃ t,
    (settleForeign setup (resolveAt setup (Leaf.fieldSources setup) 0 1) person "First" person.fields).exec
      (firstState setup root 0 zeroRng) = (.ok (), t) ∧
      t.relations.value? "City" 0 = some "Paris" ∧ t.report.warnings = #[] := by
  obtain ⟨t, hvalue, hwarnings⟩ := h.cityValue
  have hopen : (firstState setup root 0 zeroRng).relations.value? "City" 0 = none := Std.HashMap.getElem?_empty
  have hcall : (resolveAt setup (Leaf.fieldSources setup) 0 1 "City").exec (firstState setup root 0 zeroRng) =
      (.ok (some "Paris"), { t with relations := t.relations.settle "City" 0 "Paris" }) := by
    unfold resolveAt
    rw [exec_get_bind, hopen]
    dsimp only
    rw [h.cityOwner]
    dsimp only
    unfold Relation.valueBy Relation.dependentValue
    rw [h.cityAfter, h.cityStrategy, h.cityDependsOn, if_pos (by rfl)]
    unfold Relation.settleEarlier
    rw [pure_bind, exec_record_bind]
    dsimp only
    rw [bind_assoc]
    exact exec_bind_of_ok hvalue
  refine ⟨{ t with relations := t.relations.settle "City" 0 "Paris" }, ?_, ?_, hwarnings⟩
  · rw [h.fields]
    unfold settleForeign
    rw [if_neg (by simp)]
    unfold settleForeign
    rw [if_pos (by simp [h.foreign])]
    exact exec_bind_of_ok hcall
  · have howner := Relation.isSome_of_owns (Relation.owns_of_owner? h.cityOwner)
    have hsources : Relation.LeavesAlone RunState.Grows setup (Leaf.fieldSources setup) :=
      Leaf.fieldSources_supplied.leavesAlone
    rw [RelationState.value?_settle, if_pos rfl, (hsources.independent "City" howner hvalue).same.value?_eq, hopen]
    rfl

theorem recordAt?_eq (h : GuestRun known setup root city person k record) :
    setup.recordAt? person 0 = some record := Setup.recordAt?_eq h.source h.records 0

theorem record_eq (h : GuestRun known setup root city person k record) {records : List Json} {found : Json}
    (hat : ∀ i, setup.recordAt? person i = records[i]?) (hget : records[0]? = some found) : record = found := by
  rw [← hat, h.recordAt?_eq] at hget
  exact Option.some.inj hget

/-- Then the record is picked. -/
theorem picks (h : GuestRun known setup root city person k record) : ∃ value s',
    (personaValue setup (resolveAt setup (Leaf.fieldSources setup) 0 1) person "First" 0).exec
      (firstState setup root 0 zeroRng) = (.ok value, s') ∧ s'.relations.persona? person.id 0 = some (some 0) := by
  obtain ⟨t, hforeign, -⟩ := h.settlesCity
  have hnone : (firstState setup root 0 zeroRng).relations.persona? person.id 0 = none := Std.HashMap.getElem?_empty
  have hsteps : TakesTentativeSteps (fun _ => False) (pickPersona setup person [record] 0) :=
    Relation.pickPersona_takesTentativeSteps person [record] 0
  obtain ⟨picked, u, hpick⟩ := hsteps.returns t
  obtain ⟨i, rfl⟩ := Option.isSome_iff_exists.1 (Relation.pickPersona_isSome (List.cons_ne_nil _ _) hpick)
  obtain ⟨_, _, hget, -⟩ := Relation.pickPersona_eq_ok hpick
  obtain rfl : i = 0 := Nat.lt_one_iff.1 (List.getElem?_eq_some_iff.1 hget).1
  have hpersona : (Relation.personaOf setup (resolveAt setup (Leaf.fieldSources setup) 0 1) person [record] "First"
      0).exec (firstState setup root 0 zeroRng) =
        (.ok (some 0), { u with relations := u.relations.setPersona person.id 0 (some 0) }) := by
    unfold Relation.personaOf
    rw [exec_get_bind, hnone]
    dsimp only
    rw [exec_bind_of_ok hforeign, exec_bind_of_ok hpick]
    rfl
  have hvalue : (personaValue setup (resolveAt setup (Leaf.fieldSources setup) 0 1) person "First" 0).exec
      (firstState setup root 0 zeroRng) = (Relation.settleRecord setup person record 0 >>= fun _ => do
        return (← get).relations.value? "First" 0 : Run _).exec
          { u with relations := u.relations.setPersona person.id 0 (some 0) } := by
    unfold personaValue
    rw [h.source]
    dsimp only
    rw [h.records]
    unfold ofContexts
    rw [pure_bind, exec_bind_of_ok hpersona]
    rfl
  have hfound := Relation.relationship?_of_owner? h.personOwner
  have hset : (u.relations.setPersona person.id 0 (some 0)).persona? person.id 0 = some (some 0) :=
    RelationState.persona?_setPersona.trans (if_pos rfl)
  exact ⟨_, _, hvalue, (Relation.settleRecord_coheres hfound hset h.recordAt?_eq rfl).picked person.id 0 _ hset⟩

/-- Afterwards the city is still Paris, so the constraint is violated.  The report was told only if it is violated by
what the record says, too. -/
theorem judged (h : GuestRun known setup root city person k record) : ∃ s s' value,
    Reached setup (Leaf.fieldSources setup) s ∧ s.relations.persona? person.id 0 = none ∧
      (personaValue setup (resolveAt setup (Leaf.fieldSources setup) 0 1) person "First" 0).exec s = (.ok value, s') ∧
      s'.relations.persona? person.id 0 = some (some 0) ∧
      k.check (s'.relations.bindings person 0) = .violated ∧
      (person.Warned s' → ∃ settled, k.check (person.bindRecord record settled) = .violated) := by
  obtain ⟨t, hforeign, hcity, hwarnings⟩ := h.settlesCity
  obtain ⟨value, s', hvalue, hpicked⟩ := h.picks
  have hnone : (firstState setup root 0 zeroRng).relations.persona? person.id 0 = none := Std.HashMap.getElem?_empty
  obtain ⟨records, t', u, hat, hforeign', hpick, hus', hkept⟩ := Relation.personaValue_stages
    (Relation.relationship?_of_owner? h.personOwner) hnone hvalue hpicked
  obtain rfl : t = t' := by
    rw [hforeign] at hforeign'
    cases hforeign'
    rfl
  obtain ⟨found, notices, hget, htu, hflagged⟩ := Relation.pickPersona_eq_ok hpick
  obtain rfl := h.record_eq hat hget
  refine ⟨_, s', value, .start rfl, hnone, hvalue, hpicked, ?_, fun ⟨w, hw, htells⟩ => ?_⟩
  · refine Constraint.check_violated_mono (fun f hf v hv => ?_) h.checks.1
    rw [h.lists.2, List.mem_singleton] at hf
    subst hf
    rw [Dict.get?_insert, if_pos rfl] at hv
    rw [RelationState.get?_bindings, if_pos (by simp [h.fields]), hkept _ _ h.foreign, hcity, hv]
  · have htold : s'.report.warnings.toList = notices := by
      rw [htu.trans hus', hwarnings]
      simp
    rw [← Array.mem_toList_iff, htold] at hw
    obtain ⟨k', hk', hviolated⟩ := hflagged.1 ⟨w, hw, htells⟩
    rw [h.constraints, List.mem_singleton] at hk'
    exact ⟨_, hk' ▸ hviolated⟩

end GuestRun

theorem personas_judged_guest : ∃ setup r field s s' value,
    setup.plan.owner? field = some r ∧ r.strategy = .consistentPersona ∧
      Reached setup (Leaf.fieldSources setup) s ∧ s.relations.persona? r.id 0 = none ∧
      (personaValue setup (resolveAt setup (Leaf.fieldSources setup) 0 1) r field 0).exec s = (.ok value, s') ∧
      s'.relations.persona? r.id 0 = some (some 0) ∧
      (∃ k ∈ r.constraints, k.check (s'.relations.bindings r 0) = .violated) ∧
      ∃ records t u notices, (pickPersona setup r records 0).exec t = (.ok (some 0), u) ∧ t.Reports notices u ∧
        r.Flagged notices := by
  obtain ⟨setup, root, city, person, k, record, h⟩ := exists_guestRun false
  obtain ⟨s, s', value, hreached, hnone, hvalue, hpicked, hviolated, -⟩ := h.judged
  obtain ⟨records, found, t, u, notices, hat, hget, -, hpick, hreports, -, hflagged⟩ :=
    personas_judged setup h.personStrategy h.personOwner hreached hnone hvalue hpicked
  obtain rfl := h.record_eq hat hget
  have hk : k ∈ person.constraints := by simp [h.constraints]
  refine ⟨setup, person, "First", s, s', value, h.personOwner, h.personStrategy, hreached, hnone, hvalue, hpicked,
    ⟨k, hk, hviolated⟩, records, t, u, notices, hpick, hreports,
    hflagged k hk hviolated fun f hf _ v w hv _ => ?_⟩
  rw [h.lists.2, List.mem_singleton] at hf
  rw [hf, h.key, h.recorded] at hv
  cases hv

/-- A record that contradicts the owner of a foreign field is judged by what it says itself, although the owner's value
stays: so a violation among the values that are settled goes unnoticed. -/
theorem personas_misjudged : ¬ ∀ schema config options setup root,
    prepare schema config options = .ok (setup, root) → ∀ (r : Relationship) (field : String),
      setup.plan.owner? field = some r → r.strategy = .consistentPersona →
        ∀ (ordinal budget index : Nat) (s s' : RunState) (value : Option String),
          Reached setup (Leaf.fieldSources setup) s → s.relations.persona? r.id ordinal = none →
            (personaValue setup (resolveAt setup (Leaf.fieldSources setup) ordinal budget) r field ordinal).exec s =
                (.ok value, s') → s'.relations.persona? r.id ordinal = some (some index) →
              (∃ k ∈ r.constraints, k.check (s'.relations.bindings r ordinal) = .violated) → r.Warned s' := by
  intro hjudged
  obtain ⟨setup, root, city, person, k, record, h⟩ := exists_guestRun true
  obtain ⟨s, s', value, hreached, hnone, hvalue, hpicked, hviolated, hwarned⟩ := h.judged
  have hk : k ∈ person.constraints := by simp [h.constraints]
  have hflagged := hjudged _ _ _ setup root h.prepared person "First" h.personOwner h.personStrategy 0 1 0 s s' value
    hreached hnone hvalue hpicked ⟨k, hk, hviolated⟩
  obtain ⟨settled, hrecord⟩ := hwarned hflagged
  -- by the record, the guest is in Rome
  have hagree : Bindings.AgreeOn k.fields (person.bindRecord record settled) (Dict.empty.insert "City" "Rome") := by
    intro f hf
    rw [h.lists.1, List.mem_singleton] at hf
    rw [hf, person.get?_bindRecord record _ (by simp [h.fields]), h.key, h.recorded, Dict.get?_insert, if_pos rfl]
    rfl
  have hlists : k.ListsFields := fun f => by rw [h.lists.1, h.lists.2]
  rw [Constraint.check_congr hlists hagree] at hrecord
  exact h.checks.2 hrecord

end Generation
end Specimen
