import Specimen.Proofs.Relation.Enforcement

/-!
# Personas that take their records in turn

A persona that is free of constraints and of other relationships takes the next record for each instance and
settles all its fields at once.  Its calls can be followed one by one: the first call for an instance takes
a turn, and later ones find the value there.
-/

namespace Specimen

open Run

/-- The state after a persona has settled some of its fields by a record. -/
def RelationState.settleFrom (setup : Setup) (r : Relationship) (record : Json) (ordinal : Nat)
    (s : RelationState) (fields : List String) : RelationState :=
  fields.foldl
    (fun s f =>
      if setup.plan.owns r f then
        match recordText? record (r.recordKey f) with
        | some v => s.settle f ordinal v
        | none => s
      else s) s

namespace RelationState

variable {setup : Setup} {r : Relationship} {record : Json} {ordinal : Nat} {fields : List String}

theorem value?_settleFrom (howned : ∀ f ∈ fields, setup.plan.owns r f = true) (s : RelationState)
    (f : String) (n : Nat) :
    (s.settleFrom setup r record ordinal fields).value? f n =
      if f ∈ fields ∧ n = ordinal then s.value? f n <|> recordText? record (r.recordKey f)
      else s.value? f n := by
  induction fields generalizing s with
  | nil => simp [settleFrom]
  | cons g rest ih =>
      have hg := howned g List.mem_cons_self
      unfold settleFrom at ih ⊢
      rw [List.foldl_cons, if_pos hg, ih fun f hf => howned f (List.mem_cons_of_mem g hf)]
      cases htext : recordText? record (r.recordKey g) with
      | none =>
          by_cases heq : f = g
          · subst heq
            simp [htext]
          · simp [heq]
      | some v =>
          simp only [value?_settle, Prod.mk.injEq]
          by_cases heq : f = g
          · subst heq
            by_cases hn : n = ordinal
            · subst hn
              cases s.value? f n <;> simp [htext]
            · simp [hn, Ne.symm hn]
          · simp [heq, Ne.symm heq]

/-- Settling by a record changes nothing but values. -/
theorem settleFrom_frame {s : RelationState} :
    (s.settleFrom setup r record ordinal fields).asked = s.asked ∧
      (s.settleFrom setup r record ordinal fields).personas = s.personas := by
  unfold settleFrom
  refine List.foldlRecOn (motive := fun t : RelationState => t.asked = s.asked ∧ t.personas = s.personas)
    fields _ ⟨rfl, rfl⟩ fun t ht f _ => ?_
  split
  · split
    · exact ht
    · exact ht
  · exact ht

end RelationState

/-- A persona that owns all its fields, waits for nothing and takes its records in turn. -/
structure Relationship.TakesTurns (setup : Setup) (r : Relationship) (records : List Json) : Prop where
  strategy : r.strategy = .consistentPersona
  owned : ∀ f ∈ r.fields, setup.plan.owns r f = true
  after : r.after = []
  constraints : r.constraints = []
  ensureUnique : r.ensureUnique = false
  selection : r.selection = .template
  source : ∃ source, r.source = some source ∧ setup.contexts.records source = .ok records
  nonempty : records ≠ []

/-- The record that a persona takes next, and the selection after it. -/
def Relationship.turn (r : Relationship) (records : List Json) (s : RunState) : Nat × SelectionState :=
  s.selection.rotate (SelectionState.key r.selectionPath .template) records.length

/-- The state after a call for a field of a persona that took its next record for the instance. -/
def RunState.takeTurn (setup : Setup) (r : Relationship) (records : List Json) (field value : String)
    (s : RunState) : RunState :=
  let ordinal := s.relations.asked.getD field 0
  let index := (r.turn records s).1
  let picked := (s.relations.next field).2.setPersona r.id ordinal (some index)
  { s with
    selection := (r.turn records s).2
    relations :=
      (picked.settleFrom setup r (records.getD index .null) ordinal r.fields).settle field ordinal value
    report := s.report.countRelationship r.id
    trace := s.trace.push (.picked r.id ordinal index) }

namespace Relation

variable {setup : Setup} {sources : FieldSources} {r : Relationship} {records : List Json} {field : String}
  {ordinal : Nat} {s : RunState}

theorem turn_of_cursor {cursor : UInt64}
    (h : s.selection.cursors.getD (SelectionState.key r.selectionPath .template) 0 = cursor) :
    (r.turn records s).1 = cursor.toNat % records.length := by
  subst h
  rfl

theorem turn_lt (hne : records ≠ []) (s : RunState) : (r.turn records s).1 < records.length :=
  Nat.mod_lt _ (List.length_pos_iff.2 hne)

theorem pickPersona_of_turns (h : r.TakesTurns setup records) :
    (pickPersona setup r records ordinal).exec s =
      (.ok (some (r.turn records s).1),
        { s with
          selection := (r.turn records s).2
          trace := s.trace.push (.picked r.id ordinal (r.turn records s).1) }) := by
  have hlength : records.length ≠ 0 := by
    simpa using h.nonempty
  have hpick : (pickFrom r.selectionPath r.selection (List.range records.length)).exec s =
      (.ok (some (r.turn records s).1), { s with selection := (r.turn records s).2 }) := by
    have hrun : (pick r.selectionPath r.selection (List.range records.length).length).exec s =
        (.ok (some (r.turn records s).1), { s with selection := (r.turn records s).2 }) := by
      rw [h.selection, List.length_range]
      unfold pick SelectionState.pick
      simp only [if_neg hlength]
      rfl
    unfold pickFrom
    rw [exec_bind_of_ok hrun, Option.bind_some, List.getElem?_range (turn_lt h.nonempty s)]
    rfl
  obtain ⟨tries, htries⟩ : ∃ tries, r.attempts setup.options = tries + 1 :=
    Nat.exists_eq_add_one.2 (Nat.lt_of_lt_of_le Nat.one_pos (Nat.le_max_right _ _))
  have hcandidates : personaCandidates r records = pure (List.range records.length) := by
    unfold personaCandidates
    simp [h.ensureUnique]
  unfold pickPersona
  rw [if_neg (by simpa using h.nonempty), hcandidates, pure_bind, htries]
  unfold bindings tryRecords
  simp only [bind_assoc, pure_bind]
  rw [exec_get_bind, exec_bind_of_ok hpick]
  simp [h.constraints, h.ensureUnique, Constraint.allBoundHold]
  rfl

theorem personaOf_of_turn (h : r.TakesTurns setup records)
    (hnone : s.relations.persona? r.id ordinal = none) (resolve : String → Run (Option String)) :
    (personaOf setup resolve r records field ordinal).exec s =
      (.ok (some (r.turn records s).1),
        { s with
          selection := (r.turn records s).2
          relations := s.relations.setPersona r.id ordinal (some (r.turn records s).1)
          trace := s.trace.push (.picked r.id ordinal (r.turn records s).1) }) := by
  unfold personaOf
  rw [exec_get_bind, hnone]
  dsimp only
  rw [settleForeign_of_owned h.owned, pure_bind, exec_bind_of_ok (pickPersona_of_turns h)]
  rfl

theorem personaValue_of_turn (h : r.TakesTurns setup records) (hfield : field ∈ r.fields)
    (hopen : s.relations.value? field ordinal = none)
    (hnone : s.relations.persona? r.id ordinal = none) {value : String}
    (hvalue : recordText? (records.getD (r.turn records s).1 .null) (r.recordKey field) = some value)
    (resolve : String → Run (Option String)) :
    (personaValue setup resolve r field ordinal).exec s =
      (.ok (some value),
        { s with
          selection := (r.turn records s).2
          relations := (s.relations.setPersona r.id ordinal (some (r.turn records s).1)).settleFrom setup r
            (records.getD (r.turn records s).1 .null) ordinal r.fields
          trace := s.trace.push (.picked r.id ordinal (r.turn records s).1) }) := by
  obtain ⟨source, hsource, hrecords⟩ := h.source
  have hget : records[(r.turn records s).1]? = some (records.getD (r.turn records s).1 .null) := by
    rw [List.getD_eq_getElem?_getD, List.getElem?_eq_getElem (turn_lt h.nonempty s), Option.getD_some]
  have hread : ((s.relations.setPersona r.id ordinal (some (r.turn records s).1)).settleFrom setup r
      (records.getD (r.turn records s).1 .null) ordinal r.fields).value? field ordinal = some value := by
    have hstill : (s.relations.setPersona r.id ordinal (some (r.turn records s).1)).value? field ordinal =
        none := hopen
    rw [RelationState.value?_settleFrom h.owned, if_pos ⟨hfield, rfl⟩, hstill, hvalue]
    rfl
  unfold personaValue
  rw [hsource]
  dsimp only
  rw [hrecords]
  unfold ofContexts
  rw [pure_bind, exec_bind_of_ok (personaOf_of_turn h hnone resolve), Option.bind_some, hget]
  unfold settleRecord
  rw [exec_relate_bind, exec_get_bind, exec_pure, ← hread]
  rfl

/-- The first call for an instance takes the next record. -/
theorem resolveField_of_turn (h : r.TakesTurns setup records) (howner : setup.plan.owner? field = some r)
    (hfield : field ∈ r.fields)
    (hopen : s.relations.value? field (s.relations.asked.getD field 0) = none)
    (hnone : s.relations.persona? r.id (s.relations.asked.getD field 0) = none) {value : String}
    (hvalue : recordText? (records.getD (r.turn records s).1 .null) (r.recordKey field) = some value) :
    (resolveField setup sources field).exec s =
      (.ok (some value), s.takeTurn setup r records field value) := by
  have hstill : (s.relations.next field).2.value? field (s.relations.asked.getD field 0) = none := hopen
  change (resolveAt setup sources (s.relations.asked.getD field 0) (setup.plan.owners.size + 1) field).exec
    { s with relations := (s.relations.next field).2 } = _
  unfold resolveAt
  rw [exec_get_bind]
  dsimp only
  rw [hstill, howner]
  dsimp only
  rw [h.after]
  unfold settleEarlier valueBy
  rw [pure_bind, exec_record_bind, h.strategy]
  dsimp only
  have hpersona := personaValue_of_turn (s := { s with
    relations := (s.relations.next field).2
    report := s.report.countRelationship r.id }) h hfield hstill hnone hvalue
      (resolveAt setup sources (s.relations.asked.getD field 0) setup.plan.owners.size)
  rw [exec_bind_of_ok hpersona]
  rfl

/-- A later call for an instance hands out the value that is there. -/
theorem resolveField_of_settled {value : String}
    (hvalue : s.relations.value? field (s.relations.asked.getD field 0) = some value) :
    (resolveField setup sources field).exec s =
      (.ok (some value), { s with relations := (s.relations.next field).2 }) := by
  have hstill : (s.relations.next field).2.value? field (s.relations.asked.getD field 0) = some value :=
    hvalue
  change (resolveAt setup sources (s.relations.asked.getD field 0) (setup.plan.owners.size + 1) field).exec
    { s with relations := (s.relations.next field).2 } = _
  unfold resolveAt
  rw [exec_get_bind]
  dsimp only
  rw [hstill]
  rfl

/-! ## What a turn remembers -/

/-- A turn settles all fields of the persona in its instance, as far as the record has them. -/
theorem value?_takeTurn (h : r.TakesTurns setup records) (hfield : field ∈ r.fields) {value : String}
    (hvalue : recordText? (records.getD (r.turn records s).1 .null) (r.recordKey field) = some value)
    (f : String) (n : Nat) :
    (s.takeTurn setup r records field value).relations.value? f n =
      if f ∈ r.fields ∧ n = s.relations.asked.getD field 0 then
        s.relations.value? f n <|> recordText? (records.getD (r.turn records s).1 .null) (r.recordKey f)
      else s.relations.value? f n := by
  have hbefore : ∀ g m, ((s.relations.next field).2.setPersona r.id (s.relations.asked.getD field 0)
      (some (r.turn records s).1)).value? g m = s.relations.value? g m := fun _ _ => rfl
  unfold RunState.takeTurn
  dsimp only
  rw [RelationState.value?_settle, RelationState.value?_settleFrom h.owned, hbefore]
  split
  · rename_i heq
    obtain ⟨rfl, rfl⟩ := Prod.mk.inj heq
    rw [if_pos ⟨hfield, rfl⟩, hvalue]
    cases s.relations.value? field (s.relations.asked.getD field 0) <;> rfl
  · rfl

theorem persona?_takeTurn (field value id : String) (n : Nat) :
    (s.takeTurn setup r records field value).relations.persona? id n =
      if (r.id, s.relations.asked.getD field 0) = (id, n) then some (some (r.turn records s).1)
      else s.relations.persona? id n := by
  have hbefore : ∀ id n, (s.relations.next field).2.persona? id n = s.relations.persona? id n :=
    fun _ _ => rfl
  rw [← hbefore, ← RelationState.persona?_setPersona]
  unfold RunState.takeTurn RelationState.persona? RelationState.settle
  dsimp only
  rw [RelationState.settleFrom_frame.2]

theorem asked_takeTurn (field value f : String) :
    (s.takeTurn setup r records field value).relations.asked.getD f 0 =
      s.relations.asked.getD f 0 + if f = field then 1 else 0 := by
  unfold RunState.takeTurn RelationState.settle
  dsimp only
  rw [RelationState.settleFrom_frame.1]
  exact RelationState.asked_next s.relations field f

/-! ## Two people -/

/-- Two people, each with a first name and a mail address. -/
def people : List Json :=
  [.object [("First", .string "Ana"), ("Mail", .string "ana@x")],
    .object [("First", .string "Ben"), ("Mail", .string "ben@x")]]

/-- A configuration that takes first names and mail addresses from people. -/
def peopleConfig : Config where
  dataContexts := Dict.empty.insert "c" { values := Dict.empty.insert "people" (.array people) }
  relationships := Dict.empty.insert "person"
    { fields := ["@First", "@Mail"]
      strategy := "consistent_persona"
      source := some "c.people"
      fieldMap := (Dict.empty.insert "@First" "First").insert "@Mail" "Mail" }

/-- The relationship of people in a setup. -/
structure PersonRelationship (setup : Setup) (r : Relationship) : Prop where
  turns : r.TakesTurns setup people
  id : r.id = "person"
  fields : r.fields = ["@First", "@Mail"]
  owner : ∀ f ∈ r.fields, setup.plan.owner? f = some r
  keys : r.recordKey "@First" = "First" ∧ r.recordKey "@Mail" = "Mail"

/-- Whether a plan has the relationship of people. -/
def hasPersonRelationship (plan : Plan) : Bool :=
  (plan.owner? "@First").any fun r =>
    r.id == "person" && r.fields == ["@First", "@Mail"] && r.fields.all (plan.owns r) &&
      r.strategy == .consistentPersona && r.after == [] && r.constraints.isEmpty && !r.ensureUnique &&
        r.selection == .template && r.source == some "c.people" && r.recordKey "@First" == "First" &&
          r.recordKey "@Mail" == "Mail"

theorem exists_personRelationship {setup : Setup} (hplan : hasPersonRelationship setup.plan = true)
    (hrecords : setup.contexts.records "c.people" = .ok people) : ∃ r, PersonRelationship setup r := by
  unfold hasPersonRelationship at hplan
  cases howner : setup.plan.owner? "@First" with
  | none =>
      rw [howner] at hplan
      cases hplan
  | some r =>
      rw [howner] at hplan
      simp only [Option.any_some, Bool.and_eq_true, beq_iff_eq, List.all_eq_true, List.isEmpty_iff,
        Bool.not_eq_true'] at hplan
      obtain ⟨⟨⟨⟨⟨⟨⟨⟨⟨⟨hid, hfields⟩, howned⟩, hstrategy⟩, hafter⟩, hconstraints⟩, hunique⟩, hselection⟩,
        hsource⟩, hfirst⟩, hmail⟩ := hplan
      have hne : people ≠ [] := List.cons_ne_nil _ _
      exact ⟨r, ⟨hstrategy, howned, hafter, hconstraints, hunique, hselection, ⟨_, hsource, hrecords⟩, hne⟩,
        hid, hfields, fun f hf => owner?_of_owns (relationship?_of_owner? howner) (howned f hf),
        hfirst, hmail⟩

namespace PersonRelationship

variable {setup : Setup} {r : Relationship} {s : RunState}

/-- The first person was taken, for a first name. -/
structure TookFirst (r : Relationship) (relations : RelationState) (selection : SelectionState) : Prop where
  asked : relations.asked.getD "@First" 0 = 1 ∧ relations.asked.getD "@Mail" 0 = 0
  mail : relations.value? "@Mail" 0 = some "ana@x"
  next : relations.value? "@First" 1 = none ∧ relations.persona? r.id 1 = none
  cursor : selection.cursors.getD (SelectionState.key r.selectionPath .template) 0 = 1

theorem handsOut_first (h : PersonRelationship setup r) (sources : FieldSources)
    (hrelations : s.relations = {}) (hselection : s.selection = {}) :
    (resolveField setup sources "@First").exec s =
        (.ok (some "Ana"), s.takeTurn setup r people "@First" "Ana") ∧
      TookFirst r (s.takeTurn setup r people "@First" "Ana").relations
        (s.takeTurn setup r people "@First" "Ana").selection := by
  have hmem : "@First" ∈ r.fields := by simp [h.fields]
  have hasked : ∀ f, s.relations.asked.getD f 0 = 0 := by
    rw [hrelations]
    exact fun f => Std.HashMap.getD_empty
  have hopen : ∀ f n, s.relations.value? f n = none := by
    rw [hrelations]
    exact fun f n => Std.HashMap.getElem?_empty
  have hnone : ∀ n, s.relations.persona? r.id n = none := by
    rw [hrelations]
    exact fun n => Std.HashMap.getElem?_empty
  have hcursor : s.selection.cursors.getD (SelectionState.key r.selectionPath .template) 0 = 0 := by
    rw [hselection]
    exact Std.HashMap.getD_empty
  have hturn : (r.turn people s).1 = 0 := turn_of_cursor hcursor
  have htext : recordText? (people.getD (r.turn people s).1 .null) (r.recordKey "@First") = some "Ana" := by
    rw [hturn, h.keys.1]
    rfl
  refine ⟨resolveField_of_turn h.turns (h.owner _ hmem) hmem (hopen _ _) (hnone _) htext, ?_⟩
  constructor
  · rw [asked_takeTurn, asked_takeTurn, hasked, hasked]
    exact ⟨rfl, rfl⟩
  · rw [value?_takeTurn h.turns hmem htext, hopen, hasked, hturn, h.keys.2,
      if_pos ⟨by simp [h.fields], rfl⟩]
    rfl
  · rw [value?_takeTurn h.turns hmem htext, persona?_takeTurn, hopen, hnone, hasked]
    simp
  · unfold RunState.takeTurn Relationship.turn SelectionState.rotate
    dsimp only
    rw [Std.HashMap.getD_insert_self, hcursor]
    rfl

theorem handsOut_second (h : PersonRelationship setup r) (sources : FieldSources)
    (hs : TookFirst r s.relations s.selection) :
    (resolveField setup sources "@First").exec s =
        (.ok (some "Ben"), s.takeTurn setup r people "@First" "Ben") ∧
      (s.takeTurn setup r people "@First" "Ben").relations.asked.getD "@Mail" 0 = 0 ∧
      (s.takeTurn setup r people "@First" "Ben").relations.value? "@Mail" 0 = some "ana@x" := by
  have hmem : "@First" ∈ r.fields := by simp [h.fields]
  have hturn : (r.turn people s).1 = 1 := turn_of_cursor hs.cursor
  have htext : recordText? (people.getD (r.turn people s).1 .null) (r.recordKey "@First") = some "Ben" := by
    rw [hturn, h.keys.1]
    rfl
  have hopen := hs.next.1
  have hnone := hs.next.2
  rw [← hs.asked.1] at hopen hnone
  refine ⟨resolveField_of_turn h.turns (h.owner _ hmem) hmem hopen hnone htext, ?_, ?_⟩
  · rw [asked_takeTurn, hs.asked.2]
    rfl
  · rw [value?_takeTurn h.turns hmem htext, hs.mail, hs.asked.1]
    simp

theorem handsOut_mail (sources : FieldSources) (hasked : s.relations.asked.getD "@Mail" 0 = 0)
    (hmail : s.relations.value? "@Mail" 0 = some "ana@x") :
    (resolveField setup sources "@Mail").exec s =
      (.ok (some "ana@x"), { s with relations := (s.relations.next "@Mail").2 }) := by
  rw [← hasked] at hmail
  exact resolveField_of_settled hmail

end PersonRelationship

end Relation
end Specimen
