import Specimen.Proofs.Relation.Composition
import Specimen.Proofs.Relation.Judgement

/-!
# Rounds of records

A persona that takes each record once takes its records in rounds: only when it has taken all of them, it is told that
they are used up, and it begins anew.  The trace of a run tells which rounds there were.

Between two picks, the records that a relationship remembers as used are those of the round that goes on.  This is
what `TakesRounds` says of a state; a pick of the relationship keeps it, and nothing else matters to it.
-/

namespace Specimen

open Run

/-! ## Rounds -/

/-- Whether a notice says that a relationship has used all records. -/
def Notice.exhausts (id : String) (n : Notice) : Bool := n.isExhausted && n.relationship == some id

/-- Whether an event is about the records that a relationship takes. -/
def TraceEvent.concerns (id : String) : TraceEvent → Bool
  | .picked relationship .. => relationship == id
  | .warned n => n.exhausts id
  | _ => false

/-- The records that a relationship has taken in the round that goes on and in those that are over, the latest
first. -/
structure Rounds where
  current : List Nat := []
  past : List (List Nat) := []
  deriving DecidableEq, Repr

namespace Rounds

/-- Ends the round that goes on. -/
def close (rounds : Rounds) : Rounds := { current := [], past := rounds.current :: rounds.past }

/-- Goes on with a record. -/
def pick (rounds : Rounds) (record : Nat) : Rounds := { rounds with current := record :: rounds.current }

/-- What an event adds to the rounds of a relationship. -/
def add (id : String) (rounds : Rounds) : TraceEvent → Rounds
  | .picked relationship _ record => if relationship == id then rounds.pick record else rounds
  | .warned n => if n.exhausts id then rounds.close else rounds
  | _ => rounds

/-- The rounds of a relationship that a trace tells of. -/
def ofTrace (id : String) (trace : Trace) : Rounds := trace.toList.foldl (add id) {}

example : ofTrace "person"
    #[.picked "person" 0 1, .picked "guest" 0 0, .picked "person" 1 0,
      .warned { code := "persona_pool_exhausted", message := "", relationship := some "person" },
      .picked "person" 2 0] = { current := [0], past := [[0, 1]] } := by decide +kernel

/-- The rounds when the next of `count` records is asked for: a round that has them all is over. -/
def next (count : Nat) (rounds : Rounds) : Rounds := if count ≤ rounds.current.length then rounds.close else rounds

/-- In each round no record is taken twice, only `count` records are taken, and all of them before the round is
over. -/
structure Fair (count : Nat) (rounds : Rounds) : Prop where
  distinct : ∀ round ∈ rounds.current :: rounds.past, round.Nodup
  valid : ∀ round ∈ rounds.current :: rounds.past, ∀ i ∈ round, i < count
  complete : ∀ round ∈ rounds.past, ∀ i < count, i ∈ round

variable {id : String} {rounds : Rounds} {count : Nat} {e : TraceEvent}

theorem add_of_unconcerned (h : e.concerns id = false) : rounds.add id e = rounds := by
  cases e with
  | picked => exact if_neg (Bool.eq_false_iff.1 h)
  | warned n => exact if_neg (Bool.eq_false_iff.1 h)
  | filtered | cut | chosen | drawn | passedOver => rfl

theorem ofTrace_push (trace : Trace) (e : TraceEvent) : ofTrace id (trace.push e) = (ofTrace id trace).add id e := by
  unfold ofTrace
  rw [Array.toList_push, List.foldl_append]
  rfl

/-- Only events that are about its records matter to the rounds of a relationship. -/
theorem ofTrace_eq_foldl_filter (trace : Trace) :
    ofTrace id trace = (trace.toList.filter (·.concerns id)).foldl (add id) {} := by
  unfold ofTrace
  rw [List.foldl_filter]
  congr 1
  funext rounds e
  cases hconcerns : e.concerns id with
  | true => rfl
  | false => exact add_of_unconcerned hconcerns

namespace Fair

theorem empty (count : Nat) : ({} : Rounds).Fair count where
  distinct := by simp
  valid := by simp
  complete := by simp

theorem pick (h : rounds.Fair count) {i : Nat} (hi : i < count) (hnew : i ∉ rounds.current) :
    (rounds.pick i).Fair count where
  distinct := by
    rw [List.forall_mem_cons]
    obtain ⟨hcurrent, hpast⟩ := List.forall_mem_cons.1 h.distinct
    exact ⟨List.nodup_cons.2 ⟨hnew, hcurrent⟩, hpast⟩
  valid := by
    rw [List.forall_mem_cons]
    obtain ⟨hcurrent, hpast⟩ := List.forall_mem_cons.1 h.valid
    exact ⟨List.forall_mem_cons.2 ⟨hi, hcurrent⟩, hpast⟩
  complete := h.complete

/-- A round without repetition that has as many records as there are has all of them. -/
theorem close (h : rounds.Fair count) (hall : count ≤ rounds.current.length) : rounds.close.Fair count where
  distinct := List.forall_mem_cons.2 ⟨List.nodup_nil, h.distinct⟩
  valid := List.forall_mem_cons.2 ⟨fun _ hi => absurd hi List.not_mem_nil, h.valid⟩
  complete := by
    refine List.forall_mem_cons.2 ⟨fun i hi => ?_, h.complete⟩
    have hnodup : rounds.current.Nodup := h.distinct _ List.mem_cons_self
    have hsubset : rounds.current ⊆ List.range count :=
      fun j hj => List.mem_range.2 (h.valid _ List.mem_cons_self j hj)
    have hperm : rounds.current.Perm (List.range count) :=
      (hnodup.subperm hsubset).perm_of_length_le (by rwa [List.length_range])
    exact hperm.mem_iff.2 (List.mem_range.2 hi)

end Fair
end Rounds

/-! ## States between picks -/

namespace RunState

/-- Of what a state says about the records of a relationship, another one says the same. -/
structure SameFor (id : String) (s t : RunState) : Prop where
  used : t.relations.recordsUsed id = s.relations.recordsUsed id
  personas : ∀ n, t.relations.persona? id n = s.relations.persona? id n
  events : t.trace.toList.filter (·.concerns id) = s.trace.toList.filter (·.concerns id)
  notices : t.report.warnings.toList.filter (·.exhausts id) = s.report.warnings.toList.filter (·.exhausts id)

/-- The rounds that a trace tells of are fair, the report was told of each that is over, the records that are
remembered as used are those of the round that goes on, and every record that an instance has was picked for it. -/
structure TakesRounds (id : String) (count : Nat) (s : RunState) : Prop where
  fair : (Rounds.ofTrace id s.trace).Fair count
  told : (s.report.warnings.toList.filter (·.exhausts id)).length = (Rounds.ofTrace id s.trace).past.length
  used : s.relations.recordsUsed id = (Rounds.ofTrace id s.trace).current
  remembered : ∀ n i, s.relations.persona? id n = some (some i) → .picked id n i ∈ s.trace.toList

/-- A condition on states depends on nothing but the records of a relationship. -/
def IsOfRecords (id : String) (I : RunState → Prop) : Prop := ∀ s t, s.SameFor id t → I s → I t

variable {id : String} {count : Nat} {s t u : RunState}

namespace SameFor

theorem refl (s : RunState) : s.SameFor id s := ⟨rfl, fun _ => rfl, rfl, rfl⟩

theorem trans (hst : s.SameFor id t) (htu : t.SameFor id u) : s.SameFor id u where
  used := htu.used.trans hst.used
  personas n := (htu.personas n).trans (hst.personas n)
  events := htu.events.trans hst.events
  notices := htu.notices.trans hst.notices

theorem of_sameRecords (h : s.SameRecords t) (hwarnings : t.report.warnings = s.report.warnings) :
    s.SameFor id t where
  used := by
    unfold RelationState.recordsUsed
    rw [h.relations.usedRecords]
  personas n := by
    unfold RelationState.persona?
    rw [h.relations.personas]
  events := by rw [h.trace]
  notices := by rw [hwarnings]

theorem isOfRecords (s : RunState) : IsOfRecords id (s.SameFor id) := fun _ _ hsame hs => hs.trans hsame

theorem rounds_eq (h : s.SameFor id t) : Rounds.ofTrace id t.trace = Rounds.ofTrace id s.trace := by
  rw [Rounds.ofTrace_eq_foldl_filter, h.events, ← Rounds.ofTrace_eq_foldl_filter]

end SameFor

theorem isOfRecords_takesRounds : IsOfRecords id (TakesRounds id count) := by
  intro s t hsame h
  have hmem : ∀ n i, TraceEvent.picked id n i ∈ s.trace.toList → TraceEvent.picked id n i ∈ t.trace.toList := by
    intro n i hpicked
    have hfiltered : TraceEvent.picked id n i ∈ s.trace.toList.filter (·.concerns id) :=
      List.mem_filter.2 ⟨hpicked, beq_self_eq_true id⟩
    rw [← hsame.events] at hfiltered
    exact (List.mem_filter.1 hfiltered).1
  constructor
  case fair => rw [hsame.rounds_eq]; exact h.fair
  case told => rw [hsame.rounds_eq, hsame.notices]; exact h.told
  case used => rw [hsame.rounds_eq, hsame.used]; exact h.used
  case remembered => exact fun n i hpersona => hmem n i (h.remembered n i ((hsame.personas n).symm.trans hpersona))

end RunState

/-! ## What leaves records alone -/

theorem TraceEvent.isOfRecords_of_concerns {id : String} {e : TraceEvent} (h : e.concerns id = true) :
    e.isOfRecords = true := by
  cases e with
  | picked => rfl
  | warned n => exact (Bool.and_eq_true_iff.1 h).1
  | filtered | cut | chosen | drawn | passedOver => cases h

namespace Run

variable {id : String} {I : RunState → Prop} {α : Type}

theorem Maintains.of_same (hI : RunState.IsOfRecords id I) {m : Run α}
    (hsame : ∀ s : RunState, s.SameFor id (m.exec s).2) : Maintains I m := fun s hs => hI _ _ (hsame s) hs

theorem followAll_same (events : List TraceEvent) (h : ∀ e ∈ events, e.concerns id = false) (s : RunState) :
    s.SameFor id ((followAll events).exec s).2 where
  used := rfl
  personas _ := rfl
  events := by
    have hnone : events.filter (·.concerns id) = [] :=
      List.filter_eq_nil_iff.2 fun e he => by rw [h e he]; exact Bool.false_ne_true
    change (s.trace ++ events).toList.filter _ = _
    rw [Array.toList_appendList, List.filter_append, hnone, List.append_nil]
  notices := rfl

theorem warn_same {n : Notice} (h : n.exhausts id = false) (s : RunState) :
    s.SameFor id ((warn n).exec s).2 where
  used := rfl
  personas _ := rfl
  events := by
    have hnone : [TraceEvent.warned n].filter (·.concerns id) = [] := by simpa [TraceEvent.concerns] using h
    change (s.trace.push (.warned n)).toList.filter _ = _
    rw [Array.toList_push, List.filter_append, hnone, List.append_nil]
  notices := by
    have hnone : [n].filter (·.exhausts id) = [] := by simpa using h
    change (s.report.warnings.push n).toList.filter _ = _
    rw [Array.toList_push, List.filter_append, hnone, List.append_nil]

theorem exhausts_eq_false {n : Notice} (h : n.isExhausted = false) : n.exhausts id = false := by
  unfold Notice.exhausts
  rw [h]
  rfl

theorem record_same {change : Report → Report} (h : ∀ r, (change r).warnings = r.warnings) (s : RunState) :
    s.SameFor id ((record change).exec s).2 := .of_sameRecords (.of_eq rfl rfl) (h s.report)

theorem record_maintains (hI : RunState.IsOfRecords id I) {change : Report → Report}
    (h : ∀ r, (change r).warnings = r.warnings) : Maintains I (record change) := .of_same hI (record_same h)

/-- Whatever the records of a relationship do not matter to maintains a condition on them. -/
theorem maintains_composable (hI : RunState.IsOfRecords id I) : Composable fun _ m => Maintains I m where
  pure := .pure
  throw := .throw
  bind := .bind
  look _ hf := .get_bind hf
  retry := record_maintains hI fun _ => rfl
  relationship _ := record_maintains hI fun _ => rfl
  value _ := record_maintains hI fun _ => rfl
  modifyGet hreport hsame _ := .of_same hI fun s =>
    .of_sameRecords (hsame s) (congrArg Report.warnings (report_of_same hreport s))
  followAll hevents := .of_same hI (followAll_same _ fun e he =>
    Bool.eq_false_iff.2 fun hconcerns =>
      Bool.eq_false_iff.1 (hevents e he) (TraceEvent.isOfRecords_of_concerns hconcerns))
  warn h := .of_same hI (warn_same (exhausts_eq_false h))

theorem maintains_selective (hI : RunState.IsOfRecords id I) : Selective AnyPick fun _ m => Maintains I m where
  toComposable := maintains_composable hI
  pick _ _ := .of_same hI fun _ => .of_sameRecords (.of_eq rfl rfl) rfl

end Run

/-! ## Picks of another relationship -/

namespace RelationState

variable {s : RelationState} {id other : String} {i : Nat}

theorem recordsUsed_forgetRecords : (s.forgetRecords id).recordsUsed id = [] := Std.HashMap.getD_insert_self

theorem recordsUsed_forgetRecords_of_ne (h : other ≠ id) :
    (s.forgetRecords other).recordsUsed id = s.recordsUsed id := by
  unfold recordsUsed forgetRecords
  rw [Std.HashMap.getD_insert, if_neg (by simpa using h)]

theorem recordsUsed_useRecord (hnew : i ∉ s.recordsUsed id) :
    (s.useRecord id i).recordsUsed id = i :: s.recordsUsed id := by
  unfold useRecord
  rw [if_neg (by simpa using hnew)]
  exact Std.HashMap.getD_insert_self

theorem recordsUsed_useRecord_of_ne (h : other ≠ id) : (s.useRecord other i).recordsUsed id = s.recordsUsed id := by
  unfold useRecord
  dsimp only
  split
  · rfl
  · unfold recordsUsed
    rw [Std.HashMap.getD_insert, if_neg (by simpa using h)]

theorem persona?_useRecord (s : RelationState) (other : String) (i : Nat) (id : String) (n : Nat) :
    (s.useRecord other i).persona? id n = s.persona? id n := by
  unfold useRecord
  dsimp only
  split
  · rfl
  · rfl

end RelationState

/-- What a relationship does with records maintains what is said of another one. -/
theorem handlesRecords_of_ne {id : String} {I : RunState → Prop} (hI : RunState.IsOfRecords id I) {r : Relationship}
    (hne : r.id ≠ id) : r.HandlesRecords fun _ m => Maintains I m where
  forget := .of_same hI fun _ => ⟨RelationState.recordsUsed_forgetRecords_of_ne hne, fun _ => rfl, rfl, rfl⟩
  exhausted count := .of_same hI (warn_same (by simp [Notice.exhausts, Relationship.exhaustedNotice, hne]))
  use index := .of_same hI fun s => ⟨RelationState.recordsUsed_useRecord_of_ne hne,
    s.relations.persona?_useRecord r.id index id, rfl, rfl⟩
  picked ordinal index := .of_same hI fun s =>
    followAll_same [.picked r.id ordinal index] (by simpa [TraceEvent.concerns] using hne) s
  remember ordinal index := .of_same hI fun s =>
    ⟨rfl, fun n => RelationState.persona?_setPersona.trans (if_neg fun heq => hne (congrArg Prod.fst heq)), rfl, rfl⟩

/-! ## Picks of the relationship itself -/

namespace RunState.TakesRounds

variable {id : String} {count : Nat} {s : RunState} {i ordinal : Nat}

theorem close (h : s.TakesRounds id count) (hall : count ≤ (Rounds.ofTrace id s.trace).current.length) {n : Notice}
    (hn : n.exhausts id = true) : TakesRounds id count
      { s with
        relations := s.relations.forgetRecords id
        trace := s.trace.push (.warned n)
        report := s.report.warn n } := by
  have hrounds : Rounds.ofTrace id (s.trace.push (.warned n)) = (Rounds.ofTrace id s.trace).close := by
    rw [Rounds.ofTrace_push]
    exact if_pos hn
  have hnotices : (s.report.warn n).warnings.toList.filter (·.exhausts id) =
      s.report.warnings.toList.filter (·.exhausts id) ++ [n] := by
    change (s.report.warnings.push n).toList.filter _ = _
    rw [Array.toList_push, List.filter_append, List.filter_cons_of_pos hn, List.filter_nil]
  constructor
  case fair => rw [hrounds]; exact h.fair.close hall
  case told =>
    rw [hrounds, hnotices, List.length_append, h.told]
    rfl
  case used => rw [hrounds]; exact RelationState.recordsUsed_forgetRecords
  case remembered =>
    intro m j hpersona
    rw [Array.toList_push]
    exact List.mem_append_left _ (h.remembered m j hpersona)

theorem pick (h : s.TakesRounds id count) (hi : i < count) (hnew : i ∉ s.relations.recordsUsed id) (ordinal : Nat) :
    TakesRounds id count
      { s with relations := s.relations.useRecord id i, trace := s.trace.push (.picked id ordinal i) } := by
  have hrounds : Rounds.ofTrace id (s.trace.push (.picked id ordinal i)) = (Rounds.ofTrace id s.trace).pick i := by
    rw [Rounds.ofTrace_push]
    exact if_pos (beq_self_eq_true id)
  constructor
  case fair => rw [hrounds]; exact h.fair.pick hi (h.used ▸ hnew)
  case told => rw [hrounds]; exact h.told
  case used =>
    rw [hrounds]
    exact (RelationState.recordsUsed_useRecord hnew).trans (congrArg (i :: ·) h.used)
  case remembered =>
    intro m j hpersona
    rw [RelationState.persona?_useRecord] at hpersona
    rw [Array.toList_push]
    exact List.mem_append_left _ (h.remembered m j hpersona)

/-- Once it is picked, a record can be remembered for the instance. -/
theorem remember (h : s.TakesRounds id count) {picked : Option Nat}
    (hpicked : ∀ i, picked = some i → .picked id ordinal i ∈ s.trace.toList) :
    TakesRounds id count { s with relations := s.relations.setPersona id ordinal picked } where
  fair := h.fair
  told := h.told
  used := h.used
  remembered := by
    intro m j hpersona
    rw [RelationState.persona?_setPersona] at hpersona
    split at hpersona
    · rename_i heq
      obtain ⟨-, rfl⟩ := Prod.mk.inj heq
      exact hpicked j (Option.some.inj hpersona)
    · exact h.remembered m j hpersona

end RunState.TakesRounds

namespace Relation

variable {setup : Setup} {resolve : String → Run (Option String)} {r : Relationship} {records : List Json}
  {field : String} {ordinal : Nat} {s t : RunState}

/-- The candidates are records that are not taken in the round; a round that has all records is over before. -/
theorem personaCandidates_next (hunique : r.ensureUnique = true) (h : s.TakesRounds r.id records.length)
    {candidates : List Nat} (hrun : (personaCandidates r records).exec s = (.ok candidates, t)) :
    t.TakesRounds r.id records.length ∧
      Rounds.ofTrace r.id t.trace = (Rounds.ofTrace r.id s.trace).next records.length ∧
      ∀ i ∈ candidates, i < records.length ∧ i ∉ t.relations.recordsUsed r.id := by
  have hunused : ∀ u : RunState, (get >>= fun v => pure ((List.range records.length).filter fun i =>
      !(v.relations.recordsUsed r.id).contains i) : Run _).exec u = (.ok candidates, t) →
        u = t ∧ ∀ i ∈ candidates, i < records.length ∧ i ∉ t.relations.recordsUsed r.id := by
    intro u hrun
    rw [exec_get_bind] at hrun
    obtain ⟨rfl, rfl⟩ := exec_pure_eq_ok.1 hrun
    refine ⟨rfl, fun i hi => ?_⟩
    obtain ⟨hrange, hnew⟩ := List.mem_filter.1 hi
    exact ⟨List.mem_range.1 hrange, by simpa using hnew⟩
  unfold personaCandidates at hrun
  dsimp only at hrun
  rw [hunique, if_neg (by simp), exec_get_bind, h.used] at hrun
  unfold Rounds.next
  split at hrun
  · rename_i hall
    have hexhausts : (r.exhaustedNotice records.length).exhausts r.id = true := by
      simp [Notice.exhausts, Relationship.exhaustedNotice, Notice.isExhausted]
    obtain ⟨rfl, hcandidates⟩ := hunused _ hrun
    refine ⟨h.close hall hexhausts, ?_, hcandidates⟩
    rw [if_pos hall]
    exact (Rounds.ofTrace_push _ _).trans (if_pos hexhausts)
  · rename_i hmore
    obtain ⟨rfl, hcandidates⟩ := hunused _ hrun
    exact ⟨h, (if_neg hmore).symm, hcandidates⟩

/-- Trying records takes none of them. -/
theorem tryRecords_same (id : String) (r : Relationship) (records : List Json) (candidates : List Nat)
    (foreign : Bindings) (tries : Nat) (s : RunState) :
    s.SameFor id ((tryRecords r records candidates foreign tries).exec s).2 := by
  have hsame : RunState.IsOfRecords id (s.SameFor id) := RunState.SameFor.isOfRecords s
  exact (maintains_selective hsame).tryPersonas trivial records candidates foreign tries s (.refl s)

/-- A pick goes on with the round, or it begins the next one. -/
theorem pickPersona_next (hunique : r.ensureUnique = true) (h : s.TakesRounds r.id records.length)
    {picked : Option Nat} (hrun : (pickPersona setup r records ordinal).exec s = (.ok picked, t)) :
    t.TakesRounds r.id records.length ∧ ∀ i, picked = some i → .picked r.id ordinal i ∈ t.trace.toList ∧
      Rounds.ofTrace r.id t.trace = ((Rounds.ofTrace r.id s.trace).next records.length).pick i := by
  unfold pickPersona at hrun
  split at hrun
  · obtain ⟨⟨⟩, u, hwarn, hrun⟩ := exec_bind_eq_ok.1 hrun
    obtain ⟨rfl, rfl⟩ := exec_pure_eq_ok.1 hrun
    have hsame : s.SameFor r.id ((warn r.emptyNotice).exec s).2 := warn_same rfl s
    rw [hwarn] at hsame
    exact ⟨RunState.isOfRecords_takesRounds s u hsame h, fun _ hnone => nomatch hnone⟩
  · obtain ⟨candidates, u, hcandidates, hrun⟩ := exec_bind_eq_ok.1 hrun
    obtain ⟨hu, hrounds, hnew⟩ := personaCandidates_next hunique h hcandidates
    unfold bindings at hrun
    rw [bind_assoc, exec_get_bind, pure_bind] at hrun
    obtain ⟨chosen, v, htry, hrun⟩ := exec_bind_eq_ok.1 hrun
    have hsame : u.SameFor r.id v := by
      have htried := tryRecords_same r.id r records candidates (u.relations.bindings r ordinal)
        (r.attempts setup.options) u
      rwa [htry] at htried
    have hv : v.TakesRounds r.id records.length := RunState.isOfRecords_takesRounds u v hsame hu
    cases chosen with
    | none =>
        obtain ⟨rfl, rfl⟩ := exec_pure_eq_ok.1 hrun
        exact ⟨hv, fun _ hnone => nomatch hnone⟩
    | some index =>
        obtain ⟨hi, hfresh⟩ := hnew index (tryRecords_eq_ok htry).1
        have hend : ((.ok (some index) : Except RunError (Option Nat)), { v with
            relations := v.relations.useRecord r.id index
            trace := v.trace.push (.picked r.id ordinal index) }) = (.ok picked, t) := hrun
        cases hend
        refine ⟨hv.pick hi (hsame.used ▸ hfresh) ordinal, fun i heq => ?_⟩
        cases heq
        constructor
        · rw [Array.toList_push]
          exact List.mem_append_right _ (List.mem_singleton_self _)
        · rw [Rounds.ofTrace_push, hsame.rounds_eq, hrounds]
          exact if_pos (beq_self_eq_true r.id)

/-- As long as there are records, a pick takes one. -/
theorem exists_pick (hunique : r.ensureUnique = true) (hrecords : records ≠ [])
    (h : s.TakesRounds r.id records.length) (setup : Setup) (ordinal : Nat) :
    ∃ i t, (pickPersona setup r records ordinal).exec s = (.ok (some i), t) ∧
      t.TakesRounds r.id records.length ∧
      Rounds.ofTrace r.id t.trace = ((Rounds.ofTrace r.id s.trace).next records.length).pick i := by
  have hsteps : TakesTentativeSteps (fun _ => False) (pickPersona setup r records ordinal) :=
    pickPersona_takesTentativeSteps r records ordinal
  obtain ⟨picked, t, hpick⟩ := hsteps.returns s
  obtain ⟨i, rfl⟩ := Option.isSome_iff_exists.1 (pickPersona_isSome hrecords hpick)
  obtain ⟨ht, htaken⟩ := pickPersona_next hunique h hpick
  exact ⟨i, t, hpick, ht, (htaken i rfl).2⟩

/-- Whichever record an instance has, it was taken in a round. -/
theorem personaOf_maintainsRounds (hunique : r.ensureUnique = true)
    (hresolve : ∀ other, Maintains (RunState.TakesRounds r.id records.length) (resolve other)) (field : String)
    (ordinal : Nat) :
    Maintains (RunState.TakesRounds r.id records.length) (personaOf setup resolve r records field ordinal) := by
  have h : Composable fun _ m => Maintains (RunState.TakesRounds r.id records.length) m :=
    maintains_composable RunState.isOfRecords_takesRounds
  refine .get_bind fun s => ?_
  split
  · exact .pure _
  · refine .bind (h.settleForeign hresolve _ _ _) fun _ s hs => ?_
    have hsteps : TakesTentativeSteps (fun _ => False) (pickPersona setup r records ordinal) :=
      pickPersona_takesTentativeSteps r records ordinal
    obtain ⟨picked, t, hpick⟩ := hsteps.returns s
    obtain ⟨ht, htaken⟩ := pickPersona_next hunique hs hpick
    rw [exec_bind_of_ok hpick]
    exact ht.remember fun i heq => (htaken i heq).1

end Relation
end Specimen
