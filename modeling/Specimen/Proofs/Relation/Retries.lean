import Specimen.Proofs.Leaf.Limits
import Specimen.Proofs.Relation.Instances
import Specimen.Proofs.Relation.Judgement

/-!
# How often relationships try again

Fields that are drawn together are drawn again while a constraint is violated, and a persona picks another record
while the one it has violates a constraint.  How often that happens in a call is counted beside it: the call is the
one that draws, or picks, again exactly so many times and then keeps what it has.

A relationship is tried at least once more even if its limit is zero, so fields are drawn again once although they
should not be; with any other limit the rounds stay within it.  Whether constraints are enforced makes no difference
to any of this.
-/

namespace Specimen

open Run

theorem Run.exec_bind_congr {α β : Type} {m m' : Run α} {f f' : α → Run β} {s : RunState} (hfirst : m.exec s = m'.exec s)
    (hrest : ∀ a t, m.exec s = (.ok a, t) → (f a).exec t = (f' a).exec t) :
    (m >>= f).exec s = (m' >>= f').exec s := by
  rw [exec_bind, exec_bind, ← hfirst]
  rcases hrun : m.exec s with ⟨e | a, t⟩
  · rfl
  · exact hrest a t hrun

/-- How often a relationship says that it may be tried, or else the options. -/
def Relationship.tryLimit (r : Relationship) (options : Options) : Nat :=
  (r.maxAttempts.getD options.relationshipAttempts).toNat

theorem Relationship.attempts_eq_max (r : Relationship) (options : Options) :
    r.attempts options = max (r.tryLimit options) 1 := rfl

/-- A setup in which constraints are enforced or not. -/
def Setup.enforcing (setup : Setup) (enforce : Bool) : Setup :=
  { setup with
    plan := { setup.plan with overrides := { setup.plan.overrides with enforceConstraints := enforce } } }

theorem Setup.relatesAlike_enforcing (setup : Setup) (enforce : Bool) :
    setup.RelatesAlike (setup.enforcing enforce) := ⟨rfl, rfl, rfl, rfl⟩

namespace Relation

/-! ## Rounds -/

/-- Draws fields again so many times and counts each time as a retry. -/
def drawAgain (sources : FieldSources) (again : List String) : (rounds : Nat) → Bindings → Run Bindings
  | 0, b => return b
  | rounds + 1, b => do
    Run.record .countRetry
    drawAgain sources again rounds (← drawFields sources again b)

/-- How many rounds of drawing again are begun, from values that were drawn up to a state. -/
def redraws (sources : FieldSources) (r : Relationship) (again : List String) :
    (tries : Nat) → Bindings → RunState → Nat
  | 0, _, _ => 0
  | tries + 1, b, s =>
    if again.isEmpty || (Constraint.violated r.constraints b).isEmpty then 0
    else
      match (drawFields sources again b).exec { s with report := s.report.countRetry } with
      | (.ok next, t) => redraws sources r again tries next t + 1
      | (.error _, _) => 1

section Rounds

variable {sources : FieldSources} {r : Relationship} {again : List String} {tries : Nat} {bound : Bindings}
  {s : RunState}

theorem redraw_exec : (redraw sources r again tries bound).exec s =
    (drawAgain sources again (redraws sources r again tries bound s) bound).exec s := by
  induction tries generalizing bound s with
  | zero => rfl
  | succ tries ih =>
      unfold redraw redraws
      split
      · rfl
      · rcases hdraw : (drawFields sources again bound).exec { s with report := s.report.countRetry } with
          ⟨e | next, t⟩
        · simp only [drawAgain, exec_record_bind, exec_bind_of_error hdraw]
        · simp only [drawAgain, exec_record_bind, exec_bind_of_ok hdraw]
          exact ih

theorem redraws_le : redraws sources r again tries bound s ≤ tries := by
  induction tries generalizing bound s with
  | zero => exact Nat.le_refl 0
  | succ tries ih =>
      unfold redraws
      split
      · exact Nat.zero_le _
      · split
        · exact Nat.succ_le_succ ih
        · exact Nat.succ_le_succ (Nat.zero_le tries)

theorem redraws_eq_zero_iff (htries : 0 < tries) : redraws sources r again tries bound s = 0 ↔
    ¬ (again ≠ [] ∧ ∃ c ∈ r.constraints, c.check bound = .violated) := by
  have hstops : (again.isEmpty || (Constraint.violated r.constraints bound).isEmpty) = true ↔
      ¬ (again ≠ [] ∧ ∃ c ∈ r.constraints, c.check bound = .violated) := by
    rw [Bool.or_eq_true, List.isEmpty_iff, Constraint.isEmpty_violated, Constraint.allBoundHold_iff]
    push Not
    exact Classical.or_iff_not_imp_left
  rw [← hstops]
  obtain ⟨tries, rfl⟩ := Nat.exists_eq_succ_of_ne_zero (Nat.ne_of_gt htries)
  unfold redraws
  split
  · rename_i hstop
    exact iff_of_true rfl hstop
  · rename_i hgoes
    refine iff_of_false ?_ hgoes
    split
    · exact Nat.succ_ne_zero _
    · exact Nat.one_ne_zero

end Rounds

/-! ## Fields that are drawn together -/

/-- The fields of a relationship that may be drawn again. -/
def freeFields (r : Relationship) (pending : List String) : List String :=
  pending.filter fun f => !r.dependsOn.contains f

/-- The call for a field that is drawn together with others; `redrawing` goes on from the first draw. -/
def drawTogether (setup : Setup) (sources : FieldSources) (resolve : String → Run (Option String)) (r : Relationship)
    (field : String) (ordinal : Nat) (redrawing : List String → Bindings → Run Bindings) : Run (Option String) := do
  settleForeign setup resolve r field r.fields
  let pending := pendingFields setup (← get).relations r ordinal
  let first ← drawFields sources pending (← bindings r ordinal)
  let last ← redrawing (freeFields r pending) first
  if !(Constraint.violated r.constraints last).isEmpty then
    Run.warn (r.violationNotice last none)
  Run.relate fun s => pending.foldl
    (fun s f =>
      match last.get? f with
      | some v => s.settle f ordinal v
      | none => s) s
  return (← get).relations.value? field ordinal

/-- From a state, a call comes to the first draw of the pending fields; it begins and ends in two others. -/
structure DrawsFirst (setup : Setup) (sources : FieldSources) (resolve : String → Run (Option String))
    (r : Relationship) (field : String) (ordinal : Nat) (s t u : RunState) (first : Bindings) : Prop where
  foreign : (settleForeign setup resolve r field r.fields).exec s = (.ok (), t)
  drawn : (drawFields sources (pendingFields setup t.relations r ordinal) (t.relations.bindings r ordinal)).exec t =
    (.ok first, u)

/-- How many rounds of drawing again a call begins. -/
def timesRedrawn (setup : Setup) (sources : FieldSources) (resolve : String → Run (Option String)) (r : Relationship)
    (field : String) (ordinal : Nat) (s : RunState) : Nat :=
  match (settleForeign setup resolve r field r.fields).exec s with
  | (.ok (), t) =>
    let pending := pendingFields setup t.relations r ordinal
    match (drawFields sources pending (t.relations.bindings r ordinal)).exec t with
    | (.ok first, u) => redraws sources r (freeFields r pending) (r.attempts setup.options) first u
    | (.error _, _) => 0
  | (.error _, _) => 0

/-- In a call the first draw violates a constraint, and some of what was drawn may be drawn again. -/
def FirstDrawFails (setup : Setup) (sources : FieldSources) (resolve : String → Run (Option String)) (r : Relationship)
    (field : String) (ordinal : Nat) (s : RunState) : Prop :=
  ∃ t u first, DrawsFirst setup sources resolve r field ordinal s t u first ∧
    (∃ f ∈ pendingFields setup t.relations r ordinal, f ∉ r.dependsOn) ∧
    ∃ c ∈ r.constraints, c.check first = .violated

section Calls

variable {setup : Setup} {sources : FieldSources} {resolve : String → Run (Option String)} {r : Relationship}
  {field : String} {ordinal : Nat} {s : RunState}

theorem freeFields_ne_nil {pending : List String} :
    freeFields r pending ≠ [] ↔ ∃ f ∈ pending, f ∉ r.dependsOn := by
  unfold freeFields
  simp [List.filter_eq_nil_iff]

theorem timesRedrawn_of_drawsFirst {t u : RunState} {first : Bindings}
    (h : DrawsFirst setup sources resolve r field ordinal s t u first) :
    timesRedrawn setup sources resolve r field ordinal s =
      redraws sources r (freeFields r (pendingFields setup t.relations r ordinal)) (r.attempts setup.options) first
        u := by
  unfold timesRedrawn
  rw [h.foreign]
  dsimp only
  rw [h.drawn]

theorem timesRedrawn_eq_zero_of_not
    (h : ∀ t u first, ¬ DrawsFirst setup sources resolve r field ordinal s t u first) :
    timesRedrawn setup sources resolve r field ordinal s = 0 := by
  unfold timesRedrawn
  split
  · rename_i t hforeign
    dsimp only
    split
    · rename_i first u hdrawn
      exact absurd ⟨hforeign, hdrawn⟩ (h t u first)
    · rfl
  · rfl

theorem constraintValue_eq_drawTogether : constraintValue setup sources resolve r field ordinal =
    drawTogether setup sources resolve r field ordinal fun again =>
      redraw sources r again (r.attempts setup.options) := rfl

/-- A call draws again exactly as often as is counted. -/
theorem constraintValue_exec : (constraintValue setup sources resolve r field ordinal).exec s =
    (drawTogether setup sources resolve r field ordinal fun again =>
      drawAgain sources again (timesRedrawn setup sources resolve r field ordinal s)).exec s := by
  rw [constraintValue_eq_drawTogether]
  refine exec_bind_congr rfl fun _ t hforeign => ?_
  rw [exec_get_bind, exec_get_bind, exec_bindings_bind, exec_bindings_bind]
  refine exec_bind_congr rfl fun first u hdrawn => exec_bind_congr ?_ fun _ _ _ => rfl
  rw [timesRedrawn_of_drawsFirst ⟨hforeign, hdrawn⟩]
  exact redraw_exec

theorem timesRedrawn_le : timesRedrawn setup sources resolve r field ordinal s ≤ r.attempts setup.options := by
  by_cases hdraws : ∃ t u first, DrawsFirst setup sources resolve r field ordinal s t u first
  · obtain ⟨t, u, first, h⟩ := hdraws
    rw [timesRedrawn_of_drawsFirst h]
    exact redraws_le
  · rw [timesRedrawn_eq_zero_of_not fun t u first h => hdraws ⟨t, u, first, h⟩]
    exact Nat.zero_le _

/-- The pending fields are drawn once exactly if there is no reason to draw them again. -/
theorem timesRedrawn_eq_zero_iff : timesRedrawn setup sources resolve r field ordinal s = 0 ↔
    ¬ FirstDrawFails setup sources resolve r field ordinal s := by
  have hattempts : 0 < r.attempts setup.options := Nat.le_max_right _ 1
  constructor
  · rintro hzero ⟨t, u, first, h, hfree, hviolated⟩
    rw [timesRedrawn_of_drawsFirst h, redraws_eq_zero_iff hattempts] at hzero
    exact hzero ⟨freeFields_ne_nil.2 hfree, hviolated⟩
  · intro hholds
    by_cases hdraws : ∃ t u first, DrawsFirst setup sources resolve r field ordinal s t u first
    · obtain ⟨t, u, first, h⟩ := hdraws
      rw [timesRedrawn_of_drawsFirst h, redraws_eq_zero_iff hattempts]
      rintro ⟨hfree, hviolated⟩
      exact hholds ⟨t, u, first, h, freeFields_ne_nil.1 hfree, hviolated⟩
    · exact timesRedrawn_eq_zero_of_not fun t u first h => hdraws ⟨t, u, first, h⟩

end Calls

/-- A field that is drawn alone, in a run that has begun, fails at the first draw if the value violates a
constraint. -/
theorem firstDrawFails_of_single {setup : Setup} {r : Relationship} {field value : String}
    (hfields : r.fields = [field]) (howns : setup.plan.owns r field = true) (hfree : r.dependsOn = [])
    (hviolated : ∃ c ∈ r.constraints, c.check (Dict.empty.insert field value) = .violated)
    (resolve : String → Run (Option String)) (ordinal : Nat) (seed : UInt64) (report : Report) :
    FirstDrawFails setup (fixedSources value []) resolve r field ordinal (.start seed report) := by
  have hopen : ∀ f ∈ r.fields, (RunState.start seed report).relations.value? f ordinal = none :=
    fun _ _ => Std.HashMap.getElem?_empty
  have howned : ∀ f ∈ r.fields, setup.plan.owns r f = true := by
    rw [hfields]
    exact List.forall_mem_singleton.2 howns
  have hpending : pendingFields setup (RunState.start seed report).relations r ordinal = [field] := by
    rw [← hfields]
    refine List.filter_eq_self.2 fun f hf => ?_
    rw [howned f hf, hopen f hf]
    rfl
  refine ⟨.start seed report, .start seed report, Dict.empty.insert field value, ⟨?_, ?_⟩, ?_, hviolated⟩
  · rw [settleForeign_of_owned howned]
    rfl
  · rw [hpending, RelationState.bindings_of_unsettled hopen]
    rfl
  · rw [hpending, hfree]
    exact ⟨field, List.mem_singleton_self _, List.not_mem_nil⟩

/-- The rounds in which a call draws pending fields again are no more than its relationship allows, unless it allows
none: then there is one round if the first draw violates a constraint and some of the fields may be drawn again. -/
theorem redraws_within_limit_iff (setup : Setup) (sources : FieldSources) (resolve : String → Run (Option String))
    (r : Relationship) (field : String) (ordinal : Nat) (s : RunState) :
    (constraintValue setup sources resolve r field ordinal).exec s =
        (drawTogether setup sources resolve r field ordinal fun again =>
          drawAgain sources again (timesRedrawn setup sources resolve r field ordinal s)).exec s ∧
      timesRedrawn setup sources resolve r field ordinal s ≤ max (r.tryLimit setup.options) 1 ∧
      (timesRedrawn setup sources resolve r field ordinal s ≤ r.tryLimit setup.options ↔
        r.tryLimit setup.options ≠ 0 ∨ ¬ FirstDrawFails setup sources resolve r field ordinal s) := by
  have hle : timesRedrawn setup sources resolve r field ordinal s ≤ max (r.tryLimit setup.options) 1 :=
    timesRedrawn_le
  refine ⟨constraintValue_exec, hle, ?_⟩
  rw [← timesRedrawn_eq_zero_iff]
  omega

/-- A configuration that lets passengers through one gate only. -/
def boardingConfig (overrides : Overrides) (maxAttempts : Option UInt32) : Config where
  overrides := overrides
  relationships := Dict.empty.insert "boarding"
    { fields := ["Gate"]
      strategy := "constraint_based"
      constraints := ["Gate == 'B'"]
      maxAttempts := maxAttempts }

/-- The setup of a run for passengers. -/
def boardingSetup (overrides : Overrides) (maxAttempts : Option UInt32) : Setup where
  schema := { version := "1", elements := [] }
  plan := (boardingConfig overrides maxAttempts).draft.2

/-- Whether a relationship of a plan owns a field and nothing else, and a value of it violates a constraint. -/
def violatesAlone (plan : Plan) (field value : String) (r : Relationship) : Bool :=
  r.fields == [field] && plan.owns r field && r.dependsOn.isEmpty &&
    r.constraints.any fun c => c.check (Dict.empty.insert field value) == .violated

theorem firstDrawFails_of_violatesAlone {setup : Setup} {r : Relationship} {field value : String}
    (h : violatesAlone setup.plan field value r = true) (seed : UInt64) (report : Report) :
    FirstDrawFails setup (fixedSources value []) (fun _ => pure none) r field 0 (.start seed report) := by
  unfold violatesAlone at h
  simp only [Bool.and_eq_true, beq_iff_eq, List.isEmpty_iff, List.any_eq_true] at h
  obtain ⟨⟨⟨hfields, howns⟩, hfree⟩, c, hc, hviolated⟩ := h
  exact firstDrawFails_of_single hfields howns hfree ⟨c, hc, hviolated⟩ _ 0 seed report

/-- Although nothing is to be drawn again, and the configuration is accepted with a warning that says so, passengers
who are first given another gate are given a gate again. -/
theorem redrawn_without_tries : (boardingConfig {} (some 0)).compile = .ok (boardingSetup {} (some 0)).plan ∧
    ∃ r ∈ (boardingSetup {} (some 0)).plan.relationships, r.maxAttempts = some 0 ∧
      ¬ timesRedrawn (boardingSetup {} (some 0)) (fixedSources "A" []) (fun _ => pure none) r "Gate" 0 (.start 0 {}) ≤
        r.tryLimit {} := by
  have hfacts : (boardingSetup {} (some 0)).plan.relationships.any (fun r =>
      violatesAlone (boardingSetup {} (some 0)).plan "Gate" "A" r && r.maxAttempts == some 0) = true := by
    decide +kernel
  obtain ⟨r, hr, hfound⟩ := List.any_eq_true.1 hfacts
  rw [Bool.and_eq_true, beq_iff_eq] at hfound
  obtain ⟨halone, hzero⟩ := hfound
  refine ⟨Config.compile_of_sound (by decide +kernel), r, hr, hzero, fun hle => ?_⟩
  have hlimit : r.tryLimit {} = 0 := by
    unfold Relationship.tryLimit
    rw [hzero]
    rfl
  rw [hlimit, Nat.le_zero, timesRedrawn_eq_zero_iff] at hle
  exact hle (firstDrawFails_of_violatesAlone halone 0 {})

/-! ## Personas -/

/-- Picks so many more records than one.  All but the last of them count as retries, and the last one is kept. -/
def pickAgain (r : Relationship) (candidates : List Nat) : (more : Nat) → Run (Option Nat)
  | 0 => Run.pickFrom r.selectionPath r.selection candidates
  | more + 1 => do
    let _ ← Run.pickFrom r.selectionPath r.selection candidates
    Run.record .countRetry
    pickAgain r candidates more

/-- Keeps the record that was picked last, and warns if it violates a constraint. -/
def keepLast (r : Relationship) (records : List Json) (settled : Bindings) : Option Nat → Run (Option Nat)
  | none => return none
  | some index => do
    let bindings := r.bindRecord (records.getD index .null) settled
    if Constraint.allBoundHold r.constraints bindings then return some index
    Run.record .countRetry
    Run.warn (r.violationNotice bindings none)
    return some index

/-- How many more records than one are picked from a state, if so many may be. -/
def repicks (r : Relationship) (records : List Json) (candidates : List Nat) (settled : Bindings) :
    (more : Nat) → RunState → Nat
  | 0, _ => 0
  | more + 1, s =>
    match (Run.pickFrom r.selectionPath r.selection candidates).exec s with
    | (.ok (some index), t) =>
      if Constraint.allBoundHold r.constraints (r.bindRecord (records.getD index .null) settled) then 0
      else repicks r records candidates settled more { t with report := t.report.countRetry } + 1
    | _ => 0

/-- The pick of a persona; `picking` takes a record from the candidates, judged beside what is settled. -/
def pickPersonaBy (r : Relationship) (records : List Json) (ordinal : Nat)
    (picking : List Nat → Bindings → Run (Option Nat)) : Run (Option Nat) := do
  if records.isEmpty then
    Run.warn r.emptyNotice
    return none
  let candidates ← personaCandidates r records
  let settled ← bindings r ordinal
  let chosen ← picking candidates settled
  match chosen with
  | some index =>
    if r.ensureUnique then Run.relate fun s => s.useRecord r.id index
    Run.follow (.picked r.id ordinal index)
  | none => pure ()
  return chosen

/-- How many more records than one a persona picks. -/
def timesRepicked (setup : Setup) (r : Relationship) (records : List Json) (ordinal : Nat) (s : RunState) : Nat :=
  if records.isEmpty then 0
  else
    match (personaCandidates r records).exec s with
    | (.ok candidates, t) =>
      repicks r records candidates (t.relations.bindings r ordinal) (r.attempts setup.options - 1) t
    | (.error _, _) => 0

/-- A persona has records, and the one that it picks first violates a constraint. -/
def FirstRecordFails (r : Relationship) (records : List Json) (ordinal : Nat) (s : RunState) : Prop :=
  records ≠ [] ∧ ∃ candidates t index u, (personaCandidates r records).exec s = (.ok candidates, t) ∧
    (Run.pickFrom r.selectionPath r.selection candidates).exec t = (.ok (some index), u) ∧
    ∃ c ∈ r.constraints,
      c.check (r.bindRecord (records.getD index .null) (t.relations.bindings r ordinal)) = .violated

section Picks

variable {setup : Setup} {r : Relationship} {records : List Json} {candidates : List Nat} {settled : Bindings}
  {ordinal more : Nat} {s : RunState}

theorem not_allBoundHold_iff {cs : List Constraint} {b : Bindings} :
    ¬ Constraint.allBoundHold cs b = true ↔ ∃ c ∈ cs, c.check b = .violated := by
  rw [Constraint.allBoundHold_iff]
  push Not
  rfl

theorem exec_pickAgain_zero_bind {f : Option Nat → Run (Option Nat)} {picked : Option Nat} {t : RunState}
    (hpick : (Run.pickFrom r.selectionPath r.selection candidates).exec s = (.ok picked, t)) :
    (pickAgain r candidates 0 >>= f).exec s = (f picked).exec t := exec_bind_of_ok hpick

theorem exec_pickAgain_succ_bind {f : Option Nat → Run (Option Nat)} {picked : Option Nat} {t : RunState}
    (hpick : (Run.pickFrom r.selectionPath r.selection candidates).exec s = (.ok picked, t)) :
    (pickAgain r candidates (more + 1) >>= f).exec s =
      (pickAgain r candidates more >>= f).exec { t with report := t.report.countRetry } := by
  have hfirst : (pickAgain r candidates (more + 1)).exec s =
      (pickAgain r candidates more).exec { t with report := t.report.countRetry } := exec_bind_of_ok hpick
  rw [exec_bind, exec_bind, hfirst]

/-- A persona tries exactly as many records as are counted, and keeps the last one. -/
theorem tryRecords_exec : (tryRecords r records candidates settled (more + 1)).exec s =
    (pickAgain r candidates (repicks r records candidates settled more s) >>= keepLast r records settled).exec s := by
  induction more generalizing s with
  | zero =>
      refine exec_bind_congr rfl fun picked t _ => ?_
      cases picked with
      | none => rfl
      | some index => rfl
  | succ more ih =>
      rcases hpick : (Run.pickFrom r.selectionPath r.selection candidates).exec s with ⟨e | picked, t⟩
      · unfold tryRecords repicks
        rw [hpick]
        exact (exec_bind_of_error hpick).trans (exec_bind_of_error hpick).symm
      · unfold tryRecords repicks
        rw [exec_bind_of_ok hpick, hpick]
        cases picked with
        | none => exact (exec_pickAgain_zero_bind (f := keepLast r records settled) hpick).symm
        | some index =>
            dsimp only
            by_cases hholds : Constraint.allBoundHold r.constraints
                (r.bindRecord (records.getD index .null) settled) = true
            · rw [if_pos hholds, if_pos hholds, exec_pickAgain_zero_bind hpick]
              unfold keepLast
              dsimp only
              rw [if_pos hholds]
            · rw [if_neg hholds, if_neg hholds, exec_pickAgain_succ_bind hpick, ← ih]
              rfl

theorem repicks_le : repicks r records candidates settled more s ≤ more := by
  induction more generalizing s with
  | zero => exact Nat.le_refl 0
  | succ more ih =>
      unfold repicks
      split
      · split
        · exact Nat.zero_le _
        · exact Nat.succ_le_succ ih
      · exact Nat.zero_le _

theorem repicks_eq_zero_iff : repicks r records candidates settled more s = 0 ↔
    more = 0 ∨ ¬ ∃ index u, (Run.pickFrom r.selectionPath r.selection candidates).exec s = (.ok (some index), u) ∧
      ∃ c ∈ r.constraints, c.check (r.bindRecord (records.getD index .null) settled) = .violated := by
  cases more with
  | zero => exact iff_of_true rfl (.inl rfl)
  | succ more =>
      rw [or_iff_right (Nat.succ_ne_zero more)]
      unfold repicks
      split
      · rename_i index t hpick
        split
        · rename_i hholds
          refine iff_of_true rfl ?_
          rintro ⟨index', u, hpick', hviolated⟩
          rw [hpick] at hpick'
          cases hpick'
          exact not_allBoundHold_iff.2 hviolated hholds
        · rename_i hfails
          refine iff_of_false (Nat.succ_ne_zero _) (not_not_intro ?_)
          exact ⟨index, t, hpick, not_allBoundHold_iff.1 hfails⟩
      · rename_i hnone
        refine iff_of_true rfl ?_
        rintro ⟨index, u, hpick, -⟩
        exact hnone index u hpick

theorem pickPersona_eq_pickPersonaBy : pickPersona setup r records ordinal =
    pickPersonaBy r records ordinal fun candidates settled =>
      tryRecords r records candidates settled (r.attempts setup.options) := rfl

theorem timesRepicked_of_candidates (hne : records ≠ []) {t : RunState}
    (h : (personaCandidates r records).exec s = (.ok candidates, t)) :
    timesRepicked setup r records ordinal s =
      repicks r records candidates (t.relations.bindings r ordinal) (r.attempts setup.options - 1) t := by
  unfold timesRepicked
  rw [if_neg fun hempty => hne (List.isEmpty_iff.1 hempty), h]

/-- A persona picks exactly as many records as are counted. -/
theorem pickPersona_exec : (pickPersona setup r records ordinal).exec s =
    (pickPersonaBy r records ordinal fun candidates settled =>
      pickAgain r candidates (timesRepicked setup r records ordinal s) >>= keepLast r records settled).exec s := by
  rw [pickPersona_eq_pickPersonaBy]
  unfold pickPersonaBy
  split
  · rfl
  · rename_i hnonempty
    have hne : records ≠ [] := fun hnil => hnonempty (List.isEmpty_iff.2 hnil)
    obtain ⟨more, hmore⟩ : ∃ more, r.attempts setup.options = more + 1 :=
      Nat.exists_eq_succ_of_ne_zero (Nat.ne_of_gt (Nat.le_max_right _ 1))
    refine exec_bind_congr rfl fun candidates t hcandidates => ?_
    rw [exec_bindings_bind, exec_bindings_bind]
    refine exec_bind_congr ?_ fun _ _ _ => rfl
    rw [timesRepicked_of_candidates hne hcandidates, hmore]
    exact tryRecords_exec

/-- With a first record a persona picks no more of them than its relationship may be tried. -/
theorem timesRepicked_le : timesRepicked setup r records ordinal s ≤ r.tryLimit setup.options - 1 := by
  have hlimit : r.attempts setup.options - 1 = r.tryLimit setup.options - 1 := by
    rw [r.attempts_eq_max]
    omega
  unfold timesRepicked
  split
  · exact Nat.zero_le _
  · split
    · exact hlimit ▸ repicks_le
    · exact Nat.zero_le _

/-- One record is picked exactly if another one must not be, or there is no reason to pick another one. -/
theorem timesRepicked_eq_zero_iff : timesRepicked setup r records ordinal s = 0 ↔
    r.tryLimit setup.options ≤ 1 ∨ ¬ FirstRecordFails r records ordinal s := by
  by_cases hne : records = []
  · refine iff_of_true ?_ (.inr fun h => h.1 hne)
    unfold timesRepicked
    rw [if_pos (List.isEmpty_iff.2 hne)]
  · obtain ⟨candidates, t, hcandidates⟩ := (personaCandidates_takesTentativeSteps r records).returns s
    rw [timesRepicked_of_candidates hne hcandidates, repicks_eq_zero_iff, r.attempts_eq_max]
    have hlimit : max (r.tryLimit setup.options) 1 - 1 = 0 ↔ r.tryLimit setup.options ≤ 1 := by omega
    rw [hlimit]
    refine or_congr_right (not_congr ⟨?_, ?_⟩)
    · rintro ⟨index, u, hpick, hviolated⟩
      exact ⟨hne, candidates, t, index, u, hcandidates, hpick, hviolated⟩
    · rintro ⟨-, candidates', t', index, u, hcandidates', hpick, hviolated⟩
      rw [hcandidates] at hcandidates'
      cases hcandidates'
      exact ⟨index, u, hpick, hviolated⟩

end Picks

/-- Whether constraints are enforced makes no difference to how often is tried.  The pending fields are drawn once
exactly if the first draw violates no constraint or none of them may be drawn again, and one record is picked exactly if
the first one violates no constraint or another one must not be picked.  In any case the report is told of what is kept
in the end, if that violates a constraint. -/
theorem tried_once_iff (setup : Setup) (sources : FieldSources) (resolve : String → Run (Option String))
    (r : Relationship) (field : String) (records : List Json) (ordinal : Nat) (s : RunState) :
    (∀ enforce,
      constraintValue (setup.enforcing enforce) sources resolve r field ordinal =
          constraintValue setup sources resolve r field ordinal ∧
        pickPersona (setup.enforcing enforce) r records ordinal = pickPersona setup r records ordinal) ∧
      ((constraintValue setup sources resolve r field ordinal).exec s =
          (drawTogether setup sources resolve r field ordinal fun again =>
            drawAgain sources again (timesRedrawn setup sources resolve r field ordinal s)).exec s ∧
        (timesRedrawn setup sources resolve r field ordinal s = 0 ↔
          ¬ FirstDrawFails setup sources resolve r field ordinal s) ∧
        ∀ value s', (constraintValue setup sources resolve r field ordinal).exec s = (.ok value, s') →
          ∃ t u w first last, DrawsTogether setup sources resolve r field ordinal s t u w s' first last) ∧
      (pickPersona setup r records ordinal).exec s =
          (pickPersonaBy r records ordinal fun candidates settled =>
            pickAgain r candidates (timesRepicked setup r records ordinal s) >>=
              keepLast r records settled).exec s ∧
        (timesRepicked setup r records ordinal s = 0 ↔
          r.tryLimit setup.options ≤ 1 ∨ ¬ FirstRecordFails r records ordinal s) ∧
        ∀ index s', (pickPersona setup r records ordinal).exec s = (.ok (some index), s') →
          ∃ record notices, records[index]? = some record ∧ s.Reports notices s' ∧
            (r.Flagged notices ↔
              ∃ k ∈ r.constraints, k.check (r.bindRecord record (s.relations.bindings r ordinal)) = .violated) := by
  have hsame := setup.relatesAlike_enforcing
  refine ⟨fun enforce => ⟨constraintValue_congr (hsame enforce) r field ordinal,
      pickPersona_congr (hsame enforce) r records ordinal⟩,
    ⟨constraintValue_exec, timesRedrawn_eq_zero_iff, fun value s' hcall => ?_⟩,
    pickPersona_exec, timesRepicked_eq_zero_iff, fun index s' hpick => pickPersona_eq_ok hpick⟩
  exact (constraintValue_stages hcall).1

/-- Passengers who are first given another gate are given a gate again although constraints are not enforced. -/
theorem redrawn_unenforced : (boardingConfig { enforceConstraints := false } none).compile =
      .ok (boardingSetup { enforceConstraints := false } none).plan ∧
    (boardingSetup { enforceConstraints := false } none).plan.overrides.enforceConstraints = false ∧
    ∃ r ∈ (boardingSetup { enforceConstraints := false } none).plan.relationships,
      timesRedrawn (boardingSetup { enforceConstraints := false } none) (fixedSources "A" []) (fun _ => pure none) r
        "Gate" 0 (.start 0 {}) ≠ 0 := by
  have hfacts : (boardingSetup { enforceConstraints := false } none).plan.relationships.any (fun r =>
      violatesAlone (boardingSetup { enforceConstraints := false } none).plan "Gate" "A" r) = true := by
    decide +kernel
  obtain ⟨r, hr, halone⟩ := List.any_eq_true.1 hfacts
  refine ⟨Config.compile_of_sound (by decide +kernel), rfl, r, hr, fun hzero => ?_⟩
  exact timesRedrawn_eq_zero_iff.1 hzero (firstDrawFails_of_violatesAlone halone 0 {})

end Relation
end Specimen
