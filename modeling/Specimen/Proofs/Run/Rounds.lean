import Specimen.Proofs.Relation.Rounds
import Specimen.Proofs.Run.Judgement
import Specimen.Proofs.Walk.Composition

/-!
# Rounds of records in a run

Of whatever a run does, only taking records for a relationship matters to its rounds.  So a run that begins with
nothing remembered takes the records of each persona in rounds, whichever strategy selects them, whatever constraints
they have to satisfy and however often they are tried.
-/

namespace Specimen

open Run
open Specimen.Relation (exists_pick pickPersona)

section Walk

variable {setup : Setup} {r : Relationship} {records : List Json} {id : String} {I : RunState → Prop}

theorem takesRecords_maintainsRounds (hfound : setup.plan.relationship? r.id = some r)
    (hunique : r.ensureUnique = true) {source : String} (hsource : r.source = some source)
    (hrecords : setup.contexts.records source = .ok records) :
    TakesRecords setup fun _ m => Maintains (RunState.TakesRounds r.id records.length) m := by
  intro resolve field r' source' records' hresolve howner _ hsource' hrecords' ordinal
  by_cases hid : r'.id = r.id
  · obtain rfl : r' = r := by
      have hfound' := Relation.relationship?_of_owner? howner
      rw [hid, hfound] at hfound'
      exact (Option.some.inj hfound').symm
    rw [hsource] at hsource'
    cases hsource'
    rw [hrecords] at hrecords'
    cases hrecords'
    exact Relation.personaOf_maintainsRounds hunique hresolve field ordinal
  · exact (handlesRecords_of_ne RunState.isOfRecords_takesRounds hid).personaOf
      (maintains_selective RunState.isOfRecords_takesRounds) trivial hresolve records' field ordinal

/-- What taking records maintains, the whole walk does, if nothing but the records of a relationship matters to it. -/
theorem carries_maintains (root : Element) (hI : RunState.IsOfRecords id I)
    (hrecords : TakesRecords setup fun _ m => Maintains I m) : Walk.Carries setup root fun _ m => Maintains I m := by
  have hcounted : ∀ {change : Report → Report}, Report.SparesWarnings change → Maintains I (record change) :=
    fun hspares => record_maintains hI hspares.warnings
  have hstopped : ∀ s t : RunState, s.SameRecords t → t.report.warnings = s.report.warnings → I s → I t :=
    fun s t hsame hwarnings => hI s t (.of_sameRecords hsame hwarnings)
  refine .ofMaintains (maintains_composable hI) hcounted (fun s => hstopped s _ (.of_eq rfl rfl) rfl)
    (fun s => hstopped s _ (.of_eq rfl rfl) rfl) fun _ => ?_
  exact (maintains_selective hI).resolve ((maintains_composable hI).generates hcounted) .any hrecords
    fun _ => trivial

end Walk

namespace Generation

theorem exhausts_noticeOf (id : String) (issue : Issue) : (noticeOf issue).exhausts id = false := by
  simp [Notice.exhausts, noticeOf]

/-- Nothing was taken before a run. -/
theorem takesRounds_firstState (setup : Setup) (root : Element) (seed : UInt64) (rng : Random.Rng) (id : String)
    (count : Nat) : (firstState setup root seed rng).TakesRounds id count where
  fair := .empty count
  told := by
    have hnone : (firstState setup root seed rng).report.warnings.toList.filter (·.exhausts id) = [] := by
      refine List.filter_eq_nil_iff.2 fun n hn => ?_
      have hmem : n ∈ setup.plan.warnings.map noticeOf := by
        change n ∈ (firstReport setup root seed).warnings.toList at hn
        simpa [firstReport, Report.foldl_warn] using hn
      obtain ⟨issue, -, rfl⟩ := List.mem_map.1 hmem
      rw [exhausts_noticeOf]
      exact Bool.false_ne_true
    rw [hnone]
    rfl
  used := Std.HashMap.getD_empty
  remembered n i hpersona := by
    have hopen : (firstState setup root seed rng).relations.persona? id n = none := Std.HashMap.getElem?_empty
    rw [hopen] at hpersona
    cases hpersona

/-- However a run ends, a relationship that takes unique records has taken them in rounds: no record is taken twice in
a round, only records of its source are taken, and all of them before it is told that they are used up.  The report
has so many of these warnings, and the record of each instance is one that was taken for it. -/
theorem records_taken_in_rounds (schema : Schema) (config : Config) (options : Options) (setup : Setup)
    (root : Element) (hprepared : prepare schema config options = .ok (setup, root)) (r : Relationship)
    (hr : r ∈ setup.plan.relationships) (hunique : r.ensureUnique = true) (source : String)
    (hsource : r.source = some source) (records : List Json)
    (hrecords : setup.contexts.records source = .ok records) (seed : UInt64) (rng : Random.Rng) :
    ∃ result t, (Walk.buildDocument setup root).exec (firstState setup root seed rng) = (result, t) ∧
      walkFrom setup root (firstState setup root seed rng) = (outcome setup t result, t.trace) ∧
      t.TakesRounds r.id records.length := by
  have hfound := (prepared_of_prepare hprepared).relationship?_of_mem hr
  have hwalk := carries_maintains root RunState.isOfRecords_takesRounds
    (takesRecords_maintainsRounds hfound hunique hsource hrecords)
  exact ⟨_, _, rfl, rfl, hwalk.buildDocument _ (takesRounds_firstState setup root seed rng _ _)⟩

def roster : List Json := [.object [("First", .string "Ana")], .object [("First", .string "Ben")]]

/-- A guest is one of two on a roster, and not the same one again before the other one. -/
def rosterConfig : Config where
  dataContexts := Dict.empty.insert "c" { values := Dict.empty.insert "people" (.array roster) }
  relationships := Dict.empty.insert "person"
    { fields := ["First"]
      strategy := "consistent_persona"
      source := some "c.people"
      ensureUnique := some true }

theorem exists_roster : ∃ setup root r records, prepare guestSchema rosterConfig {} = .ok (setup, root) ∧
    r ∈ setup.plan.relationships ∧ r.ensureUnique = true ∧ r.source = some "c.people" ∧
    setup.contexts.records "c.people" = .ok records ∧ records.length = 2 := by
  have horder : (rosterConfig.relationships.entries.map fun e =>
      rosterConfig.compileRelationship (Config.compileSettings rosterConfig.settings).2 e.1 e.2).filterMap
        (·.2) |>.Pairwise fun a b => Config.precedes a b = true := by decide +kernel
  have hchecked : (prepare guestSchema rosterConfig {}).toOption.any (fun p =>
      (p.1.plan.relationships.any fun r => r.ensureUnique && r.source == some "c.people") &&
        (p.1.contexts.records "c.people").toOption.any fun records => records.length == 2) = true := by
    unfold prepare planFor Config.compile Config.draft
    rw [show override rosterConfig {} = rosterConfig from rfl]
    dsimp only
    rw [Config.mergeSort_of_inOrder horder]
    decide +kernel
  obtain ⟨⟨setup, root⟩, hsome, hcheck⟩ := (Option.any_eq_true _ _).1 hchecked
  simp only [Bool.and_eq_true, List.any_eq_true, Option.any_eq_true, beq_iff_eq] at hcheck
  obtain ⟨⟨r, hr, hunique, hsource⟩, records, hrecords, hcount⟩ := hcheck
  exact ⟨setup, root, r, records, toOption_eq_some.1 hsome, hr, hunique, hsource,
    toOption_eq_some.1 hrecords, hcount⟩

/-- Of three picks for the roster, the third one comes after the first round. -/
theorem records_taken_in_rounds_roster : ∃ setup root r records result t,
    prepare guestSchema rosterConfig {} = .ok (setup, root) ∧ r ∈ setup.plan.relationships ∧
      (Walk.buildDocument setup root).exec (firstState setup root 0 zeroRng) = (result, t) ∧
      t.TakesRounds r.id 2 ∧ ∃ i j k s₁ s₂ s₃,
        (pickPersona setup r records 0).exec (firstState setup root 0 zeroRng) = (.ok (some i), s₁) ∧
        (pickPersona setup r records 1).exec s₁ = (.ok (some j), s₂) ∧
        (pickPersona setup r records 2).exec s₂ = (.ok (some k), s₃) ∧
        Rounds.ofTrace r.id s₃.trace = { current := [k], past := [[j, i]] } := by
  obtain ⟨setup, root, r, records, hprepared, hr, hunique, hsource, hrecords, hcount⟩ := exists_roster
  obtain ⟨result, t, hrun, -, hrounds⟩ := records_taken_in_rounds guestSchema rosterConfig {} setup root hprepared
    r hr hunique "c.people" hsource records hrecords 0 zeroRng
  have hne : records ≠ [] := List.ne_nil_of_length_eq_add_one hcount
  obtain ⟨i, s₁, hfirst, h₁, hround₁⟩ := exists_pick hunique hne
    (takesRounds_firstState setup root 0 zeroRng r.id records.length) setup 0
  obtain ⟨j, s₂, hsecond, h₂, hround₂⟩ := exists_pick hunique hne h₁ setup 1
  obtain ⟨k, s₃, hthird, -, hround₃⟩ := exists_pick hunique hne h₂ setup 2
  rw [hround₂, hround₁, hcount] at hround₃
  rw [hcount] at hrounds
  exact ⟨setup, root, r, records, result, t, hprepared, hr, hrun, hrounds, i, j, k, s₁, s₂, s₃, hfirst, hsecond,
    hthird, hround₃⟩

end Generation
end Specimen
