import Specimen.Proofs.Run.Documents
import Specimen.Proofs.Walk.Limited

/-!
# Runs with a budget

A run that is not timed and not cut short is compared with runs that differ from it only in their budget.
Below a budget, an unfinished document is a prefix of the whole one; and without unfinished documents a run
fails exactly when the budget is too small, one step beyond it.
-/

open Relation (ReflTransGen)

namespace Specimen
namespace Generation

variable {schema : Schema} {config : Config} {options : Options} {setup : Setup} {root : Element}

/-- The budget is not looked at before the walk. -/
theorem prepare_withBudget (budget : UInt64) (keep : Bool)
    (h : prepare schema config options = .ok (setup, root)) :
    prepare schema config { options with maxSteps := budget, allowPartial := keep } =
      .ok (setup.withBudget budget keep, root) := by
  obtain ⟨⟨⟩, hvalid, h⟩ := Except.bind_eq_ok.1 h
  obtain ⟨plan, hplan, h⟩ := Except.bind_eq_ok.1 h
  obtain ⟨contexts, hcontexts, h⟩ := Except.bind_eq_ok.1 h
  obtain ⟨index, hindex, h⟩ := Except.bind_eq_ok.1 h
  obtain ⟨selected, hroot, h⟩ := Except.bind_eq_ok.1 h
  cases h
  exact Except.bind_eq_ok.2 ⟨(), hvalid, Except.bind_eq_ok.2 ⟨plan, hplan,
    Except.bind_eq_ok.2 ⟨contexts, hcontexts, Except.bind_eq_ok.2 ⟨index, hindex,
      Except.bind_eq_ok.2 ⟨root, hroot, rfl⟩⟩⟩⟩⟩

/-- The state in which a run begins to walk. -/
abbrev beginning (setup : Setup) (root : Element) (freshSeed : UInt64) : RunState :=
  firstState setup root (seedOf setup freshSeed) (Random.Rng.ofSeed (seedOf setup freshSeed))

/-- A run ends as its walk does. -/
theorem run_of_walk {freshSeed : UInt64} {result : Except RunError Node} {t : RunState}
    (h : prepare schema config options = .ok (setup, root))
    (hwalk : (Walk.buildDocument setup root).exec (beginning setup root freshSeed) = (result, t)) :
    run schema config options freshSeed = outcome setup t result := by
  have hrun : run schema config options freshSeed =
      outcome setup ((Walk.buildDocument setup root).exec (beginning setup root freshSeed)).2
        ((Walk.buildDocument setup root).exec (beginning setup root freshSeed)).1 := by
    unfold run
    rw [h]
    rfl
  rw [hrun, hwalk]

/-- A run that gave a document was prepared, and its walk has built the document. -/
theorem run_eq_ok {freshSeed : UInt64} {made : Generated}
    (h : run schema config options freshSeed = .ok made) :
    ∃ setup root t, prepare schema config options = .ok (setup, root) ∧
      (Walk.buildDocument setup root).exec (beginning setup root freshSeed) = (.ok made.document, t) ∧
      made.report = t.report := by
  obtain ⟨⟨setup, root⟩, hprepared, hwalk⟩ := Except.bind_eq_ok.1 h
  have hfrom : walkFrom setup root (beginning setup root freshSeed) = (.ok made, _) :=
    Prod.ext hwalk rfl
  obtain ⟨t, hrun, hreport, -⟩ := walkFrom_eq_ok hfrom
  exact ⟨setup, root, t, hprepared, hrun, hreport⟩

section Budget

variable {freshSeed : UInt64} {full : Generated} {budget : UInt64}

/-- Below a budget, the walk of a run follows the walk of the run that is not cut short. -/
theorem walk_follows (htimeless : options.timeoutMs = none)
    (hfull : run schema config options freshSeed = .ok full)
    (hwhole : full.report.isPartial = false) (hbudget : 0 < budget.toNat) :
    ∃ setup root t, prepare schema config options = .ok (setup, root) ∧ full.report = t.report ∧
      ∀ keep,
        let limited :=
          (Walk.buildDocument (setup.withBudget budget keep) root).exec (beginning setup root freshSeed)
        (t.report.steps ≤ budget.toNat → limited = (.ok full.document, t)) ∧
        (budget.toNat < t.report.steps →
          Run.StopsShort budget.toNat keep (fun n => CutShort n.outline full.document.outline)
            (Walk.buildDocument (setup.withBudget budget keep) root)
            (beginning setup root freshSeed)) := by
  obtain ⟨setup, root, t, hprepared, hrun, hreport⟩ := run_eq_ok hfull
  have h := prepared_of_prepare hprepared
  have hsteps := Walk.buildDocument_takesWalkSteps h.schema_valid h.root_passes
  have hstops := RunState.stopsPartial_of_walkSteps (hsteps.steps_of_exec hrun) nofun
  have hgoing : t.halted = false := by
    rw [hreport] at hwhole
    exact Bool.eq_false_iff.2 fun hhalted => absurd (hstops hhalted) (by simp [hwhole])
  have htimeless' : setup.options.timeoutMs = none := by rw [h.options_eq, htimeless]
  exact ⟨setup, root, t, hprepared, hreport, fun keep =>
    Walk.buildDocument_follows htimeless' root hbudget hrun hgoing⟩

/-- When unfinished documents are kept, a run below a budget gives the whole document if the budget is
not exceeded, and else a part of it that is marked. -/
theorem exists_cut_of_run (htimeless : options.timeoutMs = none)
    (hfull : run schema config options freshSeed = .ok full)
    (hwhole : full.report.isPartial = false) (hbudget : 0 < budget.toNat) :
    ∃ cut, run schema config { options with maxSteps := budget, allowPartial := true } freshSeed =
        .ok cut ∧
      (full.report.steps ≤ budget.toNat →
        cut.document = full.document ∧ cut.report.isPartial = false) ∧
      (budget.toNat < full.report.steps →
        CutShort cut.document.outline full.document.outline ∧ cut.report.isPartial = true) := by
  obtain ⟨setup, root, t, hprepared, hreport, hfollows⟩ := walk_follows htimeless hfull hwhole hbudget
  have hlimited := prepare_withBudget budget true hprepared
  have h := prepared_of_prepare hlimited
  obtain ⟨hsame, hshort⟩ := hfollows true
  rw [hreport]
  by_cases hle : t.report.steps ≤ budget.toNat
  · refine ⟨_, run_of_walk hlimited (hsame hle), ?_, ?_⟩
    · exact fun _ => ⟨rfl, hreport ▸ hwhole⟩
    · exact fun hlt => absurd hle (Nat.not_le.2 hlt)
  · obtain ⟨n, u, hrun, hhalted, hcut⟩ := hshort (Nat.lt_of_not_le hle)
    have hsteps := Walk.buildDocument_takesWalkSteps h.schema_valid h.root_passes
    have hstops := RunState.stopsPartial_of_walkSteps (hsteps.steps_of_exec hrun) nofun
    refine ⟨_, run_of_walk hlimited hrun, ?_, ?_⟩
    · exact fun hle' => absurd hle' hle
    · exact fun _ => ⟨hcut, hstops hhalted⟩

/-- When unfinished documents are not kept, a run below a budget gives the whole document if the budget
is not exceeded, and else fails one step beyond it. -/
theorem run_of_budget (htimeless : options.timeoutMs = none)
    (hfull : run schema config options freshSeed = .ok full)
    (hwhole : full.report.isPartial = false) (hbudget : 0 < budget.toNat) :
    (full.report.steps ≤ budget.toNat →
      ∃ whole, run schema config { options with maxSteps := budget, allowPartial := false } freshSeed =
        .ok whole ∧ whole.document = full.document) ∧
    (budget.toNat < full.report.steps →
      run schema config { options with maxSteps := budget, allowPartial := false } freshSeed =
        .error (.stopped (.timeout (budget.toNat + 1)))) := by
  obtain ⟨setup, root, t, hprepared, hreport, hfollows⟩ := walk_follows htimeless hfull hwhole hbudget
  obtain ⟨hsame, hshort⟩ := hfollows false
  have hlimited := prepare_withBudget budget false hprepared
  rw [hreport]
  constructor
  · intro hle
    exact ⟨_, run_of_walk hlimited (hsame hle), rfl⟩
  · intro hlt
    obtain ⟨u, hrun⟩ := hshort hlt
    exact run_of_walk hlimited hrun

end Budget

/-- A run that is not timed and not cut short, beside the runs that differ from it only in a budget of at
least one step.  If unfinished documents are kept, such a run gives a document whose elements in order are
the first elements of the whole document; they are all of them, and the document is not called unfinished,
exactly when the budget is not exceeded.  If they are not kept, it fails one step beyond the budget exactly
when the budget is exceeded, and gives the same document otherwise. -/
theorem budget_cuts_prefix (schema : Schema) (config : Config) (options : Options) (freshSeed : UInt64)
    (full : Generated) (htimeless : options.timeoutMs = none)
    (hfull : run schema config options freshSeed = .ok full)
    (hwhole : full.report.isPartial = false) (budget : UInt64) (hbudget : 1 ≤ budget.toNat) :
    (∃ cut, run schema config { options with maxSteps := budget, allowPartial := true } freshSeed =
        .ok cut ∧
      cut.document.outline <+: full.document.outline ∧
      (cut.document.outline = full.document.outline ↔ full.report.steps ≤ budget.toNat) ∧
      (cut.report.isPartial = false ↔ full.report.steps ≤ budget.toNat)) ∧
    (run schema config { options with maxSteps := budget, allowPartial := false } freshSeed =
        .error (.stopped (.timeout (budget.toNat + 1))) ↔ budget.toNat < full.report.steps) ∧
    (full.report.steps ≤ budget.toNat →
      ∃ whole, run schema config { options with maxSteps := budget, allowPartial := false } freshSeed =
        .ok whole ∧ whole.document = full.document) := by
  obtain ⟨cut, hcut, hwithin, hbeyond⟩ := exists_cut_of_run htimeless hfull hwhole hbudget
  obtain ⟨hok, herror⟩ := run_of_budget htimeless hfull hwhole hbudget
  refine ⟨⟨cut, hcut, ?_⟩, ⟨?_, herror⟩, hok⟩
  · rcases Nat.lt_or_ge budget.toNat full.report.steps with hlt | hle
    · obtain ⟨hshort, hpartial⟩ := hbeyond hlt
      have hnot := Nat.not_le.2 hlt
      exact ⟨hshort.isPrefix, iff_of_false hshort.ne hnot, iff_of_false (by simp [hpartial]) hnot⟩
    · obtain ⟨hdocument, hpartial⟩ := hwithin hle
      rw [hdocument]
      exact ⟨List.prefix_refl _, iff_of_true rfl hle, iff_of_true hpartial hle⟩
  · intro hfailed
    by_contra hle
    obtain ⟨whole, hwhole, -⟩ := hok (Nat.le_of_not_lt hle)
    rw [hfailed] at hwhole
    cases hwhole

theorem budget_cuts_prefix_order : ∃ full, run orderSchema {} {} 0 = .ok full ∧
    full.report.isPartial = false ∧ 1 ≤ (2 : UInt64).toNat ∧ (2 : UInt64).toNat < full.report.steps ∧
    (∃ cut, run orderSchema {} { maxSteps := 2, allowPartial := true } 0 = .ok cut ∧
      cut.document.outline <+: full.document.outline ∧
      (cut.document.outline = full.document.outline ↔ full.report.steps ≤ (2 : UInt64).toNat) ∧
      (cut.report.isPartial = false ↔ full.report.steps ≤ (2 : UInt64).toNat)) ∧
    (run orderSchema {} { maxSteps := 2, allowPartial := false } 0 =
        .error (.stopped (.timeout ((2 : UInt64).toNat + 1))) ↔
      (2 : UInt64).toNat < full.report.steps) ∧
    (full.report.steps ≤ (2 : UInt64).toNat →
      ∃ whole, run orderSchema {} { maxSteps := 2, allowPartial := false } 0 = .ok whole ∧
        whole.document = full.document) := by
  have hcomputed : (match run orderSchema {} {} 0 with
      | .ok made => decide (2 < made.report.steps) && !made.report.isPartial
      | .error _ => false) = true := by decide +kernel
  split at hcomputed
  · rename_i full hfull
    rw [Bool.and_eq_true, decide_eq_true_eq, Bool.not_eq_true'] at hcomputed
    exact ⟨full, hfull, hcomputed.2, by decide, hcomputed.1,
      budget_cuts_prefix orderSchema {} {} 0 full rfl hfull hcomputed.2 2 (by decide)⟩
  · cases hcomputed

end Generation
end Specimen
