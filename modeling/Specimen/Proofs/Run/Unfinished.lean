import Specimen.Proofs.Run.Recursion
import Specimen.Proofs.Walk.Unfinished

/-!
# Runs that keep an unfinished document

When the steps run out and the unfinished document is kept, the document and the report show where it happened.
Every element on the way down to that place is marked, and of the others only those that stand for a type that
was nested too deeply.  A run whose steps last marks nothing else.
-/

namespace Specimen
namespace Generation

variable {schema : Schema} {config : Config} {options : Options} {setup : Setup} {root : Element}

/-- A run that gave a document has walked from the state in which runs begin. -/
theorem walkFrom_of_run {freshSeed : UInt64} {made : Generated}
    (h : run schema config options freshSeed = .ok made) :
    ∃ setup root trace, prepare schema config options = .ok (setup, root) ∧
      walkFrom setup root (beginning setup root freshSeed) = (.ok made, trace) := by
  obtain ⟨⟨setup, root⟩, hprepared, hwalk⟩ := Except.bind_eq_ok.1 h
  exact ⟨setup, root, _, hprepared, Prod.ext hwalk rfl⟩

/-! ## Reports with an account -/

/-- A report says what the account of its document says, below the budget of the options unless the steps ran
out. -/
structure Shows (options : Options) (a : Account) (r : Report) : Prop where
  isPartial : r.isPartial = a.stop.isSome
  elements : r.elements = a.elements
  steps : r.steps = a.elements + a.stop.toList.length
  truncations : r.truncations.toList = a.cuts ++ a.stop.toList.map (stopNotice · r.steps)
  taken : 0 < a.elements → options.isExceededBy a.elements = false
  stopped : a.stop.isSome → options.isExceededBy (a.elements + 1) = true

theorem shows_of_accounted {seed : UInt64} {rng : Random.Rng} {a : Account} {t : RunState}
    (h : (firstState setup root seed rng).Accounted options a t) : Shows options a t.report := by
  obtain ⟨-, -, hpartial, helements, hsteps, htruncations, htaken, hstopped⟩ := h
  change _ = 0 + a.elements at helements
  change _ = 0 + a.elements + _ at hsteps
  change _ → options.isExceededBy (0 + a.elements) = false at htaken
  change _ → options.isExceededBy (0 + a.elements + 1) = true at hstopped
  rw [Nat.zero_add] at helements hsteps htaken hstopped
  exact ⟨hpartial.trans (Bool.false_or _), helements, hsteps, htruncations, htaken, hstopped⟩

namespace Shows

variable {a : Account} {r : Report}

/-- A run that is not timed begins no more elements than its budget has steps. -/
theorem elements_le (h : Shows options a r) (htimeless : options.timeoutMs = none) :
    a.elements ≤ options.maxSteps.toNat := by
  rcases Nat.eq_zero_or_pos a.elements with hzero | hpos
  · rw [hzero]
    exact Nat.zero_le _
  · have hnot := h.taken hpos
    rw [Options.isExceededBy, htimeless] at hnot
    exact Nat.le_of_not_lt (of_decide_eq_false (by simpa using hnot))

/-- When the steps run out, an element was begun with each of them. -/
theorem elements_of_stop (h : Shows options a r) (htimeless : options.timeoutMs = none)
    (hstop : a.stop.isSome) : a.elements = options.maxSteps.toNat := by
  have hbeyond := h.stopped hstop
  rw [Options.isExceededBy, htimeless] at hbeyond
  have hlt : options.maxSteps.toNat < a.elements + 1 := by simpa using hbeyond
  exact Nat.le_antisymm (h.elements_le htimeless) (Nat.le_of_lt_succ hlt)

theorem stop_of_exceeds (h : Shows options a r) (htimeless : options.timeoutMs = none)
    (hexceeds : options.maxSteps.toNat < r.steps) : ∃ stop, a.stop = some stop := by
  cases hstop : a.stop with
  | some stop => exact ⟨stop, rfl⟩
  | none =>
      rw [h.steps, hstop] at hexceeds
      exact absurd (h.elements_le htimeless) (Nat.not_le.2 hexceeds)

theorem stop_eq_none (h : Shows options a r) (hwithin : options.isExceededBy r.steps = false) :
    a.stop = none := by
  cases hstop : a.stop with
  | none => rfl
  | some stop =>
      have hsteps : r.steps = a.elements + 1 := by rw [h.steps, hstop]; rfl
      rw [hsteps, h.stopped (by rw [hstop]; rfl)] at hwithin
      cases hwithin

theorem timeouts (h : Shows options a r) (hcuts : ∀ n ∈ a.cuts, n.code = "depth_limit") :
    r.truncations.toList.filter (·.code == "timeout") = a.stop.toList.map (stopNotice · r.steps) := by
  have hnone : a.cuts.filter (·.code == "timeout") = [] := by
    refine List.filter_eq_nil_iff.2 fun n hn => ?_
    rw [hcuts n hn]
    decide
  rw [h.truncations, List.filter_append, hnone, List.nil_append]
  cases a.stop with
  | none => rfl
  | some stop => rfl

end Shows

/-- A document is the root with the account of the report, or an empty root when there was no step to take. -/
theorem exists_account (hprepared : prepare schema config options = .ok (setup, root)) {seed : UInt64}
    {rng : Random.Rng} {made : Generated} {trace : Trace}
    (hrun : walkFrom setup root (firstState setup root seed rng) = (.ok made, trace)) :
    ∃ nodes a, Walk.Built setup "" [] (.occurrence root) nodes a ∧ Shows options a made.report ∧
      (nodes = [made.document] ∨ nodes = [] ∧ made.document = Walk.emptyRoot setup root) := by
  have h := prepared_of_prepare hprepared
  obtain ⟨t, hdocument, hreport, -⟩ := walkFrom_eq_ok hrun
  have hleads := Walk.buildDocument_leads h.depth_pos.1 h.schema_valid h.root_passes rfl rfl hdocument
  unfold Walk.Leads at hleads
  rw [h.options_eq] at hleads
  rw [hreport]
  rcases hleads with ⟨a, hbuilt, haccount⟩ | ⟨hempty, a, hbuilt, haccount⟩
  · exact ⟨[made.document], a, hbuilt, shows_of_accounted haccount, .inl rfl⟩
  · exact ⟨[], a, hbuilt, shows_of_accounted haccount, .inr ⟨rfl, hempty⟩⟩

/-! ## Marks -/

/-- What a run shows when its steps may run out.  If it is not timed, takes more steps than its budget has, and
gives a document nevertheless, then the document is called unfinished, the run took one step more than the
budget has and began an element with each of the others, and exactly one notice says that the steps ran out,
at the occurrence for which there was no step.  The elements on the chain from the root to the parent of that
occurrence are marked, and besides them only the empty elements that stand where the guard refuses a type;
without any step the document is an empty root.  If the budget is not exceeded, the document is not called
unfinished, and only the empty elements that stand where the guard refuses a type are marked. -/
theorem unfinished_chain_marked (schema : Schema) (config : Config) (options : Options) (setup : Setup)
    (root : Element) (hprepared : prepare schema config options = .ok (setup, root)) (seed : UInt64)
    (rng : Random.Rng) (made : Generated) (trace : Trace)
    (hrun : walkFrom setup root (firstState setup root seed rng) = (.ok made, trace)) :
    (options.timeoutMs = none → options.maxSteps.toNat < made.report.steps →
      made.report.isPartial = true ∧ made.report.steps = options.maxSteps.toNat + 1 ∧
        made.report.elements = options.maxSteps.toNat ∧
        ∃ stop, made.report.truncations.toList.filter (·.code == "timeout") =
            [stopNotice stop made.report.steps] ∧
          ((0 < options.maxSteps.toNat ∧ Walk.OpenAt setup root.name [] root made.document stop) ∨
            (options.maxSteps.toNat = 0 ∧ stop = root.name ∧
              made.document = Walk.emptyRoot setup root))) ∧
    (options.isExceededBy made.report.steps = false →
      made.report.isPartial = false ∧ Walk.Whole setup [] root made.document) := by
  obtain ⟨nodes, a, hbuilt, hshows, hnodes⟩ := exists_account hprepared hrun
  constructor
  · intro htimeless hexceeds
    obtain ⟨stop, hstop⟩ := hshows.stop_of_exceeds htimeless hexceeds
    have hall : a.elements = options.maxSteps.toNat :=
      hshows.elements_of_stop htimeless (by rw [hstop]; rfl)
    have htimeouts := hshows.timeouts hbuilt.cuts_code
    have hsteps := hshows.steps
    rw [hstop] at htimeouts hsteps
    refine ⟨?_, ?_, hshows.elements.trans hall, stop, htimeouts, ?_⟩
    · rw [hshows.isPartial, hstop]
      rfl
    · rw [hsteps, hall]
      rfl
    · rcases hnodes with rfl | ⟨rfl, hempty⟩
      · obtain ⟨hpos, hends⟩ := hbuilt.ends_root
        rcases hends with ⟨hnone, -⟩ | ⟨stop', hstop', hopen⟩
        · rw [hstop] at hnone
          cases hnone
        · rw [hstop] at hstop'
          cases hstop'
          exact .inl ⟨hall ▸ hpos, hopen⟩
      · cases hbuilt
        cases hstop
        exact .inr ⟨hall.symm, rfl, hempty⟩
  · intro hwithin
    have hstop := hshows.stop_eq_none hwithin
    refine ⟨?_, ?_⟩
    · rw [hshows.isPartial, hstop]
      rfl
    · rcases hnodes with rfl | ⟨rfl, -⟩
      · rcases hbuilt.ends_root.2 with ⟨-, hwhole⟩ | ⟨stop, hstop', -⟩
        · exact hwhole
        · rw [hstop] at hstop'
          cases hstop'
      · cases hbuilt
        cases hstop

/-- A schema in which a required element contains itself and then a leaf. -/
def nestSchema : Schema where
  version := "1"
  elements := [.mk { name := "Nest", typeRef := some "Nest" } none]
  types := [
    { name := "Nest"
      content := some (.mk { kind := .sequence } [
        .element (.mk { name := "Nest", typeRef := some "Nest" } none),
        .element (.mk { name := "Egg", typeRef := some "xs:string", fixed := some "x" } none)]) }]

/-- A configuration that lets two elements of one type be nested. -/
def pairConfig : Config where
  settings := { maxDepth := 2 }

/-- The marks of an element and of its children. -/
def marksOf (n : Node) : Bool × List Bool := (n.head.truncated, n.elements.map (·.head.truncated))

theorem unfinished_chain_marked_nest :
    (∃ setup root made trace,
      prepare nestSchema pairConfig { maxSteps := 3, allowPartial := true } = .ok (setup, root) ∧
        walkFrom setup root (beginning setup root 0) = (.ok made, trace) ∧
        marksOf made.document = (true, [false]) ∧
        (made.document.elements.map marksOf = [(false, [true, false])]) ∧
        made.report.isPartial = true ∧ made.report.steps = 4 ∧ made.report.elements = 3 ∧
        ∃ stop, made.report.truncations.toList.filter (·.code == "timeout") =
            [stopNotice stop made.report.steps] ∧
          Walk.OpenAt setup root.name [] root made.document stop) ∧
    ∃ setup root made trace, prepare nestSchema pairConfig {} = .ok (setup, root) ∧
      walkFrom setup root (beginning setup root 0) = (.ok made, trace) ∧
      ({} : Options).isExceededBy made.report.steps = false ∧
      made.report.isPartial = false ∧ Walk.Whole setup [] root made.document := by
  constructor
  · have hcomputed : (match run nestSchema pairConfig { maxSteps := 3, allowPartial := true } 0 with
        | .ok made => decide (3 < made.report.steps) && (marksOf made.document == (true, [false]) &&
            made.document.elements.map marksOf == [(false, [true, false])])
        | .error _ => false) = true := by decide +kernel
    split at hcomputed
    · rename_i made hmade
      rw [Bool.and_eq_true, Bool.and_eq_true, decide_eq_true_eq] at hcomputed
      obtain ⟨setup, root, trace, hprepared, hrun⟩ := walkFrom_of_run hmade
      obtain ⟨hpartial, hsteps, helements, stop, hnotice, hmarks⟩ :=
        (unfinished_chain_marked nestSchema pairConfig { maxSteps := 3, allowPartial := true } setup root
          hprepared _ _ made trace hrun).1 rfl hcomputed.1
      refine ⟨setup, root, made, trace, hprepared, hrun, eq_of_beq hcomputed.2.1, eq_of_beq hcomputed.2.2,
        hpartial, hsteps, helements, stop, hnotice, ?_⟩
      rcases hmarks with ⟨-, hopen⟩ | ⟨hzero, -⟩
      · exact hopen
      · cases hzero
    · cases hcomputed
  · have hcomputed : (match run nestSchema pairConfig {} 0 with
        | .ok made => !({} : Options).isExceededBy made.report.steps
        | .error _ => false) = true := by decide +kernel
    split at hcomputed
    · rename_i made hmade
      rw [Bool.not_eq_true'] at hcomputed
      obtain ⟨setup, root, trace, hprepared, hrun⟩ := walkFrom_of_run hmade
      exact ⟨setup, root, made, trace, hprepared, hrun, hcomputed,
        (unfinished_chain_marked nestSchema pairConfig {} setup root hprepared _ _ made trace hrun).2
          hcomputed⟩
    · cases hcomputed

end Generation
end Specimen
