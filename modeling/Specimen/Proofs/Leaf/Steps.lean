import Specimen.Leaf.Resolution
import Specimen.Proofs.Plan.Specificity
import Specimen.Proofs.Random.Draw
import Specimen.Proofs.Relation.Steps

/-!
# Steps of leaves

Whatever the source of its value, a leaf takes only value steps, and there are few ways in which it can
fail: a rule or a relationship refers to data that is not what is asked for, a field of a relationship
stands for no leaf, a computation leaves its range, or fields wait for each other.

Data under a rule is read as a pool only when the rule has no custom values, since custom values are
either taken or refused as a whole; this is where drawn positions have to be positions of the list.
-/

open Relation (TransGen)

namespace Specimen

open Run

/-- A way in which the value of a leaf can fail. -/
inductive LeafFailure (setup : Setup) : RunError → Prop where
  /-- The data of a rule without custom values is no pool. -/
  | pool {rule : ElementRule} {path : String} {e : ContextError} (hrule : rule ∈ setup.plan.rules)
      (hcustom : rule.customValues = []) (hpath : rule.dataContext = some path)
      (hpool : setup.contexts.pool path = .error e) : LeafFailure setup (.contexts e)
  /-- The template source of a rule has no records. -/
  | records {rule : ElementRule} {path : String} {e : ContextError} (hrule : rule ∈ setup.plan.rules)
      (hpath : rule.templateSource = some path) (hrecords : setup.contexts.records path = .error e) :
      LeafFailure setup (.contexts e)
  /-- The source of a relationship has no records. -/
  | source {r : Relationship} {path : String} {e : ContextError} (hr : r ∈ setup.plan.relationships)
      (hpath : r.source = some path) (hrecords : setup.contexts.records path = .error e) :
      LeafFailure setup (.contexts e)
  /-- A field that a relationship supplies stands for no leaf. -/
  | field {field : String} (howned : (setup.plan.owners.get? field).isSome)
      (hentry : setup.index.fieldEntry? field = none) : LeafFailure setup (.unmatchedField field)
  | computation (fault : Fault) : LeafFailure setup (.broken (.computation fault))
  /-- A field waits for itself. -/
  | endlessWait (hcycle : ∃ f, TransGen setup.plan.Waits f f) : LeafFailure setup (.broken .endlessWait)

/-- There is something to pick from a list that is not empty. -/
theorem Run.pickFrom_returns {α : Type} (path : String) (strategy : SelectionStrategy)
    {candidates : List α} (hne : candidates ≠ []) :
    Returns (pickFrom path strategy candidates) fun picked _ => ∃ a ∈ candidates, picked = some a := by
  intro s picked s' hrun
  obtain ⟨i, hi, hpick⟩ := s.selection.pick_spec s.seed path strategy
    (List.length_pos_iff.2 hne) s.rng
  obtain ⟨position, t, hfirst, hlast⟩ := exec_bind_eq_ok.1 hrun
  obtain ⟨rfl, -⟩ := exec_pure_eq_ok.1 hlast
  have hposition : position = some i := by
    have hvalue := congrArg Prod.fst hfirst
    exact (Except.ok.inj hvalue).symm.trans hpick
  refine ⟨candidates[i], List.getElem_mem hi, ?_⟩
  rw [hposition]
  exact List.getElem?_eq_getElem hi

namespace Leaf

variable {setup : Setup}

/-! ## Picked values -/

theorem markUsed_takesTentativeSteps (q : LeafRequest) (value : String) :
    TakesTentativeSteps (LeafFailure setup) (markUsed setup q value) := by
  unfold markUsed
  split
  · rename_i scope _
    split
    · exact .modify fun _ => tentative_of_valueStep (.used scope q.path value) rfl
    · exact .pure ()
  · exact .pure ()

theorem keep_takesTentativeSteps (q : LeafRequest) (source value : String) :
    TakesTentativeSteps (LeafFailure setup) (keep setup q source value) :=
  (markUsed_takesTentativeSteps q value).bind fun _ => record_takesTentativeSteps (.value source)

theorem settle_takesTentativeSteps (q : LeafRequest) (source : String) (last : Option Refusal) :
    TakesTentativeSteps (LeafFailure setup) (settle setup q source last) := by
  unfold settle
  split
  · exact .pure _
  · split
    · exact .pure _
    · exact (warn_takesTentativeSteps _).bind fun _ => (keep_takesTentativeSteps q source _).bind fun _ =>
        .pure _

theorem tryPool_takesTentativeSteps (q : LeafRequest) (pool : List String)
    (strategy : SelectionStrategy) (source : String) (tries : Nat) (last : Option Refusal) :
    TakesTentativeSteps (LeafFailure setup) (tryPool setup q pool strategy source tries last) := by
  induction tries generalizing last with
  | zero => exact settle_takesTentativeSteps q source last
  | succ tries ih =>
      unfold tryPool
      refine (pickFrom_takesTentativeSteps _ _ _).bind fun picked => ?_
      split
      · exact settle_takesTentativeSteps q source last
      · refine Confined.get.bind fun s => ?_
        split
        · exact (keep_takesTentativeSteps q source _).bind fun _ => .pure _
        · exact (record_takesTentativeSteps .retry).bind fun _ => ih _

theorem pickFromPool_takesTentativeSteps (q : LeafRequest) (pool : List String)
    (strategy : SelectionStrategy) (source : String) :
    TakesTentativeSteps (LeafFailure setup) (pickFromPool setup q pool strategy source) := by
  unfold pickFromPool
  split
  · exact .pure _
  · exact tryPool_takesTentativeSteps q pool strategy source _ none

theorem tryRecords_takesTentativeSteps (q : LeafRequest) (records : List Json) (key path : String)
    (strategy : SelectionStrategy) (tries : Nat) (last : Option Refusal) :
    TakesTentativeSteps (LeafFailure setup) (tryRecords setup q records key path strategy tries last) := by
  induction tries generalizing last with
  | zero => exact settle_takesTentativeSteps q _ last
  | succ tries ih =>
      unfold tryRecords
      refine (pickFrom_takesTentativeSteps _ _ _).bind fun picked => ?_
      split
      · exact settle_takesTentativeSteps q _ last
      · split
        · exact (warn_takesTentativeSteps _).bind fun _ => .pure _
        · refine Confined.get.bind fun s => ?_
          split
          · exact (keep_takesTentativeSteps q _ _).bind fun _ => .pure _
          · exact (record_takesTentativeSteps .retry).bind fun _ => ih _

theorem pickFromRecords_takesTentativeSteps (q : LeafRequest) {rule : ElementRule}
    (hrule : rule ∈ setup.plan.rules) {path : String} (hpath : rule.templateSource = some path) :
    TakesTentativeSteps (LeafFailure setup) (pickFromRecords setup q rule path) := by
  unfold pickFromRecords
  refine (ofContexts_takesTentativeSteps fun e he => .records hrule hpath he).bind fun records => ?_
  split
  · exact .pure _
  · exact tryRecords_takesTentativeSteps q records _ path _ _ none

/-! ## Generated values -/

theorem attemptValue_takesTentativeSteps {α : Type} (a : Attempt α) :
    TakesTentativeSteps (LeafFailure setup) (attempt a) :=
  attempt_takesTentativeSteps a fun fault => .computation fault

theorem tryGenerator_takesTentativeSteps (q : LeafRequest) (g : Generator) (tries : Nat)
    (last : Option (Refusal × Generator)) :
    TakesTentativeSteps (LeafFailure setup) (tryGenerator setup q g tries last) := by
  induction tries generalizing last with
  | zero => exact .pure _
  | succ tries ih =>
      unfold tryGenerator
      refine (attemptValue_takesTentativeSteps _).bind fun made => ?_
      split
      · exact (warn_takesTentativeSteps _).bind fun _ => .pure _
      · refine Confined.get.bind fun s => ?_
        split
        · exact .pure _
        · exact (record_takesTentativeSteps .retry).bind fun _ => ih _

theorem tryGenerators_takesTentativeSteps (q : LeafRequest) (generators : List Generator)
    (last : Option (Refusal × Generator)) :
    TakesTentativeSteps (LeafFailure setup) (tryGenerators setup q generators last) := by
  induction generators generalizing last with
  | nil => exact .pure _
  | cons g rest ih =>
      unfold tryGenerators
      refine (tryGenerator_takesTentativeSteps q g _ last).bind fun made => ?_
      split
      · exact .pure _
      · exact ih _

theorem anyText_takesTentativeSteps (q : LeafRequest) :
    TakesTentativeSteps (LeafFailure setup) (anyText setup q) := by
  refine (attemptValue_takesTentativeSteps _).bind fun made => ?_
  split
  · exact .pure _
  · exact .pure _

theorem finish_takesTentativeSteps (q : LeafRequest) (generator source value : String) :
    TakesTentativeSteps (LeafFailure setup) (finish setup q generator source value) := by
  refine (markUsed_takesTentativeSteps q value).bind fun _ => ?_
  refine Confined.bind (.modify fun s => ?_) fun _ => .pure _
  have hgenerator : ValueStep s { s with report := s.report.countGenerator generator } :=
    .counted _ (.generator generator)
  exact (tentative_of_valueStep hgenerator rfl).trans (tentative_of_valueStep (.counted _ (.value source)) rfl)

theorem generate_takesTentativeSteps (q : LeafRequest) (source : String) :
    TakesTentativeSteps (LeafFailure setup) (generate setup q source) := by
  unfold generate
  refine (tryGenerators_takesTentativeSteps q _ none).bind fun made => ?_
  split
  · exact finish_takesTentativeSteps q _ source _
  · split
    · exact (warn_takesTentativeSteps _).bind fun _ => finish_takesTentativeSteps q _ source _
    · exact (anyText_takesTentativeSteps q).bind fun _ => (warn_takesTentativeSteps _).bind fun _ =>
        finish_takesTentativeSteps q _ source _

theorem fallBack_takesTentativeSteps (q : LeafRequest) (source reason : String) :
    TakesTentativeSteps (LeafFailure setup) (fallBack setup q source reason) :=
  (record_takesTentativeSteps .fallback).bind fun _ => (warn_takesTentativeSteps _).bind fun _ =>
    generate_takesTentativeSteps q _

/-! ## Sources in order -/

theorem orElse_takesTentativeSteps (q : LeafRequest) (source : String) {next : Run String}
    {picked : Picked} (hnext : picked = .empty → TakesTentativeSteps (LeafFailure setup) next) :
    TakesTentativeSteps (LeafFailure setup) (orElse setup q source next picked) := by
  cases picked with
  | value text => exact .pure text
  | refused reason => exact fallBack_takesTentativeSteps q source reason
  | empty => exact hnext rfl

/-- A pool that is not empty yields a value or a refusal. -/
theorem tryPool_ne_empty (q : LeafRequest) {pool : List String} (hpool : pool ≠ [])
    (strategy : SelectionStrategy) (source : String) (tries : Nat) (last : Option Refusal)
    (hsome : 0 < tries ∨ last.isSome) :
    Returns (tryPool setup q pool strategy source tries last) fun picked _ => picked ≠ .empty := by
  induction tries generalizing last with
  | zero =>
      obtain ⟨refusal, rfl⟩ := Option.isSome_iff_exists.1 (hsome.resolve_left (Nat.lt_irrefl 0))
      unfold tryPool settle
      dsimp only
      split
      · exact .pure fun _ => nofun
      · exact .bind fun _ => .bind fun _ => .pure fun _ => nofun
  | succ tries ih =>
      unfold tryPool
      refine .bind_of (pickFrom_returns q.path strategy hpool) ?_
      rintro _ ⟨value, -, rfl⟩
      refine .bind fun s => ?_
      split
      · exact .bind fun _ => .pure fun _ => nofun
      · exact .bind fun _ => ih _ (.inr rfl)

theorem pickFromPool_ne_empty (q : LeafRequest) {pool : List String} (hpool : pool ≠ [])
    (strategy : SelectionStrategy) (source : String) :
    Returns (pickFromPool setup q pool strategy source) fun picked _ => picked ≠ .empty := by
  unfold pickFromPool
  rw [if_neg (by simpa using hpool)]
  have htries : 0 < setup.options.valueTries := Nat.lt_of_lt_of_le Nat.one_pos (Nat.le_max_right _ _)
  exact tryPool_ne_empty q hpool strategy source _ none (.inl htries)

theorem fromRecords_takesTentativeSteps (q : LeafRequest) {rule : ElementRule}
    (hrule : rule ∈ setup.plan.rules) :
    TakesTentativeSteps (LeafFailure setup) (fromRecords setup q rule) := by
  unfold fromRecords
  split
  · rename_i path hpath
    exact (pickFromRecords_takesTentativeSteps q hrule hpath).bind fun _ =>
      orElse_takesTentativeSteps q _ fun _ => generate_takesTentativeSteps q _
  · exact generate_takesTentativeSteps q _

theorem fromContexts_takesTentativeSteps (q : LeafRequest) {rule : ElementRule}
    (hrule : rule ∈ setup.plan.rules) (hcustom : rule.customValues = []) :
    TakesTentativeSteps (LeafFailure setup) (fromContexts setup q rule) := by
  unfold fromContexts
  split
  · rename_i path hpath
    refine (ofContexts_takesTentativeSteps fun e he => .pool hrule hcustom hpath he).bind fun pool => ?_
    exact (pickFromPool_takesTentativeSteps q pool _ _).bind fun _ =>
      orElse_takesTentativeSteps q _ fun _ => fromRecords_takesTentativeSteps q hrule
  · exact fromRecords_takesTentativeSteps q hrule

theorem fromRule_takesTentativeSteps (q : LeafRequest) {rule : ElementRule}
    (hrule : rule ∈ setup.plan.rules) :
    TakesTentativeSteps (LeafFailure setup) (fromRule setup q rule) := by
  refine (pickFromPool_takesTentativeSteps q _ _ _).bind_of fun picked s s' hrun =>
    orElse_takesTentativeSteps q _ fun hempty => ?_
  by_cases hcustom : rule.customValues = []
  · exact fromContexts_takesTentativeSteps q hrule hcustom
  · exact absurd hempty (pickFromPool_ne_empty q hcustom _ _ s picked s' hrun)

theorem fromSources_takesTentativeSteps (q : LeafRequest) :
    TakesTentativeSteps (LeafFailure setup) (fromSources setup q) := by
  unfold fromSources
  split
  · rename_i rule hrule
    exact fromRule_takesTentativeSteps q (Plan.mem_rules_of_rule? hrule)
  · exact generate_takesTentativeSteps q _

/-! ## Fields of relationships -/

theorem fieldRequest_takesTentativeSteps {field : String}
    (hfield : (setup.plan.owners.get? field).isSome) :
    TakesTentativeSteps (LeafFailure setup) (fieldRequest setup field) := by
  unfold fieldRequest
  split
  · exact .pure _
  · rename_i hentry
    exact .throw (.field hfield hentry)

theorem sample_takesTentativeSteps (q : LeafRequest) (g : Generator) (size tries : Nat)
    (found : Array String) : TakesTentativeSteps (LeafFailure setup) (sample setup q g size tries found) := by
  induction tries generalizing found with
  | zero => exact .pure _
  | succ tries ih =>
      unfold sample
      split
      · exact .pure _
      · refine (attemptValue_takesTentativeSteps _).bind fun made => ?_
        split
        · exact ih _
        · exact ih _

theorem configuredPool_takesTentativeSteps (q : LeafRequest) (r : Relationship) :
    TakesTentativeSteps (LeafFailure setup) (configuredPool setup q r) := by
  unfold configuredPool
  dsimp only
  split
  · rename_i rule hrule
    split
    · exact .pure _
    · rename_i hcustom
      split
      · rename_i path hpath
        refine ofContexts_takesTentativeSteps fun e he =>
          .pool (Plan.mem_rules_of_rule? hrule) ?_ hpath he
        simpa using hcustom
      · exact .pure _
  · exact .pure _

theorem candidatePool_takesTentativeSteps {field : String}
    (hfield : (setup.plan.owners.get? field).isSome) (r : Relationship) :
    TakesTentativeSteps (LeafFailure setup) (candidatePool setup field r) := by
  unfold candidatePool
  refine (fieldRequest_takesTentativeSteps hfield).bind fun q => ?_
  refine (configuredPool_takesTentativeSteps q r).bind fun configured => ?_
  dsimp only
  split
  · exact (sample_takesTentativeSteps q _ _ _ _).bind fun _ => .pure _
  · exact .pure _

theorem fieldSources_supplied : Relation.Supplied setup (fieldSources setup) (LeafFailure setup) where
  independent _ hfield :=
    (fieldRequest_takesTentativeSteps hfield).bind fun q => fromSources_takesTentativeSteps q
  pool _ r hfield _ := candidatePool_takesTentativeSteps hfield r
  records _ hr _ _ hpath hrecords := .source hr hpath hrecords

/-! ## Leaves -/

theorem keepRelated_takesTentativeSteps (q : LeafRequest) (field value : String) :
    TakesTentativeSteps (LeafFailure setup) (keepRelated setup q field value) := by
  unfold keepRelated
  dsimp only
  split
  · exact keep_takesTentativeSteps q _ value
  · exact (warn_takesTentativeSteps _).bind fun _ => keep_takesTentativeSteps q _ value

theorem resolveOpen_takesValueSteps (q : LeafRequest) :
    TakesValueSteps (LeafFailure setup) (resolveOpen setup q) := by
  unfold resolveOpen
  split
  · exact (fromSources_takesTentativeSteps q).toValue
  · refine (Relation.resolveField_takesValueSteps fieldSources_supplied .endlessWait
      _).bind fun value => ?_
    split
    · exact (keepRelated_takesTentativeSteps q _ _).toValue.bind fun _ => .pure _
    · exact (fromSources_takesTentativeSteps q).toValue

/-- Finding the value of a leaf takes only value steps, and fails only in the ways listed. -/
theorem resolve_takesValueSteps (setup : Setup) (q : LeafRequest) :
    TakesValueSteps (LeafFailure setup) (resolve setup q) := by
  unfold resolve
  split
  · exact (record_takesTentativeSteps (.value _)).toValue.bind fun _ => .pure _
  · exact resolveOpen_takesValueSteps q

end Leaf
end Specimen
