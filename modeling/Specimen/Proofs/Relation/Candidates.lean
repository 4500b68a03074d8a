import Specimen.Proofs.Constraint.Fields
import Specimen.Proofs.Leaf.Acceptance
import Specimen.Proofs.Relation.Changes

/-!
# Values that are drawn from candidates

A dependent field is drawn from candidates.  A candidate fits when it violates no constraint beside the values that
are there.  The value that is drawn fits whenever any candidate does, and then the report is told of nothing; only if
none fits, it is told once.  Where combinations are not to be used again, a candidate that fits and makes up a new one
is preferred to those that do not, and what is drawn is remembered.
-/

namespace Specimen

open Run

namespace Constraint

theorem isEmpty_violated (cs : List Constraint) (b : Bindings) :
    (violated cs b).isEmpty = allBoundHold cs b := by
  rw [Bool.eq_iff_iff, List.isEmpty_iff]
  unfold violated allBoundHold
  rw [List.filter_eq_nil_iff, List.all_eq_true]
  simp

end Constraint

namespace Relationship

/-- A candidate for a field violates no constraint beside other values. -/
abbrev Fits (r : Relationship) (bound : Bindings) (field v : String) : Prop :=
  Constraint.allBoundHold r.constraints (bound.insert field v) = true

/-- A candidate for a field makes up a combination that was not used before. -/
abbrev IsFresh (r : Relationship) (s : RelationState) (bound : Bindings) (field v : String) : Prop :=
  s.isCombinationUsed r.id (r.combination (bound.insert field v)) = false

end Relationship

namespace RelationState

theorem isCombinationUsed_useCombination (s : RelationState) (id : String) (combination : List String) :
    (s.useCombination id combination).isCombinationUsed id combination = true := by
  unfold useCombination isCombinationUsed
  rw [Std.HashMap.getD_insert_self]
  exact Std.HashSet.contains_insert_self

end RelationState

namespace Relation

variable {sources : FieldSources} {r : Relationship} {relations : RelationState} {bound : Bindings}
  {field v : String} {pool candidates : List String} {s s' : RunState}

/-! ## Candidates -/

/-- The candidates that a field is drawn from if there are any: those that fit, and among these the unused ones. -/
def preferred (s : RelationState) (r : Relationship) (bound : Bindings) (field : String) (pool : List String) :
    List String :=
  if r.ensureUnique then preferUnused s r bound field (fitting r bound field pool)
  else fitting r bound field pool

theorem mem_fitting : v ∈ fitting r bound field pool ↔ v ∈ pool ∧ r.Fits bound field v := List.mem_filter

theorem mem_of_mem_preferUnused (hv : v ∈ preferUnused relations r bound field candidates) :
    v ∈ candidates := by
  unfold preferUnused at hv
  dsimp only at hv
  split at hv
  · exact hv
  · exact (List.mem_filter.1 hv).1

theorem preferUnused_eq_nil :
    preferUnused relations r bound field candidates = [] ↔ candidates = [] := by
  unfold preferUnused
  dsimp only
  split
  · rfl
  · rename_i hunused
    constructor
    · exact fun h => absurd (List.isEmpty_iff.2 h) hunused
    · rintro rfl
      rfl

theorem isFresh_of_mem_preferUnused {m : String} (hm : m ∈ candidates)
    (hfresh : r.IsFresh relations bound field m)
    (hv : v ∈ preferUnused relations r bound field candidates) : r.IsFresh relations bound field v := by
  unfold preferUnused at hv
  dsimp only at hv
  split at hv
  · rename_i hnone
    have hmem : m ∈ candidates.filter fun v =>
        !relations.isCombinationUsed r.id (r.combination (bound.insert field v)) :=
      List.mem_filter.2 ⟨hm, by rw [hfresh]; rfl⟩
    rw [List.isEmpty_iff.1 hnone] at hmem
    cases hmem
  · simpa using (List.mem_filter.1 hv).2

theorem mem_fitting_of_mem_preferred (hv : v ∈ preferred relations r bound field pool) :
    v ∈ pool ∧ r.Fits bound field v := by
  apply mem_fitting.1
  unfold preferred at hv
  split at hv
  · exact mem_of_mem_preferUnused hv
  · exact hv

theorem preferred_eq_nil :
    preferred relations r bound field pool = [] ↔ ∀ m ∈ pool, ¬ r.Fits bound field m := by
  have hnil : preferred relations r bound field pool = [] ↔ fitting r bound field pool = [] := by
    unfold preferred
    split
    · exact preferUnused_eq_nil
    · rfl
  exact hnil.trans List.filter_eq_nil_iff

/-! ## Draws -/

/-- What is promised of a value that is drawn from candidates for a field, between two states. -/
structure DrawsFitting (r : Relationship) (bound : Bindings) (field : String) (pool : List String)
    (s : RunState) (v : String) (t : RunState) : Prop where
  member : v ∈ pool
  fits : (∃ m ∈ pool, r.Fits bound field m) → r.Fits bound field v ∧ s.Reports [] t
  reported : (∀ m ∈ pool, ¬ r.Fits bound field m) →
    s.Reports [r.violationNotice (bound.insert field v) (some field)] t
  fresh : r.ensureUnique = true →
    (∃ m ∈ pool, r.Fits bound field m ∧ r.IsFresh s.relations bound field m) →
      r.IsFresh s.relations bound field v
  remembered : r.ensureUnique = true →
    t.relations.isCombinationUsed r.id (r.combination (bound.insert field v)) = true

/-- A value that was drawn is handed out, and its combination is remembered if it is not to be used again. -/
theorem remember_eq_ok {value : String} {combination : List String}
    (h : (if r.ensureUnique = true then relate (fun s => s.useCombination r.id combination) >>= fun _ => pure value
      else pure value : Run String).exec s = (.ok v, s')) :
    v = value ∧ s.Reports [] s' ∧
      (r.ensureUnique = true → s'.relations.isCombinationUsed r.id combination = true) := by
  split at h
  · rw [exec_relate_bind] at h
    obtain ⟨rfl, rfl⟩ := exec_pure_eq_ok.1 h
    exact ⟨rfl, .of_warnings rfl, fun _ => s.relations.isCombinationUsed_useCombination r.id combination⟩
  · rename_i hreused
    obtain ⟨rfl, rfl⟩ := exec_pure_eq_ok.1 h
    exact ⟨rfl, .of_warnings rfl, fun hunique => absurd hunique hreused⟩

theorem drawDependent_drawsFitting (hpool : pool ≠ [])
    (h : (drawDependent sources r bound field pool).exec s = (.ok v, s')) :
    DrawsFitting r bound field pool s v s' := by
  unfold drawDependent at h
  rw [exec_get_bind] at h
  dsimp only at h
  generalize hfit : (if r.ensureUnique = true then
      preferUnused s.relations r bound field (fitting r bound field pool)
    else fitting r bound field pool) = fit at h
  change preferred s.relations r bound field pool = fit at hfit
  subst hfit
  obtain ⟨picked, t, hpick, h⟩ := exec_bind_eq_ok.1 h
  have hst : s.Reports [] t := (pickFrom_frame hpick).1
  by_cases hempty : (preferred s.relations r bound field pool).isEmpty = true
  · rw [if_pos hempty] at hpick h
    have hnone := preferred_eq_nil.1 (List.isEmpty_iff.1 hempty)
    obtain ⟨value, hmem, rfl⟩ := pickFrom_returns _ _ hpool _ _ _ hpick
    obtain ⟨⟨⟩, u, hwarn, h⟩ := exec_bind_eq_ok.1 h
    obtain ⟨rfl, hus', hremembered⟩ := remember_eq_ok h
    exact {
      member := hmem
      fits := fun ⟨m, hm, hfits⟩ => absurd hfits (hnone m hm)
      reported := fun _ => (hst.trans (.of_warn hwarn)).trans hus'
      fresh := fun _ ⟨m, hm, hfits, _⟩ => absurd hfits (hnone m hm)
      remembered := hremembered }
  · rw [if_neg hempty] at hpick h
    obtain ⟨value, hmem, rfl⟩ := pickFrom_returns _ _ (by simpa using hempty) _ _ _ hpick
    obtain ⟨⟨⟩, u, hfollow, h⟩ := exec_bind_eq_ok.1 h
    have htu : t.Reports [] u := .of_warnings (by cases hfollow; rfl)
    obtain ⟨rfl, hus', hremembered⟩ := remember_eq_ok h
    obtain ⟨hin, hfits⟩ := mem_fitting_of_mem_preferred hmem
    exact {
      member := hin
      fits := fun _ => ⟨hfits, (hst.trans htu).trans hus'⟩
      reported := fun hnone => absurd hfits (hnone _ hin)
      fresh := fun hunique ⟨m, hm, hmfits, hfresh⟩ => by
        unfold preferred at hmem
        rw [if_pos hunique] at hmem
        exact isFresh_of_mem_preferUnused (mem_fitting.2 ⟨hm, hmfits⟩) hfresh hmem
      remembered := hremembered }

end Relation
end Specimen
