import Specimen.Proofs.Calendar.Shapes
import Specimen.Proofs.Generator.Bounds

/-!
# Bounds of times of day

The generator of times of day reads its bounds as seconds since midnight.  The last second before an upper bound that
is excluded is one less, but not below zero.  So before midnight, where there is no time of day, the generator still
finds midnight itself; apart from that it refuses exactly the bounds that no second satisfies.
-/

namespace Specimen

open Specimen.Random

/-! ## Seconds of the day -/

/-- The canonical texts of the seconds of a day. -/
def IsSecond (s : String) : Prop := ∃ n, n < 86400 ∧ TimeOfDay.text ⟨n, false⟩ = s

theorem TimeOfDay.read?_text {n : Nat} (h : n < 86400) : TimeOfDay.read? (text ⟨n, false⟩) = some ⟨n, false⟩ := by
  have hscan := scanTimeParts_text h []
  rw [List.append_nil] at hscan
  unfold read?
  rw [hscan]
  rfl

namespace Generate

theorem secondOf?_text {n : Nat} (h : n < 86400) : secondOf? (TimeOfDay.text ⟨n, false⟩) = some n := by
  unfold secondOf?
  rw [TimeOfDay.read?_text h]
  rfl

theorem text_midnight : TimeOfDay.text ⟨0, false⟩ = "00:00:00" := by decide

theorem secondOf?_midnight : secondOf? "00:00:00" = some 0 := by
  rw [← text_midnight]
  exact secondOf?_text (by decide)

end Generate

namespace Facets

open Generate (secondOf?)

/-- The second of the day at which a bound lies. -/
def secondBound? (f : Facets) (kind : BoundKind) : Option Nat := (f.boundOf kind).bind secondOf?

/-- A second of the day that satisfies the bounds. -/
def AdmitsSecond (f : Facets) (n : Nat) : Prop :=
  ∀ kind m, f.secondBound? kind = some m → kind.Admits n m

/-- The bounds leave nothing but the time before the first midnight of the day: midnight is excluded at the upper end
and nothing else narrows the lower one. -/
structure EndsBeforeMidnight (f : Facets) : Prop where
  maxExclusive : f.maxExclusive = some "00:00:00"
  minExclusive : f.minExclusive = none
  minInclusive : f.minInclusive = none ∨ f.minInclusive = some "00:00:00"

variable {f : Facets}

theorem secondBound?_of_isSecond (hf : f.HasOnlyBounds IsSecond) (kind : BoundKind) {bound : String}
    (h : f.boundOf kind = some bound) : ∃ m, m < 86400 ∧ TimeOfDay.text ⟨m, false⟩ = bound ∧
      f.secondBound? kind = some m := by
  obtain ⟨m, hm, rfl⟩ := hf.literal kind bound h
  refine ⟨m, hm, rfl, ?_⟩
  rw [secondBound?, h, Option.bind_some, Generate.secondOf?_text hm]

theorem secondBound?_eq_some (hf : f.HasOnlyBounds IsSecond) {kind : BoundKind} {m : Nat}
    (h : f.secondBound? kind = some m) : m < 86400 ∧ f.boundOf kind = some (TimeOfDay.text ⟨m, false⟩) := by
  obtain ⟨bound, hbound, -⟩ := Option.bind_eq_some_iff.1 h
  obtain ⟨m', hm', rfl, hsecond⟩ := secondBound?_of_isSecond hf _ hbound
  obtain rfl := Option.some.inj (hsecond.symm.trans h)
  exact ⟨hm', hbound⟩

/-- A second of the day is accepted exactly when it satisfies the bounds. -/
theorem check_text_eq_ok_iff (hbase : f.base = .time) (hf : f.HasOnlyBounds IsSecond) {n : Nat} (hn : n < 86400)
    (isMatch : (pattern text : String) → Bool) :
    f.check (TimeOfDay.text ⟨n, false⟩) isMatch = .ok () ↔ f.AdmitsSecond n := by
  have hform : Lexical.isValue f.base (TimeOfDay.text ⟨n, false⟩) = true := by
    rw [hbase]
    change (TimeOfDay.read? (TimeOfDay.text ⟨n, false⟩)).isSome = true
    rw [TimeOfDay.read?_text hn]
    rfl
  have hallows : ∀ {m}, m < 86400 → ∀ kind : BoundKind,
      (kind.allows (compareStrings (TimeOfDay.text ⟨n, false⟩) (TimeOfDay.text ⟨m, false⟩)) = true ↔
        kind.Admits n m) := by
    intro m hm kind
    rw [compareStrings_eq, TimeOfDay.compare_text hn hm, ← Calendar.compare_natCast, kind.allows_compare]
  rw [hf.check_eq_ok_iff (by rw [hbase]; rfl) hform isMatch]
  constructor
  · intro hall kind m hm
    obtain ⟨hlt, hbound⟩ := secondBound?_eq_some hf hm
    exact (hallows hlt kind).1 (hall kind _ hbound)
  · intro hadmits kind bound hbound
    obtain ⟨m, hm, rfl, hsecond⟩ := secondBound?_of_isSecond hf _ hbound
    exact (hallows hm kind).2 (hadmits kind m hsecond)

end Facets

namespace Generate

variable {f : Facets}

/-- The first and the last second that are drawn. -/
def firstSecond (f : Facets) : Nat :=
  ((f.secondBound? .minInclusive).or ((f.secondBound? .minExclusive).map (· + 1))).getD 0

def lastSecond (f : Facets) : Nat :=
  ((f.secondBound? .maxInclusive).or ((f.secondBound? .maxExclusive).map (· - 1))).getD 86399

theorem secondRange_eq (f : Facets) : secondRange f =
    if lastSecond f < firstSecond f then unsatisfiable f "empty time range"
    else .ok (firstSecond f, lastSecond f) := rfl

theorem secondBound?_eq_none (kind : BoundKind) (h : f.boundOf kind = none) : f.secondBound? kind = none := by
  rw [Facets.secondBound?, h, Option.bind_none]

theorem firstSecond_le_iff (hf : f.HasOnlyBounds IsSecond) (n : Nat) :
    firstSecond f ≤ n ↔
      (∀ m, f.secondBound? .minInclusive = some m → BoundKind.minInclusive.Admits n m) ∧
        ∀ m, f.secondBound? .minExclusive = some m → BoundKind.minExclusive.Admits n m := by
  have hone := hf.one_lower.imp (secondBound?_eq_none .minInclusive) (secondBound?_eq_none .minExclusive)
  unfold firstSecond BoundKind.Admits
  rcases hone with hnone | hnone <;> rw [hnone]
  · cases f.secondBound? .minExclusive with
    | none => simp
    | some m =>
        simp only [Option.map_some, Option.none_or, Option.getD_some, Option.some.injEq, forall_eq', reduceCtorEq,
          IsEmpty.forall_iff, implies_true, true_and, Int.ofNat_lt]
        exact Nat.succ_le_iff
  · cases f.secondBound? .minInclusive with
    | none => simp
    | some m => simp

/-- Seconds up to the last one are those that satisfy the upper bounds, unless midnight is excluded. -/
theorem le_lastSecond_iff (hf : f.HasOnlyBounds IsSecond) (hmidnight : f.maxExclusive ≠ some "00:00:00") (n : Nat) :
    n ≤ lastSecond f ↔ n < 86400 ∧
      (∀ m, f.secondBound? .maxInclusive = some m → BoundKind.maxInclusive.Admits n m) ∧
        ∀ m, f.secondBound? .maxExclusive = some m → BoundKind.maxExclusive.Admits n m := by
  have hone := hf.one_upper.imp (secondBound?_eq_none .maxInclusive) (secondBound?_eq_none .maxExclusive)
  have hpositive : ∀ m, f.secondBound? .maxExclusive = some m → 0 < m ∧ m < 86400 := by
    intro m hm
    obtain ⟨hlt, hbound⟩ := Facets.secondBound?_eq_some hf hm
    refine ⟨Nat.pos_of_ne_zero ?_, hlt⟩
    rintro rfl
    exact hmidnight hbound
  have hincluded : ∀ m, f.secondBound? .maxInclusive = some m → m < 86400 := fun m hm =>
    (Facets.secondBound?_eq_some hf hm).1
  unfold lastSecond BoundKind.Admits
  rcases hone with hnone | hnone <;> rw [hnone]
  · revert hpositive
    cases f.secondBound? .maxExclusive with
    | none => simp; omega
    | some m => simp; omega
  · revert hincluded
    cases f.secondBound? .maxInclusive with
    | none => simp; omega
    | some m => simp; omega

/-- Between the first second and the last one are the seconds that satisfy the bounds, unless midnight is excluded. -/
theorem admitsSecond_iff (hf : f.HasOnlyBounds IsSecond) (hmidnight : f.maxExclusive ≠ some "00:00:00") (n : Nat) :
    n < 86400 ∧ f.AdmitsSecond n ↔ firstSecond f ≤ n ∧ n ≤ lastSecond f := by
  rw [firstSecond_le_iff hf, le_lastSecond_iff hf hmidnight]
  constructor
  · rintro ⟨hn, hadmits⟩
    exact ⟨⟨hadmits .minInclusive, hadmits .minExclusive⟩, hn, hadmits .maxInclusive, hadmits .maxExclusive⟩
  · rintro ⟨⟨hminInclusive, hminExclusive⟩, hn, hmaxInclusive, hmaxExclusive⟩
    refine ⟨hn, fun kind => ?_⟩
    cases kind with
    | minInclusive => exact hminInclusive
    | maxInclusive => exact hmaxInclusive
    | minExclusive => exact hminExclusive
    | maxExclusive => exact hmaxExclusive

/-- No second comes before midnight, but the last second that is drawn is midnight then. -/
theorem midnight_excluded (hf : f.HasOnlyBounds IsSecond) (hmidnight : f.maxExclusive = some "00:00:00") :
    lastSecond f = 0 ∧ ∀ n, ¬ f.AdmitsSecond n := by
  have hsecond : f.secondBound? .maxExclusive = some 0 := by
    rw [Facets.secondBound?, Facets.boundOf, hmidnight, Option.bind_some, secondOf?_midnight]
  have hincluded : f.maxInclusive = none := hf.one_upper.resolve_right (by rw [hmidnight]; exact Option.some_ne_none _)
  refine ⟨?_, fun n hadmits => ?_⟩
  · unfold lastSecond
    rw [hsecond, Facets.secondBound?, Facets.boundOf, hincluded]
    rfl
  · have hbefore : (n : Int) < (0 : Nat) := hadmits .maxExclusive 0 hsecond
    omega

theorem firstSecond_eq_zero_iff (hf : f.HasOnlyBounds IsSecond) : firstSecond f = 0 ↔
    f.minExclusive = none ∧ (f.minInclusive = none ∨ f.minInclusive = some "00:00:00") := by
  rw [← Nat.le_zero, firstSecond_le_iff hf]
  constructor
  · rintro ⟨hincluded, hexcluded⟩
    constructor
    · cases hbound : f.minExclusive with
      | none => rfl
      | some s =>
          obtain ⟨m, -, -, hsecond⟩ := Facets.secondBound?_of_isSecond hf .minExclusive hbound
          have hbefore : (m : Int) < (0 : Nat) := hexcluded m hsecond
          omega
    · cases hbound : f.minInclusive with
      | none => exact .inl rfl
      | some s =>
          obtain ⟨m, -, rfl, hsecond⟩ := Facets.secondBound?_of_isSecond hf .minInclusive hbound
          have hle : (m : Int) ≤ (0 : Nat) := hincluded m hsecond
          obtain rfl : m = 0 := by omega
          exact .inr (congrArg some text_midnight)
  · rintro ⟨hnone, hincluded⟩
    refine ⟨fun m hm => ?_, fun m hm => ?_⟩
    · rw [Facets.secondBound?, Facets.boundOf] at hm
      rcases hincluded with hincluded | hincluded <;> rw [hincluded] at hm
      · cases hm
      · rw [Option.bind_some, secondOf?_midnight] at hm
        obtain rfl := Option.some.inj hm
        exact Int.le_refl _
    · rw [Facets.secondBound?, Facets.boundOf, hnone] at hm
      cases hm

theorem time_outcome (libraries : Libraries) (leaf : Leaf) (rng : Rng) :
    PrimitiveGenerator.time.outcome libraries leaf rng = (secondRange leaf.facets).bind fun range =>
      .ok (TimeOfDay.text ⟨(Draw.range .w32 range.1 range.2 rng).1.toNat, false⟩) :=
  run_except _ _ _

/-- The range of seconds is refused if it is empty, and else a second of it is given. -/
theorem time_outcome_cases (libraries : Libraries) (leaf : Leaf) (hlast : lastSecond leaf.facets < 86400)
    (rng : Rng) :
    lastSecond leaf.facets < firstSecond leaf.facets ∧
        (∃ e, PrimitiveGenerator.time.outcome libraries leaf rng = .error e) ∨
      firstSecond leaf.facets ≤ lastSecond leaf.facets ∧
        ∃ n, firstSecond leaf.facets ≤ n ∧ n ≤ lastSecond leaf.facets ∧
          PrimitiveGenerator.time.outcome libraries leaf rng = .ok (TimeOfDay.text ⟨n, false⟩) := by
  rw [time_outcome, secondRange_eq]
  rcases Nat.lt_or_ge (lastSecond leaf.facets) (firstSecond leaf.facets) with hempty | hle
  · rw [if_pos hempty]
    exact .inl ⟨hempty, _, rfl⟩
  · rw [if_neg (Nat.not_lt.2 hle)]
    obtain ⟨hlow, hhigh⟩ := drawn_length hle (Nat.le_trans (Nat.le_of_lt hlast) (by decide)) rng
    exact .inr ⟨hle, _, hlow, hhigh, rfl⟩

/-- The generator of times of day refuses exactly the bounds that no second of the day satisfies, and what it gives
satisfies the bounds, unless the bounds leave nothing but the time before midnight. -/
theorem time_bounds_honoured_iff (f : Facets) (hbase : f.base = .time) (hf : f.HasOnlyBounds IsSecond)
    (name path : String) (baseDate : Date) (libraries : Libraries) (rng : Rng) :
    (((∃ e, (Generator.forFacets f).outcome libraries ⟨name, path, f, baseDate⟩ rng = .error e) ↔
        ∀ n, n < 86400 → ¬ f.AdmitsSecond n) ∧
      ∀ value, (Generator.forFacets f).outcome libraries ⟨name, path, f, baseDate⟩ rng = .ok value →
        f.check value libraries.isMatch = .ok ()) ↔ ¬ f.EndsBeforeMidnight := by
  have hgenerator : Generator.forFacets f = .time := by
    rw [hf.only_bounds, hbase]
    rfl
  rw [hgenerator]
  by_cases hmidnight : f.maxExclusive = some "00:00:00"
  · obtain ⟨hlast, hnone⟩ := midnight_excluded hf hmidnight
    have hends : f.EndsBeforeMidnight ↔ firstSecond f = 0 := by
      rw [firstSecond_eq_zero_iff hf]
      exact ⟨fun h => ⟨h.minExclusive, h.minInclusive⟩, fun h => ⟨hmidnight, h.1, h.2⟩⟩
    rcases time_outcome_cases libraries ⟨name, path, f, baseDate⟩ (hlast.trans_lt (by decide)) rng with
      ⟨hempty, e, he⟩ | ⟨hle, n, -, -, hn⟩
    · rw [hlast] at hempty
      rw [hends]
      refine iff_of_true ⟨iff_of_true ⟨e, he⟩ fun n _ => hnone n, fun value h => ?_⟩ (Nat.ne_of_gt hempty)
      cases he.symm.trans h
    · rw [hlast] at hle
      refine iff_of_false ?_ (not_not.2 (hends.2 (Nat.le_zero.1 hle)))
      rintro ⟨hrefused, -⟩
      obtain ⟨e, he⟩ := hrefused.2 fun n _ => hnone n
      cases hn.symm.trans he
  · have hadmits := admitsSecond_iff hf hmidnight
    have hlast : lastSecond f < 86400 := ((le_lastSecond_iff hf hmidnight _).1 (Nat.le_refl _)).1
    refine iff_of_true ?_ fun h => hmidnight h.maxExclusive
    rcases time_outcome_cases libraries ⟨name, path, f, baseDate⟩ hlast rng with
      ⟨hempty, e, he⟩ | ⟨hle, n, hlow, hhigh, hn⟩
    · refine ⟨iff_of_true ⟨e, he⟩ fun n hn hadmitted => ?_, fun value h => ?_⟩
      · obtain ⟨hlow, hhigh⟩ := (hadmits n).1 ⟨hn, hadmitted⟩
        exact absurd (Nat.le_trans hlow hhigh) (Nat.not_le.2 hempty)
      · cases he.symm.trans h
    · obtain ⟨hlt, hadmitted⟩ := (hadmits n).2 ⟨hlow, hhigh⟩
      refine ⟨iff_of_false ?_ fun hnone => hnone n hlt hadmitted, fun value h => ?_⟩
      · rintro ⟨e, he⟩
        cases hn.symm.trans he
      · obtain rfl := Except.ok.inj (hn.symm.trans h)
        exact (Facets.check_text_eq_ok_iff hbase hf hlt _).2 hadmitted

/-- A time from noon on that is before the last second of the day. -/
theorem time_bounds_honoured_afternoon :
    let f : Facets := { base := .time, minInclusive := some "12:00:00", maxExclusive := some "23:59:59" }
    f.HasOnlyBounds IsSecond ∧ ¬ f.EndsBeforeMidnight ∧ ∃ value,
      (Generator.forFacets f).outcome .standard ⟨"at", "/at", f, ⟨2024, 1, 31⟩⟩ (Rng.ofSeed 7) = .ok value ∧
        f.check value = .ok () := by
  intro f
  have hbounds : f.HasOnlyBounds IsSecond := by
    refine ⟨rfl, .inr rfl, .inl rfl, ?_⟩
    rintro (_ | _ | _ | _) _ ⟨⟩
    · exact ⟨43200, by decide, by decide⟩
    · exact ⟨86399, by decide, by decide⟩
  have hends : ¬ f.EndsBeforeMidnight := fun h => absurd h.maxExclusive (by decide)
  have hdrawn : (Generator.forFacets f).outcome .standard ⟨"at", "/at", f, ⟨2024, 1, 31⟩⟩ (Rng.ofSeed 7) =
      .ok "13:40:48" := by decide +kernel
  have hhonoured := time_bounds_honoured_iff f rfl hbounds "at" "/at" ⟨2024, 1, 31⟩ .standard (Rng.ofSeed 7)
  exact ⟨hbounds, hends, _, hdrawn, (hhonoured.2 hends).2 _ hdrawn⟩

/-- There is no time before midnight at the beginning of the day, but midnight is given. -/
theorem excluded_midnight_given :
    let f : Facets := { base := .time, maxExclusive := some "00:00:00" }
    f.HasOnlyBounds IsSecond ∧ (∀ n, ¬ f.AdmitsSecond n) ∧
      (Generator.forFacets f).outcome .standard ⟨"at", "/at", f, ⟨2024, 1, 1⟩⟩ (Rng.ofSeed 7) = .ok "00:00:00" ∧
        f.check "00:00:00" = .error (.bound "00:00:00" .maxExclusive "00:00:00") := by
  intro f
  have hbounds : f.HasOnlyBounds IsSecond := by
    refine ⟨rfl, .inl rfl, .inl rfl, ?_⟩
    rintro (_ | _ | _ | _) _ ⟨⟩
    exact ⟨0, by decide, text_midnight⟩
  exact ⟨hbounds, (midnight_excluded hbounds rfl).2, by decide +kernel, by decide +kernel⟩

end Generate

end Specimen
