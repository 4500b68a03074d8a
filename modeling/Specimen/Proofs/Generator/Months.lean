import Specimen.Proofs.Generator.Bounds
import Specimen.Proofs.Validity.Chronology

/-!
# Bounds of months

The generator of months reads its bounds as the first days of months, and moves those that are excluded by a day.  A
day before the first of a month lies in the month before it, so an upper bound is honoured.  A day after it lies in
the same month, so the month that a lower bound excludes is drawn like any other.
-/

namespace Specimen

open Specimen.Random

/-! ## Months -/

/-- The first day of a month, which is numbered from the first month of the year 0. -/
def Date.firstOfMonth (n : Nat) : Date := ⟨(n / 12 : Nat), n % 12 + 1, 1⟩

/-- The canonical text of a month. -/
def monthText (n : Nat) : String := paddedNat 4 (n / 12) ++ "-" ++ paddedNat 2 (n % 12 + 1)

/-- The canonical texts of the months of the years from 0 to 9999. -/
def IsMonth (s : String) : Prop := ∃ n, n < 120000 ∧ monthText n = s

/-- A month has the days from the first to the 28th. -/
theorem Date.le_daysInMonth (year : Int) (month : Nat) : 28 ≤ daysInMonth year month := by
  unfold daysInMonth
  repeat' split
  all_goals decide

theorem Date.firstOfMonth_fourDigit {n : Nat} (h : n < 120000) : (firstOfMonth n).FourDigit := by
  have hday : 1 ≤ daysInMonth (firstOfMonth n).year (firstOfMonth n).month :=
    Nat.le_trans (by decide : 1 ≤ 28) (le_daysInMonth _ _)
  refine ⟨⟨?_, ?_, Nat.le_refl 1, hday⟩, ?_, ?_⟩ <;> dsimp only [firstOfMonth] <;> omega

theorem monthText_append {n : Nat} (h : n < 120000) : monthText n ++ "-01" = (Date.firstOfMonth n).text := by
  have hday : paddedNat 2 1 = "01" := by decide
  have hyear : Date.yearText (Date.firstOfMonth n).year = paddedNat 4 (n / 12) :=
    if_pos (by dsimp only [Date.firstOfMonth]; omega)
  have hmark : "-01" = "-" ++ "01" := by decide
  unfold Date.text
  rw [hyear]
  dsimp only [Date.firstOfMonth]
  rw [hday, monthText, hmark, String.append_assoc, String.append_assoc, String.append_assoc, String.append_assoc,
    String.append_assoc]

/-- Months are in the order of their texts. -/
theorem compareStrings_monthText {n m : Nat} (hn : n < 120000) (hm : m < 120000) :
    compareStrings (monthText n) (monthText m) = compare (n : Int) (m : Int) := by
  have hyear : ∀ {n}, n < 120000 → n / 12 < Nat.pow 10 4 := by
    intro n h
    change n / 12 < 10000
    omega
  have hmonth : ∀ n, n % 12 + 1 < Nat.pow 10 2 := by
    intro n
    change n % 12 + 1 < 100
    omega
  have htoList : ∀ n, (monthText n).toList =
      (paddedNat 4 (n / 12)).toList ++ '-' :: (paddedNat 2 (n % 12 + 1)).toList := by
    intro n
    have hmark : "-".toList = ['-'] := rfl
    unfold monthText
    rw [String.toList_append, String.toList_append, hmark, List.append_assoc, List.cons_append, List.nil_append]
  have hlength : (paddedNat 4 (n / 12)).toList.length = (paddedNat 4 (m / 12)).toList.length := by
    rw [length_paddedNat (by decide) (hyear hn), length_paddedNat (by decide) (hyear hm)]
  rw [compareStrings_eq, htoList, htoList, compareLex_append hlength, compareLex_mark,
    compare_paddedNat (by decide) (hyear hn) (hyear hm), compare_paddedNat (by decide) (hmonth n) (hmonth m)]
  refine (compare_eq_then (fun h => by omega) (fun h => by omega) fun hsame => ?_).symm
  exact compare_eq_of_lt (fun h => by omega) (fun h => by omega) fun h => by omega

namespace Generate

variable {d : Date} {f : Facets} {base : Date}

theorem monthNumber_firstOfMonth (n : Nat) : monthNumber (.firstOfMonth n) = n := by
  dsimp only [monthNumber, Date.firstOfMonth]
  omega

/-- The days of a month and those after it are the days from its first one on. -/
theorem le_monthNumber_iff (h : d.Exists) {n : Nat} (hn : n < 120000) :
    (n : Int) ≤ monthNumber d ↔ (Date.firstOfMonth n).dayNumber ≤ d.dayNumber := by
  have hfirst := (Date.firstOfMonth_fourDigit hn).toExists
  have horder := Date.compare_dayNumber hfirst h
  rw [← Ordering.then_assoc, ← compare_monthNumber hfirst h, monthNumber_firstOfMonth] at horder
  have hday : compare (Date.firstOfMonth n).day d.day ≠ .gt := compare_le_iff_le.2 h.one_le_day
  rw [← compare_le_iff_le, ← compare_le_iff_le, horder]
  cases compare (n : Int) (monthNumber d) <;> simp [hday]

/-- The second day of a month lies in it. -/
theorem monthNumber_of_next {n : Nat} (hn : n < 120000) (h : (Date.firstOfMonth n).addDays? 1 = some d) :
    d.Exists ∧ monthNumber d = n := by
  obtain ⟨hexists, hnumber⟩ := Date.addDays?_eq_some h
  have hfirst := Date.firstOfMonth_fourDigit hn
  have hday : 2 ≤ Date.daysInMonth (Date.firstOfMonth n).year (Date.firstOfMonth n).month :=
    Nat.le_trans (by decide : 2 ≤ 28) (Date.le_daysInMonth _ _)
  have hsecond : Date.Exists { Date.firstOfMonth n with day := 2 } :=
    ⟨hfirst.one_le_month, hfirst.month_le, (by decide : 1 ≤ 2), hday⟩
  have hsame : compare d.dayNumber (Date.dayNumber { Date.firstOfMonth n with day := 2 }) = .eq := by
    rw [compare_eq_iff_eq, hnumber]
    unfold Date.dayNumber
    dsimp only [Date.firstOfMonth]
    omega
  rw [Date.compare_dayNumber hexists hsecond, ← Ordering.then_assoc, ← compare_monthNumber hexists hsecond,
    Ordering.then_eq_eq, compare_eq_iff_eq] at hsame
  exact ⟨hexists, hsame.1.trans (monthNumber_firstOfMonth n)⟩

/-- The day before a month lies in an earlier one. -/
theorem monthNumber_of_previous {n : Nat} (hn : n < 120000) (h : (Date.firstOfMonth n).addDays? (-1) = some d) :
    d.Exists ∧ monthNumber d < n := by
  obtain ⟨hexists, hnumber⟩ := Date.addDays?_eq_some h
  refine ⟨hexists, Int.not_le.1 fun hle => ?_⟩
  have hafter := (le_monthNumber_iff hexists hn).1 hle
  omega

/-! ## The months that are drawn -/

theorem read_monthText {n : Nat} (hn : n < 120000) : Date.read? (monthText n ++ "-01") = some (.firstOfMonth n) := by
  rw [monthText_append hn, (Date.firstOfMonth_fourDigit hn).read?_text]

/-- An end of the range is the first day of the month that is included, or a step away from that of the month that is
excluded, or the default. -/
theorem monthEnd_cases {included excluded : Option String} (hone : included = none ∨ excluded = none)
    (hmonths : ∀ s, included = some s ∨ excluded = some s → IsMonth s) {step : Int} {fallback : Option Date}
    (h : boundOr (fun s => Date.read? (s ++ "-01")) included excluded (·.addDays? step) fallback = .ok d) :
    (∃ n, n < 120000 ∧ included = some (monthText n) ∧ excluded = none ∧ d = .firstOfMonth n) ∨
      (∃ n, n < 120000 ∧ included = none ∧ excluded = some (monthText n) ∧
        (Date.firstOfMonth n).addDays? step = some d) ∨
      included = none ∧ excluded = none ∧ fallback = some d := by
  have hread : ∀ s, included = some s ∨ excluded = some s → (Date.read? (s ++ "-01")).isSome = true := by
    intro s hs
    obtain ⟨n, hn, rfl⟩ := hmonths s hs
    exact Option.isSome_of_eq_some (read_monthText hn)
  rcases boundOr_cases hone hread h with ⟨s, rfl, rfl, hs⟩ | ⟨s, first, rfl, rfl, hs, hmoved⟩ | hdefault
  · obtain ⟨n, hn, rfl⟩ := hmonths s (.inl rfl)
    exact .inl ⟨n, hn, rfl, rfl, Option.some.inj (hs.symm.trans (read_monthText hn))⟩
  · obtain ⟨n, hn, rfl⟩ := hmonths s (.inr rfl)
    obtain rfl := Option.some.inj (hs.symm.trans (read_monthText hn))
    exact .inr (.inl ⟨n, hn, rfl, rfl, hmoved⟩)
  · exact .inr (.inr hdefault)

/-- The first and the last month that are drawn, next to those of the bounds. -/
structure DrawsMonths (f : Facets) (first last : Int) : Prop where
  le : first ≤ last
  nonneg : 0 ≤ first
  lt : last < 120000
  minInclusive : ∀ s, f.minInclusive = some s → ∃ n, n < 120000 ∧ monthText n = s ∧ first = n
  minExclusive : ∀ s, f.minExclusive = some s → ∃ n, n < 120000 ∧ monthText n = s ∧ first = n
  maxInclusive : ∀ s, f.maxInclusive = some s → ∃ n, n < 120000 ∧ monthText n = s ∧ last = n
  maxExclusive : ∀ s, f.maxExclusive = some s → ∃ n, n < 120000 ∧ monthText n = s ∧ last < n

theorem firstMonth_spec (hf : f.HasOnlyBounds IsMonth) (hnear : NearBase base)
    (h : boundOr (fun s => Date.read? (s ++ "-01")) f.minInclusive f.minExclusive (·.addDays? 1)
      (base.addDays? (-windowDays)) = .ok d) :
    d.Exists ∧ 0 ≤ monthNumber d ∧
      (∀ s, f.minInclusive = some s → ∃ n, n < 120000 ∧ monthText n = s ∧ monthNumber d = n) ∧
        ∀ s, f.minExclusive = some s → ∃ n, n < 120000 ∧ monthText n = s ∧ monthNumber d = n := by
  have hmonths : ∀ s, f.minInclusive = some s ∨ f.minExclusive = some s → IsMonth s := by
    rintro s (h | h)
    · exact hf.literal .minInclusive s h
    · exact hf.literal .minExclusive s h
  rcases monthEnd_cases hf.one_lower hmonths h with ⟨n, hn, hincluded, hexcluded, rfl⟩ |
    ⟨n, hn, hincluded, hexcluded, hmoved⟩ | ⟨hincluded, hexcluded, hdefault⟩ <;> rw [hincluded, hexcluded]
  · have hnumber := monthNumber_firstOfMonth n
    exact ⟨(Date.firstOfMonth_fourDigit hn).toExists, by omega,
      fun s hs => ⟨n, hn, Option.some.inj hs, hnumber⟩, nofun⟩
  · obtain ⟨hexists, hnumber⟩ := monthNumber_of_next hn hmoved
    exact ⟨hexists, by omega, nofun, fun s hs => ⟨n, hn, Option.some.inj hs, hnumber⟩⟩
  · obtain ⟨hexists, hnumber⟩ := Date.addDays?_eq_some hdefault
    have hwindow := hnear.window.1
    have hyear := (hexists.le_year_iff 0).2 (by omega)
    have hmonth := hexists.one_le_month
    refine ⟨hexists, ?_, nofun, nofun⟩
    unfold monthNumber
    omega

theorem lastMonth_spec (hf : f.HasOnlyBounds IsMonth) (hnear : NearBase base)
    (h : boundOr (fun s => Date.read? (s ++ "-01")) f.maxInclusive f.maxExclusive (·.addDays? (-1))
      (base.addDays? windowDays) = .ok d) :
    d.Exists ∧ monthNumber d < 120000 ∧
      (∀ s, f.maxInclusive = some s → ∃ n, n < 120000 ∧ monthText n = s ∧ monthNumber d = n) ∧
        ∀ s, f.maxExclusive = some s → ∃ n, n < 120000 ∧ monthText n = s ∧ monthNumber d < n := by
  have hmonths : ∀ s, f.maxInclusive = some s ∨ f.maxExclusive = some s → IsMonth s := by
    rintro s (h | h)
    · exact hf.literal .maxInclusive s h
    · exact hf.literal .maxExclusive s h
  rcases monthEnd_cases hf.one_upper hmonths h with ⟨n, hn, hincluded, hexcluded, rfl⟩ |
    ⟨n, hn, hincluded, hexcluded, hmoved⟩ | ⟨hincluded, hexcluded, hdefault⟩ <;> rw [hincluded, hexcluded]
  · have hnumber := monthNumber_firstOfMonth n
    exact ⟨(Date.firstOfMonth_fourDigit hn).toExists, by omega,
      fun s hs => ⟨n, hn, Option.some.inj hs, hnumber⟩, nofun⟩
  · obtain ⟨hexists, hnumber⟩ := monthNumber_of_previous hn hmoved
    exact ⟨hexists, by omega, nofun, fun s hs => ⟨n, hn, Option.some.inj hs, hnumber⟩⟩
  · obtain ⟨hexists, hnumber⟩ := Date.addDays?_eq_some hdefault
    have hwindow := hnear.window.2
    have hyear := mt (hexists.le_year_iff 10000).1 (by omega)
    have hmonth := hexists.month_le
    refine ⟨hexists, ?_, nofun, nofun⟩
    unfold monthNumber
    omega

theorem dateRange_months (hf : f.HasOnlyBounds IsMonth) (hnear : NearBase base) {low high : Date}
    (h : dateRange f base (fun s => Date.read? (s ++ "-01")) = .ok (low, high)) :
    DrawsMonths f (monthNumber low) (monthNumber high) := by
  obtain ⟨low', hlow, h⟩ := Except.bind_eq_ok.1 h
  obtain ⟨high', hhigh, h⟩ := Except.bind_eq_ok.1 h
  split at h
  · cases h
  · rename_i hordered
    obtain ⟨rfl, rfl⟩ := Prod.mk.inj (Except.ok.inj h)
    obtain ⟨hexists, hnonneg, hminInclusive, hminExclusive⟩ := firstMonth_spec hf hnear hlow
    obtain ⟨hexists', hlt, hmaxInclusive, hmaxExclusive⟩ := lastMonth_spec hf hnear hhigh
    refine ⟨?_, hnonneg, hlt, hminInclusive, hminExclusive, hmaxInclusive, hmaxExclusive⟩
    have horder := Date.compare_dayNumber hexists hexists'
    rw [← Ordering.then_assoc, ← compare_monthNumber hexists hexists'] at horder
    have hle : compare low'.dayNumber high'.dayNumber ≠ .gt := compare_le_iff_le.2 (Int.not_lt.1 hordered)
    refine compare_le_iff_le.1 fun hgt => hle ?_
    rw [horder, hgt]
    rfl

/-- A month that is drawn satisfies the bounds unless it is the month that the lower bound excludes. -/
theorem DrawsMonths.check_eq_ok_iff (hbase : f.base = .gYearMonth) (hf : f.HasOnlyBounds IsMonth) {first last : Int}
    (h : DrawsMonths f first last) {n : Nat} (hfirst : first ≤ n) (hlast : n ≤ last)
    (isMatch : (pattern text : String) → Bool) :
    f.check (monthText n) isMatch = .ok () ↔ f.minExclusive ≠ some (monthText n) := by
  have hn : n < 120000 := by
    have hlt := h.lt
    omega
  have hform : Lexical.isValue f.base (monthText n) = true := by
    rw [hbase]
    change (Date.read? (monthText n ++ "-01")).isSome = true
    rw [read_monthText hn]
    rfl
  have hadmits : ∀ {kind : BoundKind} {m : Nat}, m < 120000 →
      (kind.allows (compareStrings (monthText n) (monthText m)) = true ↔ kind.Admits n m) := by
    intro kind m hm
    rw [compareStrings_monthText hn hm, kind.allows_compare]
  rw [hf.check_eq_ok_iff (by rw [hbase]; rfl) hform isMatch]
  constructor
  · intro hall hexcluded
    have hself : BoundKind.minExclusive.Admits n n := (hadmits hn).1 (hall .minExclusive _ hexcluded)
    exact Int.lt_irrefl _ hself
  · intro hne kind bound hbound
    cases kind with
    | minInclusive =>
        obtain ⟨m, hm, rfl, heq⟩ := h.minInclusive bound hbound
        exact (hadmits hm).2 (heq ▸ hfirst)
    | maxInclusive =>
        obtain ⟨m, hm, rfl, heq⟩ := h.maxInclusive bound hbound
        exact (hadmits hm).2 (heq ▸ hlast)
    | minExclusive =>
        obtain ⟨m, hm, rfl, heq⟩ := h.minExclusive bound hbound
        have hdifferent : n ≠ m := fun hsame => hne (hsame ▸ hbound)
        refine (hadmits hm).2 ?_
        change (m : Int) < n
        omega
    | maxExclusive =>
        obtain ⟨m, hm, rfl, hlt⟩ := h.maxExclusive bound hbound
        exact (hadmits hm).2 (Int.lt_of_le_of_lt hlast hlt)

/-! ## What the generator gives -/

theorem gYearMonth_outcome (libraries : Libraries) (leaf : Leaf) (rng : Rng) :
    PrimitiveGenerator.gYearMonth.outcome libraries leaf rng =
      (dateRange leaf.facets leaf.baseDate fun s => Date.read? (s ++ "-01")).bind fun range =>
        let n := (Draw.range .w32 (monthNumber range.1) (monthNumber range.2) rng).1
        .ok (paddedInt 4 (n / 12) ++ "-" ++ paddedInt 2 (n % 12 + 1)) :=
  run_except _ _ _

theorem paddedInt_monthText (n : Nat) :
    paddedInt 4 ((n : Int) / 12) ++ "-" ++ paddedInt 2 ((n : Int) % 12 + 1) = monthText n := by
  rw [paddedInt_of_nonneg (by omega), paddedInt_of_nonneg (by omega)]
  rfl

theorem outcome_spec (leaf : Leaf) (hf : leaf.facets.HasOnlyBounds IsMonth) (hnear : NearBase leaf.baseDate)
    {low high : Date} (h : dateRange leaf.facets leaf.baseDate (fun s => Date.read? (s ++ "-01")) = .ok (low, high))
    (libraries : Libraries) (rng : Rng) :
    ∃ n : Nat, PrimitiveGenerator.gYearMonth.outcome libraries leaf rng = .ok (monthText n) ∧
      (Draw.range .w32 (monthNumber low) (monthNumber high) rng).1 = n ∧ monthNumber low ≤ n ∧
        n ≤ monthNumber high := by
  have hdraws := dateRange_months hf hnear h
  have hle := hdraws.le
  have hnonneg := hdraws.nonneg
  have hlt := hdraws.lt
  have hfits : monthNumber high - monthNumber low + 1 = (Nat.pow 2 Draw.Width.w32.bits : Nat) →
      monthNumber low = 0 := by
    change _ = (4294967296 : Int) → _
    omega
  obtain ⟨hlow, hhigh⟩ := Draw.range_mem .w32 hle hfits rng
  obtain ⟨n, hn⟩ := Int.eq_ofNat_of_zero_le (Int.le_trans hnonneg hlow)
  rw [hn] at hlow hhigh
  refine ⟨n, ?_, hn, hlow, hhigh⟩
  rw [gYearMonth_outcome, h]
  dsimp only [Except.bind]
  rw [hn, paddedInt_monthText]

/-- A stream whose next word is zero gives the first number of a range. -/
theorem range_of_zero {low high : Int} (hne : high - low + 1 ≠ (Nat.pow 2 Draw.Width.w32.bits : Nat)) (rng : Rng) :
    (Draw.range .w32 low high { rng with pending := [0] }).1 = low := by
  have hword : Draw.word .w32 { rng with pending := [0] } = (0, { rng with pending := [] }) := rfl
  simp only [Draw.range, if_neg hne, Draw.bind_apply, Draw.pure_apply, Draw.below, hword]
  simp [Draw.pure_apply]

/-- The generator of months honours what it is given, except that it may give the month that the lower bound excludes:
a value violates the bounds exactly if it is that month.  So all bounds are honoured exactly if no month is excluded
below, or if no month is given at all. -/
theorem month_bounds_honoured_iff (f : Facets) (hbase : f.base = .gYearMonth) (hf : f.HasOnlyBounds IsMonth)
    (name path : String) (baseDate : Date) (hvalid : baseDate.isValid = true) (hfirst : 1 ≤ baseDate.year)
    (hlast : baseDate.year ≤ 9990) (libraries : Libraries) :
    (∀ rng value, (Generator.forFacets f).outcome libraries ⟨name, path, f, baseDate⟩ rng = .ok value →
      (f.check value libraries.isMatch = .ok () ↔ f.minExclusive ≠ some value)) ∧
    ((∀ rng value, (Generator.forFacets f).outcome libraries ⟨name, path, f, baseDate⟩ rng = .ok value →
        f.check value libraries.isMatch = .ok ()) ↔
      f.minExclusive = none ∨
        ∀ rng, ∃ e, (Generator.forFacets f).outcome libraries ⟨name, path, f, baseDate⟩ rng = .error e) := by
  have hnear : NearBase baseDate := ⟨((Date.isValid_iff baseDate).1 hvalid).1, hfirst, hlast⟩
  have hgenerator : Generator.forFacets f = .gYearMonth := by
    rw [hf.only_bounds, hbase]
    rfl
  rw [hgenerator]
  cases hrange : dateRange f baseDate fun s => Date.read? (s ++ "-01") with
  | error e =>
      have hrefused : ∀ rng,
          PrimitiveGenerator.gYearMonth.outcome libraries ⟨name, path, f, baseDate⟩ rng = .error e := by
        intro rng
        rw [gYearMonth_outcome, hrange]
        rfl
      refine ⟨fun rng value h => ?_, iff_of_true (fun rng value h => ?_) (.inr fun rng => ⟨e, hrefused rng⟩)⟩
      · cases (hrefused rng).symm.trans h
      · cases (hrefused rng).symm.trans h
  | ok range =>
      obtain ⟨low, high⟩ := range
      have hdraws := dateRange_months hf hnear hrange
      have hgiven := outcome_spec ⟨name, path, f, baseDate⟩ hf hnear hrange libraries
      have hcheck : ∀ rng value,
          PrimitiveGenerator.gYearMonth.outcome libraries ⟨name, path, f, baseDate⟩ rng = .ok value →
            (f.check value libraries.isMatch = .ok () ↔ f.minExclusive ≠ some value) := by
        intro rng value h
        obtain ⟨n, houtcome, -, hlow, hhigh⟩ := hgiven rng
        obtain rfl := Except.ok.inj (houtcome.symm.trans h)
        exact hdraws.check_eq_ok_iff hbase hf hlow hhigh _
      refine ⟨hcheck, fun hall => .inl ?_, ?_⟩
      · -- A stream that begins with zero gives the first month, which is the excluded one.
        by_contra hsome
        obtain ⟨s, hs⟩ := Option.ne_none_iff_exists'.1 hsome
        obtain ⟨m, hm, rfl, hfirst⟩ := hdraws.minExclusive s hs
        obtain ⟨n, houtcome, hn, -⟩ := hgiven { (default : Rng) with pending := [0] }
        have hnonneg := hdraws.nonneg
        have hlt := hdraws.lt
        have hsame : n = m := by
          rw [range_of_zero (by change _ ≠ (4294967296 : Int); omega)] at hn
          omega
        rw [hsame] at houtcome
        exact (hcheck _ _ houtcome).1 (hall _ _ houtcome) hs
      · rintro (hnone | hrefused) rng value h
        · exact (hcheck rng value h).2 (by rw [hnone]; nofun)
        · obtain ⟨e, he⟩ := hrefused rng
          cases he.symm.trans h

/-- A month from February on and before May. -/
theorem month_bounds_honoured_spring :
    let f : Facets := { base := .gYearMonth, minInclusive := some "2024-02", maxExclusive := some "2024-05" }
    f.HasOnlyBounds IsMonth ∧ f.minExclusive = none ∧ ∃ value,
      (Generator.forFacets f).outcome .standard ⟨"month", "/month", f, ⟨2024, 1, 31⟩⟩ (Rng.ofSeed 7) = .ok value ∧
        f.check value = .ok () := by
  intro f
  have hbounds : f.HasOnlyBounds IsMonth := by
    refine ⟨rfl, .inr rfl, .inl rfl, ?_⟩
    rintro (_ | _ | _ | _) _ ⟨⟩
    · exact ⟨24289, by decide, by decide⟩
    · exact ⟨24292, by decide, by decide⟩
  have hdrawn : (Generator.forFacets f).outcome .standard ⟨"month", "/month", f, ⟨2024, 1, 31⟩⟩ (Rng.ofSeed 7) =
      .ok "2024-02" := by
    decide +kernel
  have hhonoured := month_bounds_honoured_iff f rfl hbounds "month" "/month" ⟨2024, 1, 31⟩ (by decide) (by decide)
    (by decide) .standard
  exact ⟨hbounds, rfl, _, hdrawn, hhonoured.2.2 (.inl rfl) _ _ hdrawn⟩

/-- There is no month after May and before June, but May is given. -/
theorem excluded_month_given :
    let f : Facets := { base := .gYearMonth, minExclusive := some "2024-05", maxExclusive := some "2024-06" }
    f.HasOnlyBounds IsMonth ∧
      (Generator.forFacets f).outcome .standard ⟨"month", "/month", f, ⟨2024, 1, 1⟩⟩ (Rng.ofSeed 7) = .ok "2024-05" ∧
        f.check "2024-05" = .error (.bound "2024-05" .minExclusive "2024-05") := by
  intro f
  refine ⟨⟨rfl, .inl rfl, .inl rfl, ?_⟩, by decide +kernel, by decide +kernel⟩
  rintro (_ | _ | _ | _) _ ⟨⟩
  · exact ⟨24292, by decide, by decide⟩
  · exact ⟨24293, by decide, by decide⟩

end Generate

end Specimen
