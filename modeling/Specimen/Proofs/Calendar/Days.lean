import Mathlib.Data.Int.Order.Basic
import Mathlib.Data.Nat.Basic
import Mathlib.Order.Compare
import Mathlib.Order.Lattice
import Specimen.Calendar.Date

/-!
# Days and seconds

Days are numbered without gaps: every number is that of a day which exists, and dates are in the order of their
numbers.  What is shifted by a number of days or of seconds has a number that is shifted by as much.
-/

namespace Specimen

/-! ## Orders of several parts -/

/-- Two values that are compared by one part first, and by the rest when this part is the same. -/
theorem compare_eq_then {α γ : Type} [LinearOrder α] [LinearOrder γ] {a b : α} {u v : γ} {rest : Ordering}
    (hlt : a < b → u < v) (hgt : b < a → v < u) (heq : a = b → compare u v = rest) :
    compare u v = (compare a b).then rest := by
  rcases lt_trichotomy a b with h | h | h
  · rw [compare_lt_iff_lt.2 h, compare_lt_iff_lt.2 (hlt h)]
    rfl
  · rw [compare_eq_iff_eq.2 h, heq h]
    rfl
  · rw [compare_gt_iff_gt.2 h, compare_gt_iff_gt.2 (hgt h)]
    rfl

/-- Two values that are in the same order as a part of them. -/
theorem compare_eq_of_lt {α γ : Type} [LinearOrder α] [LinearOrder γ] {a b : α} {u v : γ} (hlt : a < b → u < v)
    (hgt : b < a → v < u) (heq : a = b → u = v) : compare u v = compare a b := by
  rw [compare_eq_then hlt hgt fun h => compare_eq_iff_eq.2 (heq h), Ordering.then_eq]

namespace Date

/-! ## Years -/

def yearLength (year : Int) : Int := if isLeapYear year then 366 else 365

theorem isLeapYear_iff (year : Int) :
    isLeapYear year = true ↔ year % 4 = 0 ∧ (year % 100 ≠ 0 ∨ year % 400 = 0) := by
  simp [isLeapYear]

theorem daysBeforeYear_succ (year : Int) : daysBeforeYear (year + 1) = daysBeforeYear year + yearLength year := by
  unfold daysBeforeYear yearLength
  split
  · rename_i hleap
    have hparts := (isLeapYear_iff year).1 hleap
    omega
  · rename_i hleap
    have hparts := mt (isLeapYear_iff year).2 hleap
    omega

theorem daysBeforeYear_lt {a b : Int} (h : a < b) : daysBeforeYear a + yearLength a ≤ daysBeforeYear b := by
  rw [← daysBeforeYear_succ]
  unfold daysBeforeYear
  rcases Int.lt_or_eq_of_le (Int.add_one_le_of_lt h) with hlt | rfl
  · omega
  · exact Int.le_refl _

/-! ## Months -/

theorem daysBeforeMonth_one (year : Int) : daysBeforeMonth year 1 = 0 := rfl

theorem daysBeforeMonth_succ (year : Int) {month : Nat} (h : 1 ≤ month) :
    daysBeforeMonth year (month + 1) = daysBeforeMonth year month + daysInMonth year month := by
  obtain ⟨m, rfl⟩ := Nat.exists_eq_add_of_le' h
  unfold daysBeforeMonth
  rw [Nat.add_sub_cancel, Nat.add_sub_cancel, List.range_succ, List.foldl_append]
  rfl

/-- The months of a year have all its days. -/
theorem daysBeforeMonth_end (year : Int) : (daysBeforeMonth year 13 : Int) = yearLength year := by
  unfold yearLength
  cases hleap : isLeapYear year <;> simp [daysBeforeMonth, List.range_succ, daysInMonth, hleap]

theorem daysBeforeMonth_lt (year : Int) {a b : Nat} (ha : 1 ≤ a) (h : a < b) :
    daysBeforeMonth year a + daysInMonth year a ≤ daysBeforeMonth year b := by
  obtain ⟨k, rfl⟩ := Nat.exists_eq_add_of_le h
  induction k with
  | zero => exact Nat.le_of_eq (daysBeforeMonth_succ year ha).symm
  | succ k ih =>
      have hstep := daysBeforeMonth_succ year (by omega : 1 ≤ a.succ + k)
      have hrest := ih (by omega)
      rw [← Nat.add_assoc]
      omega

/-! ## Numbers of days -/

/-- A day that exists, in any year. -/
structure Exists (d : Date) : Prop where
  one_le_month : 1 ≤ d.month
  month_le : d.month ≤ 12
  one_le_day : 1 ≤ d.day
  day_le : d.day ≤ daysInMonth d.year d.month

theorem isValid_iff (d : Date) : d.isValid = true ↔ d.Exists ∧ firstYear ≤ d.year ∧ d.year ≤ lastYear := by
  simp only [isValid, Bool.and_eq_true, decide_eq_true_eq]
  constructor
  · rintro ⟨⟨⟨⟨⟨hfirst, hlast⟩, hmonth⟩, hmonth'⟩, hday⟩, hday'⟩
    exact ⟨⟨hmonth, hmonth', hday, hday'⟩, hfirst, hlast⟩
  · rintro ⟨⟨hmonth, hmonth', hday, hday'⟩, hfirst, hlast⟩
    exact ⟨⟨⟨⟨⟨hfirst, hlast⟩, hmonth⟩, hmonth'⟩, hday⟩, hday'⟩

/-- A day lies in its year. -/
theorem Exists.dayNumber_mem {d : Date} (h : d.Exists) :
    daysBeforeYear d.year ≤ d.dayNumber ∧ d.dayNumber < daysBeforeYear d.year + yearLength d.year := by
  obtain ⟨hmonth, hmonth', hday, hday'⟩ := h
  have hmonthEnd := daysBeforeMonth_lt d.year hmonth (by omega : d.month < 13)
  have hyearEnd := daysBeforeMonth_end d.year
  unfold dayNumber
  omega

/-- The first of January of a year comes before the days of this year and of later ones. -/
theorem Exists.le_year_iff {d : Date} (h : d.Exists) (year : Int) :
    year ≤ d.year ↔ daysBeforeYear year ≤ d.dayNumber := by
  obtain ⟨hfirst, hlast⟩ := h.dayNumber_mem
  constructor
  · intro hle
    rcases Int.lt_or_eq_of_le hle with hlt | rfl
    · have hstep := daysBeforeYear_lt hlt
      have hpositive : 0 < yearLength year := by
        unfold yearLength
        split <;> decide
      omega
    · exact hfirst
  · intro hle
    by_contra hlt
    have hstep := daysBeforeYear_lt (Int.not_le.1 hlt)
    omega

/-- Days are numbered in the order of their years, months and days of the month. -/
theorem compare_dayNumber {a b : Date} (ha : a.Exists) (hb : b.Exists) :
    compare a.dayNumber b.dayNumber =
      (compare a.year b.year).then ((compare a.month b.month).then (compare a.day b.day)) := by
  have hyear : ∀ {c d : Date}, c.Exists → d.Exists → c.year < d.year → c.dayNumber < d.dayNumber := by
    intro c d hc hd hlt
    have hstep := daysBeforeYear_lt hlt
    have hbefore := hc.dayNumber_mem.2
    have hafter := hd.dayNumber_mem.1
    omega
  have hmonth : ∀ {c d : Date}, c.Exists → d.Exists → c.year = d.year → c.month < d.month →
      c.dayNumber < d.dayNumber := by
    intro c d hc hd hsame hlt
    have hstep := daysBeforeMonth_lt c.year hc.one_le_month hlt
    have hday := hc.day_le
    have hday' := hd.one_le_day
    unfold dayNumber
    rw [← hsame]
    omega
  refine compare_eq_then (hyear ha hb) (hyear hb ha) fun hsameYear => ?_
  refine compare_eq_then (hmonth ha hb hsameYear) (hmonth hb ha hsameYear.symm) fun hsameMonth => ?_
  unfold dayNumber
  rw [hsameYear, hsameMonth]
  exact compare_eq_of_lt (fun h => by omega) (fun h => by omega) fun h => by omega

/-- The last number of a range that satisfies a condition. -/
theorem find?_reverse_range {p : Nat → Bool} {count m : Nat} (h : (List.range count).reverse.find? p = some m) :
    m < count ∧ p m = true ∧ ∀ k, m < k → k < count → p k = false := by
  induction count with
  | zero => cases h
  | succ count ih =>
      rw [List.range_succ, List.reverse_concat, List.find?_cons] at h
      split at h
      · rename_i hp
        obtain rfl := Option.some.inj h
        exact ⟨Nat.lt_succ_self count, hp, fun k hk hk' => absurd hk (Nat.not_lt.2 (Nat.le_of_lt_succ hk'))⟩
      · rename_i hp
        obtain ⟨hlt, hm, hlast⟩ := ih h
        refine ⟨Nat.lt_succ_of_lt hlt, hm, fun k hk hk' => ?_⟩
        rcases Nat.lt_succ_iff_lt_or_eq.1 hk' with hk' | rfl
        · exact hlast k hk hk'
        · exact hp

/-- The year that is guessed from a number of days is at most two years too early. -/
theorem guess_spec (n : Int) :
    daysBeforeYear (n * 400 / 146097) ≤ n ∧ n < daysBeforeYear (n * 400 / 146097 + 3) := by
  unfold daysBeforeYear
  omega

/-- Every number is that of a day. -/
theorem ofDayNumber_spec (n : Int) : (ofDayNumber n).Exists ∧ (ofDayNumber n).dayNumber = n := by
  obtain ⟨hguess, hguess'⟩ := guess_spec n
  unfold ofDayNumber
  dsimp only
  generalize n * 400 / 146097 = guess at hguess hguess' ⊢
  generalize hyear : (if n < daysBeforeYear (guess + 1) then guess
    else if n < daysBeforeYear (guess + 2) then guess + 1 else guess + 2) = year
  have hmem : daysBeforeYear year ≤ n ∧ n < daysBeforeYear (year + 1) := by
    split at hyear
    · subst hyear
      exact ⟨hguess, by assumption⟩
    · rename_i hnext
      split at hyear
      · subst hyear
        rw [Int.add_assoc]
        exact ⟨Int.not_lt.1 hnext, by assumption⟩
      · rename_i hnext
        subst hyear
        rw [Int.add_assoc]
        exact ⟨Int.not_lt.1 hnext, hguess'⟩
  rw [daysBeforeYear_succ, ← daysBeforeMonth_end] at hmem
  have hrest : ((n - daysBeforeYear year).toNat : Int) = n - daysBeforeYear year := Int.toNat_of_nonneg (by omega)
  generalize (n - daysBeforeYear year).toNat = rest at hrest ⊢
  cases hmonth : (List.range 12).reverse.find? fun m => decide (daysBeforeMonth year (m + 1) ≤ rest) with
  | none =>
      have hzero := List.find?_eq_none.1 hmonth 0 (by decide)
      simp [daysBeforeMonth_one] at hzero
  | some m =>
      obtain ⟨hlt, hle, hlast⟩ := find?_reverse_range hmonth
      have hbefore : daysBeforeMonth year (m + 1) ≤ rest := of_decide_eq_true hle
      have hafter : rest < daysBeforeMonth year (m + 1 + 1) := by
        rcases Nat.lt_or_eq_of_le (Nat.le_of_lt_succ hlt) with hinside | rfl
        · exact Nat.not_le.1 (of_decide_eq_false (hlast (m + 1) (Nat.lt_succ_self m) (by omega)))
        · change rest < daysBeforeMonth year 13
          omega
      rw [daysBeforeMonth_succ year (Nat.le_add_left 1 m)] at hafter
      rw [Option.getD_some]
      refine ⟨⟨Nat.le_add_left 1 m, hlt, Nat.le_add_left 1 _, ?_⟩, ?_⟩
      · dsimp only
        omega
      · unfold dayNumber
        dsimp only
        omega

theorem addDays?_eq_some {d shifted : Date} {days : Int} (h : d.addDays? days = some shifted) :
    shifted.Exists ∧ shifted.dayNumber = d.dayNumber + days := by
  unfold addDays? at h
  dsimp only at h
  split at h
  · obtain rfl := Option.some.inj h
    exact ofDayNumber_spec _
  · cases h

end Date

/-! ## Moments -/

namespace Moment

/-- A moment of a day that exists, which is no leap second. -/
structure Regular (m : Moment) : Prop where
  date : m.date.Exists
  second_lt : m.time.second < 86400
  not_leap : m.time.isLeap = false

/-- The number of seconds between the beginning of the year 1 and a moment. -/
def number (m : Moment) : Int := m.date.dayNumber * 86400 + m.time.second

variable {a b m : Moment}

/-- Seconds are numbered in the order of their days and of the seconds of the day. -/
theorem compare_number (ha : a.Regular) (hb : b.Regular) : compare a.number b.number =
    (compare a.date.dayNumber b.date.dayNumber).then (compare a.time.second b.time.second) := by
  have hsecond := ha.second_lt
  have hsecond' := hb.second_lt
  unfold number
  refine compare_eq_then (fun h => by omega) (fun h => by omega) fun hday => ?_
  rw [hday]
  exact compare_eq_of_lt (fun h => by omega) (fun h => by omega) fun h => by omega

theorem isAfter_iff (ha : a.Regular) (hb : b.Regular) : a.isAfter b = true ↔ b.number < a.number := by
  have hsecond := ha.second_lt
  have hsecond' := hb.second_lt
  unfold isAfter number
  dsimp only
  rw [ha.not_leap]
  split
  · split
    · simp only [Bool.false_and, Bool.false_eq_true, false_iff]
      omega
    · rw [decide_eq_true_eq]
      omega
  · rw [decide_eq_true_eq]
    omega

theorem secondsSince_eq (ha : a.Regular) (hb : b.Regular) : a.secondsSince b = a.number - b.number := by
  unfold secondsSince number
  simp only [ha.not_leap, hb.not_leap, Bool.false_eq_true, and_false, if_false]
  omega

theorem addSeconds?_eq_some (hm : m.Regular) {shifted : Moment} {seconds : Int}
    (h : m.addSeconds? seconds = some shifted) :
    shifted.Regular ∧ shifted.number = m.number + seconds := by
  unfold addSeconds? at h
  split at h
  · rename_i hzero
    obtain rfl := Option.some.inj h
    exact ⟨hm, by omega⟩
  · simp only [hm.not_leap, Bool.false_and, Bool.false_eq_true, if_false] at h
    obtain ⟨date, hdate, rfl⟩ := Option.map_eq_some_iff.1 h
    obtain ⟨hexists, hnumber⟩ := Date.addDays?_eq_some hdate
    refine ⟨⟨hexists, by dsimp only; omega, rfl⟩, ?_⟩
    unfold number
    dsimp only
    rw [hnumber]
    omega

theorem addDays?_eq_some (hm : m.Regular) {shifted : Moment} {days : Int}
    (h : m.addDays? days = some shifted) :
    shifted.Regular ∧ shifted.number = m.number + days * 86400 := by
  obtain ⟨date, hdate, rfl⟩ := Option.map_eq_some_iff.1 h
  obtain ⟨hexists, hnumber⟩ := Date.addDays?_eq_some hdate
  refine ⟨⟨hexists, hm.second_lt, hm.not_leap⟩, ?_⟩
  unfold number
  dsimp only
  rw [hnumber]
  omega

end Moment

end Specimen
