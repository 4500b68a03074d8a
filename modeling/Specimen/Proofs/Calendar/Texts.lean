import Mathlib.Data.Char
import Specimen.Proofs.Calendar.Days
import Specimen.Proofs.Decimal.Digits
import Specimen.Proofs.Except
import Specimen.Validity.Check

/-!
# Dates and times as texts

Dates and moments of the years from 0 to 9999 are read from what is written of them, and the texts are in the order
of the dates and moments: every field has its full width, and fields of one width are in the order of their numbers.
-/

namespace Specimen

/-! ## The order of texts -/

/-- Texts are compared character by character. -/
theorem compareStrings_eq (a b : String) : compareStrings a b = List.compareLex compare a.toList b.toList := by
  have hlists : ∀ xs ys : List Char, (if xs < ys then Ordering.lt else if xs = ys then .eq else .gt) =
      List.compareLex compare xs ys := by
    intro xs
    induction xs with
    | nil =>
        intro ys
        cases ys <;> rfl
    | cons x xs ih =>
        intro ys
        cases ys with
        | nil => rfl
        | cons y ys =>
            rw [List.compareLex_cons_cons, ← ih ys]
            rcases lt_trichotomy x y with h | rfl | h
            · rw [compare_lt_iff_lt.2 h, if_pos (List.cons_lt_cons_iff.2 (.inl h))]
              rfl
            · simp
            · have hnot : ¬ x :: xs < y :: ys := fun hlt => by
                rcases List.cons_lt_cons_iff.1 hlt with hlt | ⟨rfl, -⟩
                · exact absurd hlt (lt_asymm h)
                · exact lt_irrefl _ h
              have hne : x :: xs ≠ y :: ys := fun heq => by
                rw [(List.cons.inj heq).1] at h
                exact lt_irrefl _ h
              rw [compare_gt_iff_gt.2 h, if_neg hnot, if_neg hne]
              rfl
  rw [← hlists]
  unfold compareStrings
  simp only [String.lt_iff, ← String.toList_inj]

/-- Of two texts that begin with parts of one length, these parts are compared first. -/
theorem compareLex_append {xs ys : List Char} (h : xs.length = ys.length) (xs' ys' : List Char) :
    List.compareLex compare (xs ++ xs') (ys ++ ys') =
      (List.compareLex compare xs ys).then (List.compareLex compare xs' ys') := by
  induction xs generalizing ys with
  | nil =>
      obtain rfl := List.length_eq_zero_iff.1 h.symm
      rfl
  | cons x xs ih =>
      cases ys with
      | nil => cases h
      | cons y ys =>
          rw [List.cons_append, List.cons_append, List.compareLex_cons_cons, List.compareLex_cons_cons,
            ih (Nat.succ.inj h), Ordering.then_assoc]

/-- Two texts that go on with the same mark. -/
theorem compareLex_mark (mark : Char) (xs ys : List Char) :
    List.compareLex compare (mark :: xs) (mark :: ys) = List.compareLex compare xs ys := by
  rw [List.compareLex_cons_cons, compare_eq_iff_eq.2 rfl, Ordering.eq_then]

namespace Decimal

/-- Digits in the same number are in the order of the numbers that they denote. -/
theorem compare_ofDigits {xs ys : List Char} (hlength : xs.length = ys.length) (hxs : ∀ c ∈ xs, c.isDigit = true)
    (hys : ∀ c ∈ ys, c.isDigit = true) : List.compareLex compare xs ys = compare (ofDigits xs) (ofDigits ys) := by
  induction xs generalizing ys with
  | nil =>
      obtain rfl := List.length_eq_zero_iff.1 hlength.symm
      rfl
  | cons x xs ih =>
      cases ys with
      | nil => cases hlength
      | cons y ys =>
          have hsame : xs.length = ys.length := Nat.succ.inj hlength
          have hrest := fun c hc => hxs c (List.mem_cons_of_mem x hc)
          have hrest' := fun c hc => hys c (List.mem_cons_of_mem y hc)
          have hx := Text.toNat_of_isDigit (hxs x List.mem_cons_self)
          have hy := Text.toNat_of_isDigit (hys y List.mem_cons_self)
          have hdigits : ∀ {c d : Char}, 48 ≤ c.toNat → c < d → c.toNat - 48 < d.toNat - 48 := by
            intro c d hc hlt
            have hlt : c.toNat < d.toNat := hlt
            omega
          rw [List.compareLex_cons_cons, ih hsame hrest hrest', ofDigits_cons, ofDigits_cons, hsame]
          refine (compare_eq_then (fun h => ?_) (fun h => ?_) fun h => ?_).symm
          · have hlt := mul_add_lt (hsame ▸ ofDigits_lt hrest) (hdigits hx.1 h)
            omega
          · have hlt := mul_add_lt (ofDigits_lt hrest') (hdigits hy.1 h)
            omega
          · rw [h]
            exact compare_eq_of_lt (fun h => by omega) (fun h => by omega) fun h => by omega

end Decimal

/-- Numbers that are written in one width. -/
theorem compare_paddedNat {width a b : Nat} (hwidth : 0 < width) (ha : a < Nat.pow 10 width)
    (hb : b < Nat.pow 10 width) :
    List.compareLex compare (paddedNat width a).toList (paddedNat width b).toList = compare a b := by
  have hlength : (paddedNat width a).toList.length = (paddedNat width b).toList.length := by
    rw [length_paddedNat hwidth ha, length_paddedNat hwidth hb]
  rw [Decimal.compare_ofDigits hlength (isNumeral_paddedNat width a).digits (isNumeral_paddedNat width b).digits,
    ofDigits_paddedNat, ofDigits_paddedNat]

/-! ## Fields -/

namespace Calendar

theorem skipBlanks_numeral {cs : List Char} (h : Decimal.IsNumeral cs) (rest : List Char) :
    skipBlanks (cs ++ rest) = cs ++ rest := by
  cases cs with
  | nil => exact absurd rfl h.nonempty
  | cons c cs =>
      have hblank := Text.isBlank_of_isDigit (h.digits c List.mem_cons_self)
      exact List.dropWhile_cons_of_neg (by simp [hblank])

theorem scanDigits_append {cs : List Char} (hdigits : ∀ c ∈ cs, c.isDigit = true) {n : Nat}
    (hmax : Nat.ofDigitChars 10 cs n ≤ fieldMax) (rest : List Char) :
    scanDigits n cs.length (cs ++ rest) = .ok (Nat.ofDigitChars 10 cs n, rest) := by
  induction cs generalizing n with
  | nil => cases rest <;> rfl
  | cons c cs ih =>
      have hle : ∀ m, m ≤ Nat.ofDigitChars 10 cs m := by
        intro m
        rw [Nat.ofDigitChars_eq_ofDigitChars_zero]
        exact Nat.le_trans (Nat.le_mul_of_pos_left m (Nat.pow_pos (by decide))) (Nat.le_add_right _ _)
      rw [Nat.ofDigitChars_cons, Nat.mul_comm] at hmax ⊢
      rw [List.length_cons, List.cons_append]
      unfold scanDigits
      rw [if_pos (hdigits c List.mem_cons_self)]
      dsimp only
      rw [if_neg (Nat.not_lt.2 (Nat.le_trans (hle _) hmax))]
      exact ih (fun d hd => hdigits d (List.mem_cons_of_mem c hd)) hmax

/-- A number that is written in the width of a field is read from it. -/
theorem scanNumber_paddedNat {width n : Nat} (hwidth : 0 < width) (hn : n < Nat.pow 10 width)
    (hmax : n ≤ fieldMax) (rest : List Char) :
    scanNumber width ((paddedNat width n).toList ++ rest) = .ok (n, rest) := by
  have hnumeral := isNumeral_paddedNat width n
  have hvalue := ofDigits_paddedNat width n
  rw [Decimal.ofDigits_eq] at hvalue
  have hscan := scanDigits_append hnumeral.digits (hvalue.trans_le hmax) rest
  rw [hvalue, length_paddedNat hwidth hn] at hscan
  revert hscan
  cases hcs : (paddedNat width n).toList with
  | nil => exact absurd hcs hnumeral.nonempty
  | cons c cs =>
      intro hscan
      rw [List.cons_append] at hscan ⊢
      unfold scanNumber
      dsimp only
      rw [if_pos (hnumeral.digits c (hcs ▸ List.mem_cons_self)), hscan]

theorem scanField_paddedNat {low high n : Nat} (hlow : low ≤ n) (hhigh : n ≤ high) (hn : n < 100)
    (rest : List Char) : scanField low high ((paddedNat 2 n).toList ++ rest) = .ok (n, rest) := by
  have hmax : n ≤ fieldMax := Nat.le_trans (Nat.le_of_lt hn) (by decide)
  unfold scanField
  rw [skipBlanks_numeral (isNumeral_paddedNat 2 n), scanNumber_paddedNat (by decide) hn hmax]
  exact if_pos ⟨hlow, hhigh⟩

/-- A year is never refused for its size when four digits are enough for it. -/
theorem checkYear_of_lt {n : Nat} (hn : n < Nat.pow 10 4) (rest : List Char) :
    checkYear n rest = .ok ((n : Int), rest) := by
  have hword : (Nat.pow 10 4 : Int) < Nat.pow 2 31 := by decide
  unfold checkYear
  rw [if_pos ⟨by omega, by omega⟩]

theorem scanYear_paddedNat {n : Nat} (hn : n < Nat.pow 10 4) (rest : List Char) :
    scanYear ((paddedNat 4 n).toList ++ rest) = .ok ((n : Int), rest) := by
  have hnumeral := isNumeral_paddedNat 4 n
  have hmax : n ≤ fieldMax := Nat.le_trans (Nat.le_of_lt hn) (by decide)
  have hscan := scanNumber_paddedNat (by decide) hn hmax rest
  have hskip := skipBlanks_numeral hnumeral rest
  cases hcs : (paddedNat 4 n).toList with
  | nil => exact absurd hcs hnumeral.nonempty
  | cons c cs =>
      rw [hcs] at hnumeral hscan hskip
      have hminus : c ≠ '-' := hnumeral.ne_of_mem (by decide) List.mem_cons_self
      have hplus : c ≠ '+' := hnumeral.ne_of_mem (by decide) List.mem_cons_self
      rw [List.cons_append] at hscan hskip ⊢
      unfold scanYear
      rw [hskip]
      split
      · rename_i heq
        exact absurd (List.cons.inj heq).1 hminus
      · rename_i heq
        exact absurd (List.cons.inj heq).1 hplus
      · exact Except.bind_eq_ok.2 ⟨(n, rest), hscan, checkYear_of_lt hn rest⟩

theorem scanMark_cons (mark : Char) (rest : List Char) : scanMark mark (mark :: rest) = .ok rest := if_pos rfl

end Calendar

/-! ## Dates -/

namespace Date

/-- A day of the years from 0 to 9999, for which four digits are enough. -/
structure FourDigit (d : Date) : Prop extends d.Exists where
  year_nonneg : 0 ≤ d.year
  year_le : d.year ≤ 9999

/-- The days of the years from 0 to 9999 are those between two numbers. -/
theorem Exists.fourDigit_iff {d : Date} (h : d.Exists) :
    d.FourDigit ↔ daysBeforeYear 0 ≤ d.dayNumber ∧ d.dayNumber < daysBeforeYear 10000 := by
  have hfirst := h.le_year_iff 0
  have hlast := h.le_year_iff 10000
  constructor
  · rintro ⟨-, hnonneg, hle⟩
    omega
  · rintro ⟨hlow, hhigh⟩
    exact ⟨h, by omega, by omega⟩

namespace FourDigit

variable {a b d : Date}

theorem isValid (h : d.FourDigit) : d.isValid = true :=
  (isValid_iff d).2 ⟨h.toExists, Int.le_trans (by decide) h.year_nonneg, Int.le_trans h.year_le (by decide)⟩

theorem month_lt (h : d.FourDigit) : d.month < Nat.pow 10 2 := Nat.lt_of_le_of_lt h.month_le (by decide)

theorem day_le_31 (h : d.FourDigit) : d.day ≤ 31 := by
  have hmonth : daysInMonth d.year d.month ≤ 31 := by
    unfold daysInMonth
    repeat' split
    all_goals decide
  exact Nat.le_trans h.day_le hmonth

theorem day_lt (h : d.FourDigit) : d.day < Nat.pow 10 2 := Nat.lt_of_le_of_lt h.day_le_31 (by decide)

theorem year_lt (h : d.FourDigit) : d.year.natAbs < Nat.pow 10 4 := by
  have hnonneg := h.year_nonneg
  have hle := h.year_le
  change d.year.natAbs < 10000
  omega

theorem toList_text (h : d.FourDigit) : d.text.toList = (paddedNat 4 d.year.natAbs).toList ++
    '-' :: ((paddedNat 2 d.month).toList ++ '-' :: (paddedNat 2 d.day).toList) := by
  have hnonneg := h.year_nonneg
  have hle := h.year_le
  have hyear : yearText d.year = paddedNat 4 d.year.natAbs := if_pos ⟨hnonneg, by omega⟩
  have hmark : "-".toList = ['-'] := rfl
  unfold text
  rw [hyear]
  simp only [String.toList_append, List.append_assoc, hmark, List.cons_append, List.nil_append]

theorem length_text (h : d.FourDigit) : d.text.toList.length = 10 := by
  rw [h.toList_text]
  simp only [List.length_append, List.length_cons, length_paddedNat (by decide) h.year_lt,
    length_paddedNat (by decide) h.month_lt, length_paddedNat (by decide) h.day_lt]

/-- The texts of days are in the order of the days. -/
theorem compare_text (ha : a.FourDigit) (hb : b.FourDigit) :
    List.compareLex compare a.text.toList b.text.toList = compare a.dayNumber b.dayNumber := by
  have hyear : compare a.year.natAbs b.year.natAbs = compare a.year b.year := by
    have hnonneg := ha.year_nonneg
    have hnonneg' := hb.year_nonneg
    exact compare_eq_of_lt (fun h => by omega) (fun h => by omega) fun h => by omega
  rw [ha.toList_text, hb.toList_text,
    compareLex_append (by rw [length_paddedNat (by decide) ha.year_lt, length_paddedNat (by decide) hb.year_lt]),
    compareLex_mark,
    compareLex_append (by rw [length_paddedNat (by decide) ha.month_lt, length_paddedNat (by decide) hb.month_lt]),
    compareLex_mark, compare_paddedNat (by decide) ha.year_lt hb.year_lt,
    compare_paddedNat (by decide) ha.month_lt hb.month_lt, compare_paddedNat (by decide) ha.day_lt hb.day_lt, hyear,
    compare_dayNumber ha.toExists hb.toExists]

theorem scanDateParts_text (h : d.FourDigit) (rest : List Char) :
    Calendar.scanDateParts id (d.text.toList ++ rest) = .ok ((d.year, d.month, d.day), rest) := by
  have hyear : ((d.year.natAbs : Nat) : Int) = d.year := by
    have hnonneg := h.year_nonneg
    omega
  have hscanYear := Calendar.scanYear_paddedNat h.year_lt
  rw [hyear] at hscanYear
  unfold Calendar.scanDateParts
  rw [h.toList_text, List.append_assoc, List.cons_append, List.append_assoc, List.cons_append]
  refine Except.bind_eq_ok.2 ⟨_, hscanYear _, ?_⟩
  refine Except.bind_eq_ok.2 ⟨_, Calendar.scanMark_cons '-' _, ?_⟩
  refine Except.bind_eq_ok.2 ⟨_, Calendar.scanField_paddedNat h.one_le_month h.month_le h.month_lt _, ?_⟩
  refine Except.bind_eq_ok.2 ⟨_, Calendar.scanMark_cons '-' _, ?_⟩
  exact Except.bind_eq_ok.2 ⟨_, Calendar.scanField_paddedNat h.one_le_day h.day_le_31 h.day_lt _, rfl⟩

theorem dateOfParts (h : d.FourDigit) : Calendar.dateOfParts (d.year, d.month, d.day) = .ok d := by
  unfold Calendar.dateOfParts ofParts?
  dsimp only
  rw [if_pos h.isValid]

/-- A day is read from its text. -/
theorem read?_text (h : d.FourDigit) : Date.read? d.text = some d := by
  have hscan := h.scanDateParts_text []
  rw [List.append_nil] at hscan
  exact toOption_eq_some.2 (Except.bind_eq_ok.2 ⟨_, hscan, Except.bind_eq_ok.2 ⟨(), rfl, h.dateOfParts⟩⟩)

end FourDigit

end Date

/-! ## Times of day and moments -/

namespace TimeOfDay

variable {second other : Nat}

theorem toList_text (second : Nat) : (text ⟨second, false⟩).toList = (paddedNat 2 (second / 3600)).toList ++
    ':' :: ((paddedNat 2 (second % 3600 / 60)).toList ++ ':' :: (paddedNat 2 (second % 60)).toList) := by
  have hmark : ":".toList = [':'] := rfl
  unfold text
  simp only [Bool.false_eq_true, if_false, Nat.add_zero, String.toList_append, List.append_assoc, hmark,
    List.cons_append, List.nil_append]

/-- The texts of times of day are in the order of the times. -/
theorem compare_text (h : second < 86400) (h' : other < 86400) :
    List.compareLex compare (text ⟨second, false⟩).toList (text ⟨other, false⟩).toList = compare second other := by
  have hhundred : Nat.pow 10 2 = 100 := rfl
  have hhour : ∀ {n}, n < 86400 → n / 3600 < Nat.pow 10 2 := fun h => by omega
  have hminute : ∀ n, n % 3600 / 60 < Nat.pow 10 2 := fun n => by omega
  have hsecond : ∀ n, n % 60 < Nat.pow 10 2 := fun n => by omega
  have hparts : compare second other = (compare (second / 3600) (other / 3600)).then
      ((compare (second % 3600 / 60) (other % 3600 / 60)).then (compare (second % 60) (other % 60))) := by
    refine compare_eq_then (fun h => by omega) (fun h => by omega) fun hsameHour => ?_
    refine compare_eq_then (fun h => by omega) (fun h => by omega) fun hsameMinute => ?_
    exact compare_eq_of_lt (fun h => by omega) (fun h => by omega) fun h => by omega
  rw [toList_text, toList_text,
    compareLex_append (by rw [length_paddedNat (by decide) (hhour h), length_paddedNat (by decide) (hhour h')]),
    compareLex_mark,
    compareLex_append (by rw [length_paddedNat (by decide) (hminute _), length_paddedNat (by decide) (hminute _)]),
    compareLex_mark, compare_paddedNat (by decide) (hhour h) (hhour h'),
    compare_paddedNat (by decide) (hminute _) (hminute _), compare_paddedNat (by decide) (hsecond _) (hsecond _),
    hparts]

theorem scanTimeParts_text (h : second < 86400) (rest : List Char) :
    Calendar.scanTimeParts ((text ⟨second, false⟩).toList ++ rest) = .ok (⟨second, false⟩, rest) := by
  have hhour : second / 3600 ≤ 23 := by omega
  have hminute : second % 3600 / 60 ≤ 59 := by omega
  have hlast : second % 60 ≤ 60 := by omega
  have hne : second % 60 ≠ 60 := by omega
  have hwhole : second / 3600 * 3600 + second % 3600 / 60 * 60 + second % 60 = second := by omega
  unfold Calendar.scanTimeParts
  rw [toList_text, List.append_assoc, List.cons_append, List.append_assoc, List.cons_append]
  refine Except.bind_eq_ok.2 ⟨_, Calendar.scanField_paddedNat (Nat.zero_le _) hhour (by omega) _, ?_⟩
  refine Except.bind_eq_ok.2 ⟨_, Calendar.scanMark_cons ':' _, ?_⟩
  refine Except.bind_eq_ok.2 ⟨_, Calendar.scanField_paddedNat (Nat.zero_le _) hminute (by omega) _, ?_⟩
  refine Except.bind_eq_ok.2 ⟨_, Calendar.scanMark_cons ':' _, ?_⟩
  refine Except.bind_eq_ok.2 ⟨_, Calendar.scanField_paddedNat (Nat.zero_le _) hlast (by omega) _, ?_⟩
  dsimp only
  rw [if_neg hne, hwhole]
  rfl

end TimeOfDay

namespace Moment

/-- A moment of the years from 0 to 9999, which is no leap second. -/
structure FourDigit (m : Moment) : Prop extends m.Regular where
  fourDigit : m.date.FourDigit

/-- The moments of the years from 0 to 9999 are those between two numbers. -/
theorem Regular.fourDigit_iff {m : Moment} (h : m.Regular) : m.FourDigit ↔
    Date.daysBeforeYear 0 * 86400 ≤ m.number ∧ m.number < Date.daysBeforeYear 10000 * 86400 := by
  have hdate := h.date.fourDigit_iff
  have hsecond := h.second_lt
  unfold number
  constructor
  · rintro ⟨-, hfourDigit⟩
    have hday := hdate.1 hfourDigit
    omega
  · rintro ⟨hlow, hhigh⟩
    exact ⟨h, hdate.2 ⟨by omega, by omega⟩⟩

namespace FourDigit

variable {a b m : Moment}

theorem time_eq (h : m.FourDigit) : m.time = ⟨m.time.second, false⟩ := by
  have hleap := h.not_leap
  rcases m with ⟨date, second, leap⟩
  rw [show leap = false from hleap]

theorem toList_text (h : m.FourDigit) :
    m.text.toList = m.date.text.toList ++ 'T' :: (TimeOfDay.text ⟨m.time.second, false⟩).toList := by
  have hmark : "T".toList = ['T'] := rfl
  unfold text
  rw [← h.time_eq, String.toList_append, String.toList_append, List.append_assoc, hmark, List.cons_append,
    List.nil_append]

/-- The texts of moments are in the order of the moments. -/
theorem compare_text (ha : a.FourDigit) (hb : b.FourDigit) :
    List.compareLex compare a.text.toList b.text.toList = compare a.number b.number := by
  rw [ha.toList_text, hb.toList_text,
    compareLex_append (by rw [ha.fourDigit.length_text, hb.fourDigit.length_text]), compareLex_mark,
    ha.fourDigit.compare_text hb.fourDigit, TimeOfDay.compare_text ha.second_lt hb.second_lt,
    compare_number ha.toRegular hb.toRegular]

/-- A moment is read from its text. -/
theorem read?_text (h : m.FourDigit) : Moment.read? m.text = some m := by
  have hdate := h.fourDigit.scanDateParts_text ('T' :: (TimeOfDay.text ⟨m.time.second, false⟩).toList)
  have htime := TimeOfDay.scanTimeParts_text h.second_lt []
  rw [List.append_nil, ← h.time_eq] at htime
  rw [← h.toList_text] at hdate
  refine toOption_eq_some.2 (Except.bind_eq_ok.2 ⟨_, hdate, ?_⟩)
  refine Except.bind_eq_ok.2 ⟨_, Calendar.scanMark_cons 'T' _, ?_⟩
  rw [← h.time_eq]
  refine Except.bind_eq_ok.2 ⟨_, htime, ?_⟩
  exact Except.bind_eq_ok.2 ⟨(), rfl, Except.bind_eq_ok.2 ⟨_, h.fourDigit.dateOfParts, rfl⟩⟩

end FourDigit

end Moment

end Specimen
