import Specimen.Proofs.Calendar.Texts

/-!
# Texts of one shape

Two texts have one shape when they differ in nothing but their digits.  Such texts are read side by side: their
fields stand in the same places and have the same number of digits.  So the texts are compared by the numbers in the
first field, then by those in the second, and so on, as the points in time are that they denote.  Only a minus sign
turns the order of the years around.
-/

namespace Specimen
namespace Calendar

/-- A text with zeros for all its digits. -/
def shape (cs : List Char) : List Char := cs.map fun c => if c.isDigit then '0' else c

variable {cs ds rs ss : List Char}

theorem shape_cons_iff {c d : Char} : shape (c :: cs) = shape (d :: ds) ↔
    (c.isDigit = true ∧ d.isDigit = true ∨ c.isDigit = false ∧ c = d) ∧ shape cs = shape ds := by
  have hzero : '0'.isDigit = true := rfl
  unfold shape
  rw [List.map_cons, List.map_cons, List.cons.injEq]
  refine and_congr_left fun _ => ?_
  cases hc : c.isDigit <;> cases hd : d.isDigit
  · simp
  · simp only [Bool.false_eq_true, if_false, if_true, false_and, true_and, false_or]
    constructor <;> rintro rfl
    · exact absurd hc (by decide)
    · exact absurd (hc.symm.trans hd) (by decide)
  · simp only [Bool.false_eq_true, if_false, if_true, and_false, false_and, or_false, iff_false, reduceCtorEq]
    rintro rfl
    exact absurd hd (by decide)
  · simp

theorem length_of_shape_eq (h : shape cs = shape ds) : cs.length = ds.length := by
  have hlength := congrArg List.length h
  unfold shape at hlength
  rwa [List.length_map, List.length_map] at hlength

/-- Two texts are compared in some order by what stands at their beginnings, and by what follows it if this is the
same. -/
structure Leading (o : Ordering) (cs rs ds ss : List Char) : Prop where
  shape_eq : shape rs = shape ss
  compare_eq : List.compareLex compare cs ds = o.then (List.compareLex compare rs ss)

namespace Leading

variable {o o' : Ordering} {ts us : List Char}

theorem refl (h : shape cs = shape ds) : Leading .eq cs cs ds ds := ⟨h, Ordering.eq_then.symm⟩

theorem trans (h : Leading o cs rs ds ss) (h' : Leading o' rs ts ss us) : Leading (o.then o') cs ts ds us :=
  ⟨h'.shape_eq, by rw [h.compare_eq, h'.compare_eq, Ordering.then_assoc]⟩

/-- The text before a number decides nothing. -/
theorem after (h : Leading .eq cs rs ds ss) (h' : Leading o rs ts ss us) : Leading o cs ts ds us :=
  h.trans h'

theorem mark (c : Char) (h : shape cs = shape ds) : Leading .eq (c :: cs) cs (c :: ds) ds :=
  ⟨h, by rw [compareLex_mark, Ordering.eq_then]⟩

/-- Nothing is left of two texts that were read to their ends. -/
theorem compare_of_end (h : Leading o cs [] ds []) : List.compareLex compare cs ds = o :=
  h.compare_eq.trans Ordering.then_eq

end Leading

/-! ## Fields -/

theorem skipBlanks_leading (h : shape cs = shape ds) : Leading .eq cs (skipBlanks cs) ds (skipBlanks ds) := by
  induction cs generalizing ds with
  | nil =>
      obtain rfl := List.length_eq_zero_iff.1 (length_of_shape_eq h).symm
      exact .refl rfl
  | cons c cs ih =>
      cases ds with
      | nil => cases length_of_shape_eq h
      | cons d ds =>
          obtain ⟨hfirst, hrest⟩ := shape_cons_iff.1 h
          rcases hfirst with ⟨hc, hd⟩ | ⟨-, rfl⟩
          · have hkeep : ∀ {c : Char} (rest : List Char), c.isDigit = true → skipBlanks (c :: rest) = c :: rest :=
              fun rest hdigit => List.dropWhile_cons_of_neg (by simp [Text.isBlank_of_isDigit hdigit])
            rw [hkeep cs hc, hkeep ds hd]
            exact .refl h
          · cases hblank : Text.isBlank c with
            | true =>
                have hdrop : ∀ rest, skipBlanks (c :: rest) = skipBlanks rest :=
                  fun _ => List.dropWhile_cons_of_pos hblank
                rw [hdrop, hdrop]
                exact (Leading.mark c hrest).trans (ih hrest)
            | false =>
                have hkeep : ∀ rest, skipBlanks (c :: rest) = c :: rest :=
                  fun _ => List.dropWhile_cons_of_neg (by simp [hblank])
                rw [hkeep, hkeep]
                exact .refl h

theorem scanMark_eq_ok {mark : Char} (h : scanMark mark cs = .ok rs) : cs = mark :: rs := by
  unfold scanMark at h
  split at h
  · cases h
  · split at h
    · rename_i heq
      rw [heq, Except.ok.inj h]
    · cases h

/-- From two texts of one shape the same number of digits is read. -/
theorem scanDigits_beside {width n m n' m' : Nat} (h : shape cs = shape ds)
    (hc : scanDigits n width cs = .ok (n', rs)) (hd : scanDigits m width ds = .ok (m', ss)) :
    ∃ us vs, cs = us ++ rs ∧ ds = vs ++ ss ∧ us.length = vs.length ∧ (∀ c ∈ us, c.isDigit = true) ∧
      (∀ c ∈ vs, c.isDigit = true) ∧ n' = Nat.ofDigitChars 10 us n ∧ m' = Nat.ofDigitChars 10 vs m ∧
        shape rs = shape ss := by
  have hstop : ∀ {n n' : Nat} {cs rs : List Char}, Except.ok (n, cs) = Except.ok (ε := CalendarError) (n', rs) →
      n' = n ∧ rs = cs := fun h => ⟨(Prod.mk.inj (Except.ok.inj h)).1.symm, (Prod.mk.inj (Except.ok.inj h)).2.symm⟩
  induction cs generalizing ds width n m with
  | nil =>
      obtain rfl := List.length_eq_zero_iff.1 (length_of_shape_eq h).symm
      cases width <;>
      · obtain ⟨rfl, rfl⟩ := hstop hc
        obtain ⟨rfl, rfl⟩ := hstop hd
        exact ⟨[], [], rfl, rfl, rfl, List.forall_mem_nil _, List.forall_mem_nil _, rfl, rfl, h⟩
  | cons c cs ih =>
      cases ds with
      | nil => cases length_of_shape_eq h
      | cons d ds =>
          cases width with
          | zero =>
              obtain ⟨rfl, rfl⟩ := hstop hc
              obtain ⟨rfl, rfl⟩ := hstop hd
              exact ⟨[], [], rfl, rfl, rfl, List.forall_mem_nil _, List.forall_mem_nil _, rfl, rfl, h⟩
          | succ width =>
              obtain ⟨hfirst, hrest⟩ := shape_cons_iff.1 h
              unfold scanDigits at hc hd
              rcases hfirst with ⟨hdigit, hdigit'⟩ | ⟨hmark, rfl⟩
              · rw [if_pos hdigit] at hc
                rw [if_pos hdigit'] at hd
                dsimp only at hc hd
                split at hc
                · cases hc
                · split at hd
                  · cases hd
                  · obtain ⟨us, vs, rfl, rfl, hlength, hus, hvs, rfl, rfl, hshape⟩ := ih hrest hc hd
                    refine ⟨c :: us, d :: vs, rfl, rfl, congrArg (· + 1) hlength, List.forall_mem_cons.2 ⟨hdigit, hus⟩,
                      List.forall_mem_cons.2 ⟨hdigit', hvs⟩, ?_, ?_, hshape⟩
                    · rw [Nat.ofDigitChars_cons, Nat.mul_comm]
                    · rw [Nat.ofDigitChars_cons, Nat.mul_comm]
              · rw [if_neg (by simp [hmark])] at hc hd
                obtain ⟨rfl, rfl⟩ := hstop hc
                obtain ⟨rfl, rfl⟩ := hstop hd
                exact ⟨[], [], rfl, rfl, rfl, List.forall_mem_nil _, List.forall_mem_nil _, rfl, rfl, h⟩

theorem scanNumber_eq_ok {width n : Nat} (h : scanNumber width cs = .ok (n, rs)) :
    scanDigits 0 width cs = .ok (n, rs) := by
  unfold scanNumber at h
  split at h
  · cases h
  · split at h
    · exact h
    · cases h

theorem scanNumber_leading {width n m : Nat} (h : shape cs = shape ds) (hc : scanNumber width cs = .ok (n, rs))
    (hd : scanNumber width ds = .ok (m, ss)) : Leading (compare n m) cs rs ds ss := by
  obtain ⟨us, vs, rfl, rfl, hlength, hus, hvs, rfl, rfl, hshape⟩ :=
    scanDigits_beside h (scanNumber_eq_ok hc) (scanNumber_eq_ok hd)
  refine ⟨hshape, ?_⟩
  rw [compareLex_append hlength, Decimal.compare_ofDigits hlength hus hvs, Decimal.ofDigits_eq, Decimal.ofDigits_eq]

/-- A number is read from the digits at the beginning of a text. -/
theorem scanNumber_append {width n : Nat} (h : scanNumber width cs = .ok (n, rs)) :
    ∃ us, cs = us ++ rs ∧ ∀ c ∈ us, c.isDigit = true := by
  obtain ⟨us, -, hus, -, -, hdigits, -⟩ := scanDigits_beside rfl (scanNumber_eq_ok h) (scanNumber_eq_ok h)
  exact ⟨us, hus, hdigits⟩

theorem scanField_eq_ok {low high n : Nat} (h : scanField low high cs = .ok (n, rs)) :
    scanNumber 2 (skipBlanks cs) = .ok (n, rs) ∧ low ≤ n ∧ n ≤ high := by
  obtain ⟨⟨n', rs'⟩, hnumber, h⟩ := Except.bind_eq_ok.1 h
  dsimp only at h
  split at h
  · rename_i hrange
    obtain ⟨rfl, rfl⟩ := Prod.mk.inj (Except.ok.inj h)
    exact ⟨hnumber, hrange⟩
  · cases h

/-- No hyphen stands in the field that is read from the beginning of a text. -/
theorem scanField_append {low high n : Nat} (h : scanField low high cs = .ok (n, rs)) :
    ∃ us, cs = us ++ rs ∧ '-' ∉ us := by
  obtain ⟨us, hus, hdigits⟩ := scanNumber_append (scanField_eq_ok h).1
  refine ⟨cs.takeWhile Text.isBlank ++ us, ?_, fun hmem => ?_⟩
  · rw [List.append_assoc, ← hus]
    exact List.takeWhile_append_dropWhile.symm
  · rcases List.mem_append.1 hmem with hblank | hdigit
    · exact absurd (List.mem_takeWhile_imp hblank) (by decide)
    · exact absurd (hdigits '-' hdigit) (by decide)

theorem scanField_leading {low high n m : Nat} (h : shape cs = shape ds)
    (hc : scanField low high cs = .ok (n, rs)) (hd : scanField low high ds = .ok (m, ss)) :
    Leading (compare n m) cs rs ds ss :=
  have hskip := skipBlanks_leading h
  hskip.after (scanNumber_leading hskip.shape_eq (scanField_eq_ok hc).1 (scanField_eq_ok hd).1)

/-! ## Years -/

/-- Whether a minus sign is the first character of a text that is not blank. -/
def hasMinus (cs : List Char) : Bool := (skipBlanks cs).head? == some '-'

/-- An order that a minus sign turns around. -/
def signed (minus : Bool) (o : Ordering) : Ordering := if minus then o.swap else o

/-- How a year is read: a number behind a sign, or one of up to four digits. -/
inductive ScansYear : List Char → Int → List Char → Prop where
  | minus {cs rs : List Char} {n : Nat} (h : scanNumber cs.length cs = .ok (n, rs)) :
      ScansYear ('-' :: cs) (-(n : Int)) rs
  | plus {cs rs : List Char} {n : Nat} (h : scanNumber cs.length cs = .ok (n, rs)) : ScansYear ('+' :: cs) n rs
  | plain {cs rs : List Char} {n : Nat} (h : scanNumber 4 cs = .ok (n, rs)) (hminus : cs.head? ≠ some '-')
      (hplus : cs.head? ≠ some '+') : ScansYear cs n rs

/-- A year is read from the beginning of a text. -/
theorem ScansYear.suffix {y : Int} (h : ScansYear cs y rs) : rs <:+ cs := by
  cases h with
  | minus h =>
      obtain ⟨us, rfl, -⟩ := scanNumber_append h
      exact (List.suffix_append us rs).trans (List.suffix_cons _ _)
  | plus h =>
      obtain ⟨us, rfl, -⟩ := scanNumber_append h
      exact (List.suffix_append us rs).trans (List.suffix_cons _ _)
  | plain h =>
      obtain ⟨us, rfl, -⟩ := scanNumber_append h
      exact List.suffix_append us rs

theorem checkYear_eq_ok {year y : Int} (h : checkYear year cs = .ok (y, rs)) : year = y ∧ cs = rs := by
  unfold checkYear at h
  split at h
  · exact Prod.mk.inj (Except.ok.inj h)
  · cases h

theorem scanYear_eq_ok {year : Int} (h : scanYear cs = .ok (year, rs)) : ScansYear (skipBlanks cs) year rs := by
  unfold scanYear at h
  split at h
  · rename_i rest heq
    obtain ⟨⟨n, rest'⟩, hnumber, hcheck⟩ := Except.bind_eq_ok.1 h
    obtain ⟨rfl, rfl⟩ := checkYear_eq_ok hcheck
    rw [heq]
    exact .minus hnumber
  · rename_i rest heq
    obtain ⟨⟨n, rest'⟩, hnumber, hcheck⟩ := Except.bind_eq_ok.1 h
    obtain ⟨rfl, rfl⟩ := checkYear_eq_ok hcheck
    rw [heq]
    exact .plus hnumber
  · rename_i hminus hplus
    obtain ⟨⟨n, rest'⟩, hnumber, hcheck⟩ := Except.bind_eq_ok.1 h
    obtain ⟨rfl, rfl⟩ := checkYear_eq_ok hcheck
    refine .plain hnumber (fun hhead => ?_) fun hhead => ?_
    · obtain ⟨rest, hrest⟩ := List.head?_eq_some_iff.1 hhead
      exact hminus rest hrest
    · obtain ⟨rest, hrest⟩ := List.head?_eq_some_iff.1 hhead
      exact hplus rest hrest

theorem compare_natCast (n m : Nat) : compare (n : Int) (m : Int) = compare n m :=
  compare_eq_of_lt (fun h => by omega) (fun h => by omega) fun h => by omega

theorem compare_neg_natCast (n m : Nat) : (compare (-(n : Int)) (-(m : Int))).swap = compare n m := by
  rw [← compare_natCast]
  rcases lt_trichotomy (n : Int) m with h | h | h
  · rw [compare_lt_iff_lt.2 h, compare_gt_iff_gt.2 (Int.neg_lt_neg h)]
    rfl
  · rw [h, compare_eq_iff_eq.2 rfl, compare_eq_iff_eq.2 rfl]
    rfl
  · rw [compare_gt_iff_gt.2 h, compare_lt_iff_lt.2 (Int.neg_lt_neg h)]
    rfl

/-- A sign is the same in two texts of one shape. -/
theorem head?_of_shape_eq (h : shape cs = shape ds) {mark : Char} (hmark : mark.isDigit = false)
    (hhead : cs.head? = some mark) : ds.head? = some mark := by
  obtain ⟨rest, rfl⟩ := List.head?_eq_some_iff.1 hhead
  cases ds with
  | nil => cases length_of_shape_eq h
  | cons d ds =>
      obtain ⟨⟨hdigit, -⟩ | ⟨-, rfl⟩, -⟩ := shape_cons_iff.1 h
      · exact absurd (hmark.symm.trans hdigit) (by decide)
      · rfl

theorem ScansYear.leading {y z : Int} (h : shape cs = shape ds) (hc : ScansYear cs y rs) (hd : ScansYear ds z ss) :
    Leading (signed (cs.head? == some '-') (compare y z)) cs rs ds ss := by
  cases hc with
  | minus hn =>
      cases hd with
      | minus hm =>
          have hrest := (shape_cons_iff.1 h).2
          rw [← length_of_shape_eq hrest] at hm
          refine (Leading.mark '-' hrest).after ?_
          change Leading (compare _ _).swap _ _ _ _
          rw [compare_neg_natCast]
          exact scanNumber_leading hrest hn hm
      | plus hm => exact absurd (head?_of_shape_eq h (by decide) rfl) (by simp)
      | plain hm hminus hplus => exact absurd (head?_of_shape_eq h (by decide) rfl) hminus
  | plus hn =>
      cases hd with
      | minus hm => exact absurd (head?_of_shape_eq h (by decide) rfl) (by simp)
      | plus hm =>
          have hrest := (shape_cons_iff.1 h).2
          rw [← length_of_shape_eq hrest] at hm
          refine (Leading.mark '+' hrest).after ?_
          change Leading (compare _ _) _ _ _ _
          rw [compare_natCast]
          exact scanNumber_leading hrest hn hm
      | plain hm hminus hplus => exact absurd (head?_of_shape_eq h (by decide) rfl) hplus
  | plain hn hminus hplus =>
      cases hd with
      | minus hm => exact absurd (head?_of_shape_eq h.symm (by decide) rfl) hminus
      | plus hm => exact absurd (head?_of_shape_eq h.symm (by decide) rfl) hplus
      | plain hm _ _ =>
          rw [beq_eq_false_iff_ne.2 hminus, compare_natCast]
          exact scanNumber_leading h hn hm

theorem scanYear_leading {y z : Int} (h : shape cs = shape ds) (hc : scanYear cs = .ok (y, rs))
    (hd : scanYear ds = .ok (z, ss)) : Leading (signed (hasMinus cs) (compare y z)) cs rs ds ss :=
  have hskip := skipBlanks_leading h
  hskip.after ((scanYear_eq_ok hc).leading hskip.shape_eq (scanYear_eq_ok hd))

/-! ## Dates and times -/

/-- The parts of a date are fields with hyphens between them. -/
theorem scanDateParts_eq_ok {y : Int} {month day : Nat} (h : scanDateParts id cs = .ok ((y, month, day), rs)) :
    ∃ afterYear afterMonth, scanYear cs = .ok (y, '-' :: afterYear) ∧
      scanField 1 12 afterYear = .ok (month, '-' :: afterMonth) ∧ scanField 1 31 afterMonth = .ok (day, rs) := by
  obtain ⟨⟨_, _⟩, hyear, h⟩ := Except.bind_eq_ok.1 h
  obtain ⟨afterYear, hmark, h⟩ := Except.bind_eq_ok.1 h
  obtain ⟨⟨_, _⟩, hmonth, h⟩ := Except.bind_eq_ok.1 h
  obtain ⟨afterMonth, hmark', h⟩ := Except.bind_eq_ok.1 h
  obtain ⟨⟨_, _⟩, hday, h⟩ := Except.bind_eq_ok.1 h
  cases h
  obtain rfl := scanMark_eq_ok hmark
  obtain rfl := scanMark_eq_ok hmark'
  exact ⟨afterYear, afterMonth, hyear, hmonth, hday⟩

/-- Dates are compared by their years, months and days, in texts of one shape. -/
theorem scanDateParts_leading {y z : Int} {month day month' day' : Nat} (h : shape cs = shape ds)
    (hc : scanDateParts id cs = .ok ((y, month, day), rs)) (hd : scanDateParts id ds = .ok ((z, month', day'), ss)) :
    Leading ((signed (hasMinus cs) (compare y z)).then ((compare month month').then (compare day day')))
      cs rs ds ss := by
  obtain ⟨afterYear, afterMonth, hyear, hmonth, hday⟩ := scanDateParts_eq_ok hc
  obtain ⟨afterYear', afterMonth', hyear', hmonth', hday'⟩ := scanDateParts_eq_ok hd
  have hleadYear := scanYear_leading h hyear hyear'
  have hleadMark := Leading.mark '-' (shape_cons_iff.1 hleadYear.shape_eq).2
  have hleadMonth := scanField_leading hleadMark.shape_eq hmonth hmonth'
  have hleadMark' := Leading.mark '-' (shape_cons_iff.1 hleadMonth.shape_eq).2
  have hleadDay := scanField_leading hleadMark'.shape_eq hday hday'
  exact hleadYear.trans ((hleadMark.after hleadMonth).trans (hleadMark'.after hleadDay))

/-- A date that ends with the first of the month is that day. -/
theorem day_of_scanDateParts {y : Int} {month day : Nat}
    (h : scanDateParts id (cs ++ ['-', '0', '1']) = .ok ((y, month, day), [])) : day = 1 := by
  obtain ⟨afterYear, afterMonth, hyear, hmonth, hday⟩ := scanDateParts_eq_ok h
  have hend : ('-' :: afterMonth) <:+ cs ++ ['-', '0', '1'] := by
    obtain ⟨us, hus, -⟩ := scanField_append hmonth
    obtain ⟨ws, hws⟩ := (scanYear_eq_ok hyear).suffix.trans (List.dropWhile_suffix _)
    exact ⟨ws ++ '-' :: us, by rw [← hws, hus, List.append_assoc, List.cons_append]⟩
  have hmarks : '-' ∉ afterMonth := by
    obtain ⟨us, hus, hmarks⟩ := scanField_append hday
    rwa [hus, List.append_nil]
  have hrest : afterMonth = ['0', '1'] := by
    rcases List.suffix_or_suffix_of_suffix hend (List.suffix_append cs ['-', '0', '1']) with hsuffix | hsuffix
    · obtain heq | hsuffix := List.suffix_cons_iff.1 hsuffix
      · exact (List.cons.inj heq).2
      · exact absurd (hsuffix.subset List.mem_cons_self) (by decide)
    · obtain heq | hsuffix := List.suffix_cons_iff.1 hsuffix
      · exact (List.cons.inj heq).2.symm
      · exact absurd (hsuffix.subset List.mem_cons_self) hmarks
  rw [hrest] at hday
  exact (Prod.mk.inj (Except.ok.inj hday)).1.symm

/-- The first of the month that ends the text of a date is not its year. -/
theorem hasMinus_of_scanDateParts {y : Int} {month day : Nat}
    (h : scanDateParts id (cs ++ ['-', '0', '1']) = .ok ((y, month, day), rs)) :
    hasMinus (cs ++ ['-', '0', '1']) = hasMinus cs := by
  obtain ⟨afterYear, -, hyear, -⟩ := scanDateParts_eq_ok h
  have hskip : (cs ++ ['-', '0', '1']).dropWhile Text.isBlank = _ := List.dropWhile_append
  unfold hasMinus skipBlanks
  cases hcs : cs.dropWhile Text.isBlank with
  | cons c rest =>
      rw [hcs] at hskip
      rw [hskip]
      rfl
  | nil =>
      have hyear := scanYear_eq_ok hyear
      unfold skipBlanks at hyear
      rw [hskip, hcs] at hyear
      have hnone : ∀ us, ['0', '1'] ≠ us ++ '-' :: afterYear := fun us heq =>
        absurd (heq ▸ List.mem_append_right us List.mem_cons_self : '-' ∈ ['0', '1']) (by decide)
      cases hyear with
      | minus hnumber =>
          obtain ⟨us, hus, -⟩ := scanNumber_append hnumber
          exact absurd hus (hnone us)
      | plain _ hminus => exact absurd rfl hminus

end Calendar

/-- A time of day in half seconds; a leap second lies between the second that it belongs to and the next one. -/
def TimeOfDay.halfSecond (t : TimeOfDay) : Nat := 2 * t.second + if t.isLeap then 1 else 0

namespace Calendar

variable {cs ds rs ss : List Char}

/-- The parts of a time of day are fields with colons between them. -/
theorem scanTimeParts_eq_ok {t : TimeOfDay} (h : scanTimeParts cs = .ok (t, rs)) :
    ∃ hour minute second afterHour afterMinute, scanField 0 23 cs = .ok (hour, ':' :: afterHour) ∧
      scanField 0 59 afterHour = .ok (minute, ':' :: afterMinute) ∧ scanField 0 60 afterMinute = .ok (second, rs) ∧
        t.halfSecond = hour * 7200 + minute * 120 + if second = 60 then 119 else 2 * second := by
  obtain ⟨⟨hour, _⟩, hhour, h⟩ := Except.bind_eq_ok.1 h
  obtain ⟨afterHour, hmark, h⟩ := Except.bind_eq_ok.1 h
  obtain ⟨⟨minute, _⟩, hminute, h⟩ := Except.bind_eq_ok.1 h
  obtain ⟨afterMinute, hmark', h⟩ := Except.bind_eq_ok.1 h
  obtain ⟨⟨second, _⟩, hsecond, h⟩ := Except.bind_eq_ok.1 h
  cases h
  obtain rfl := scanMark_eq_ok hmark
  obtain rfl := scanMark_eq_ok hmark'
  refine ⟨hour, minute, second, afterHour, afterMinute, hhour, hminute, hsecond, ?_⟩
  unfold TimeOfDay.halfSecond
  split <;> simp only [Bool.false_eq_true, if_true, if_false] <;> omega

/-- A day has no more half seconds than those of its seconds. -/
theorem halfSecond_lt {t : TimeOfDay} (h : scanTimeParts cs = .ok (t, rs)) : t.halfSecond < 172800 := by
  obtain ⟨hour, minute, second, _, _, hhour, hminute, hsecond, heq⟩ := scanTimeParts_eq_ok h
  have hhourLe := (scanField_eq_ok hhour).2.2
  have hminuteLe := (scanField_eq_ok hminute).2.2
  have hsecondLe := (scanField_eq_ok hsecond).2.2
  split at heq <;> omega

/-- Times of day are compared as such in texts of one shape, leap seconds included. -/
theorem scanTimeParts_leading {t u : TimeOfDay} (h : shape cs = shape ds) (hc : scanTimeParts cs = .ok (t, rs))
    (hd : scanTimeParts ds = .ok (u, ss)) : Leading (compare t.halfSecond u.halfSecond) cs rs ds ss := by
  obtain ⟨hour, minute, second, afterHour, afterMinute, hhour, hminute, hsecond, ht⟩ := scanTimeParts_eq_ok hc
  obtain ⟨hour', minute', second', afterHour', afterMinute', hhour', hminute', hsecond', hu⟩ := scanTimeParts_eq_ok hd
  have hleadHour := scanField_leading h hhour hhour'
  have hleadMark := Leading.mark ':' (shape_cons_iff.1 hleadHour.shape_eq).2
  have hleadMinute := scanField_leading hleadMark.shape_eq hminute hminute'
  have hleadMark' := Leading.mark ':' (shape_cons_iff.1 hleadMinute.shape_eq).2
  have hleadSecond := scanField_leading hleadMark'.shape_eq hsecond hsecond'
  have hminuteLe := (scanField_eq_ok hminute).2.2
  have hminuteLe' := (scanField_eq_ok hminute').2.2
  have hsecondLe := (scanField_eq_ok hsecond).2.2
  have hsecondLe' := (scanField_eq_ok hsecond').2.2
  have hparts : compare t.halfSecond u.halfSecond =
      (compare hour hour').then ((compare minute minute').then (compare second second')) := by
    rw [ht, hu]
    refine compare_eq_then (fun h => by split <;> split <;> omega) (fun h => by split <;> split <;> omega)
      fun hsameHour => ?_
    refine compare_eq_then (fun h => by split <;> split <;> omega) (fun h => by split <;> split <;> omega)
      fun hsameMinute => ?_
    exact compare_eq_of_lt (fun h => by split <;> split <;> omega) (fun h => by split <;> split <;> omega)
      fun h => by rw [hsameHour, hsameMinute, h]
  rw [hparts]
  exact hleadHour.trans ((hleadMark.after hleadMinute).trans (hleadMark'.after hleadSecond))

end Calendar

end Specimen
