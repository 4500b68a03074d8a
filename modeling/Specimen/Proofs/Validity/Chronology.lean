import Specimen.Generator.Primitive
import Specimen.Proofs.Calendar.Shapes
import Specimen.Proofs.Validity.Facets

/-!
# Texts and the points in time that they denote

A value of a type of points in time is compared with a bound as a text.  For texts of one shape this is the order of
the points in time, as long as no minus sign stands before years that differ: it turns the order of the years around,
but not that of their digits.  Texts of other shapes need not be in the order of what they denote: a year of five
digits comes before one of four.
-/

namespace Specimen

open Calendar (shape hasMinus signed Leading)

/-! ## What is read from a text -/

namespace Calendar

theorem checkEnd_eq_ok {rest : List Char} (h : checkEnd rest = .ok ()) : rest = [] := by
  unfold checkEnd at h
  split at h
  · exact List.isEmpty_iff.1 ‹_›
  · cases h

theorem dateOfParts_eq_ok {parts : Int × Nat × Nat} {d : Date} (h : dateOfParts parts = .ok d) :
    parts = (d.year, d.month, d.day) ∧ d.isValid = true := by
  unfold dateOfParts Date.ofParts? at h
  dsimp only at h
  split at h
  · rename_i heq
    split at heq
    · obtain rfl := Except.ok.inj h
      obtain rfl := Option.some.inj heq
      exact ⟨rfl, ‹_›⟩
    · cases heq
  · cases h

end Calendar

theorem Date.read?_eq_some {s : String} {d : Date} (h : Date.read? s = some d) :
    Calendar.scanDateParts id s.toList = .ok ((d.year, d.month, d.day), []) ∧ d.Exists := by
  obtain ⟨⟨parts, rest⟩, hparts, h⟩ := Except.bind_eq_ok.1 (toOption_eq_some.1 h)
  obtain ⟨⟨⟩, hend, h⟩ := Except.bind_eq_ok.1 h
  obtain rfl := Calendar.checkEnd_eq_ok hend
  obtain ⟨rfl, hvalid⟩ := Calendar.dateOfParts_eq_ok h
  exact ⟨hparts, ((isValid_iff d).1 hvalid).1⟩

theorem TimeOfDay.read?_eq_some {s : String} {t : TimeOfDay} (h : TimeOfDay.read? s = some t) :
    Calendar.scanTimeParts s.toList = .ok (t, []) := by
  obtain ⟨⟨time, rest⟩, htime, h⟩ := Except.bind_eq_ok.1 (toOption_eq_some.1 h)
  obtain ⟨⟨⟩, hend, h⟩ := Except.bind_eq_ok.1 h
  obtain rfl := Calendar.checkEnd_eq_ok hend
  cases h
  exact htime

theorem Moment.read?_eq_some {s : String} {m : Moment} (h : Moment.read? s = some m) :
    m.date.Exists ∧ ∃ afterMark,
      Calendar.scanDateParts id s.toList = .ok ((m.date.year, m.date.month, m.date.day), 'T' :: afterMark) ∧
        Calendar.scanTimeParts afterMark = .ok (m.time, []) := by
  obtain ⟨⟨parts, rest⟩, hparts, h⟩ := Except.bind_eq_ok.1 (toOption_eq_some.1 h)
  obtain ⟨afterMark, hmark, h⟩ := Except.bind_eq_ok.1 h
  obtain ⟨⟨time, rest⟩, htime, h⟩ := Except.bind_eq_ok.1 h
  obtain ⟨⟨⟩, hend, h⟩ := Except.bind_eq_ok.1 h
  obtain ⟨date, hdate, h⟩ := Except.bind_eq_ok.1 h
  cases h
  obtain rfl := Calendar.scanMark_eq_ok hmark
  obtain rfl := Calendar.checkEnd_eq_ok hend
  obtain ⟨rfl, hvalid⟩ := Calendar.dateOfParts_eq_ok hdate
  exact ⟨((Date.isValid_iff date).1 hvalid).1, afterMark, hparts, htime⟩

namespace Decimal

/-- How an integer is read: digits, with or without a sign. -/
inductive ReadsInt : List Char → Int → Prop where
  | minus {cs : List Char} (h : IsNumeral cs) : ReadsInt ('-' :: cs) (-(ofDigits cs : Int))
  | plus {cs : List Char} (h : IsNumeral cs) : ReadsInt ('+' :: cs) (ofDigits cs)
  | plain {cs : List Char} (h : IsNumeral cs) : ReadsInt cs (ofDigits cs)

theorem readNat?_eq_some {cs : List Char} {n : Nat} (h : readNat? cs = some n) : IsNumeral cs ∧ ofDigits cs = n := by
  unfold readNat? at h
  split at h
  · rename_i hdigits
    rw [Bool.and_eq_true, Bool.not_eq_true', List.isEmpty_eq_false_iff, List.all_eq_true] at hdigits
    exact ⟨⟨hdigits.1, hdigits.2⟩, Option.some.inj h⟩
  · cases h

theorem readInt?_eq_some {cs : List Char} {n : Int} (h : readInt? cs = some n) : ReadsInt cs n := by
  unfold readInt? at h
  split at h
  · obtain ⟨k, hk, rfl⟩ := Option.map_eq_some_iff.1 h
    obtain ⟨hnumeral, rfl⟩ := readNat?_eq_some hk
    exact .plus hnumeral
  · obtain ⟨_, hcast, rfl⟩ := Option.map_eq_some_iff.1 h
    obtain ⟨k, hk, hcast⟩ := Option.bind_eq_some_iff.1 hcast
    obtain rfl := Option.some.inj hcast
    obtain ⟨hnumeral, rfl⟩ := readNat?_eq_some hk
    exact .minus hnumeral
  · obtain ⟨k, hk, rfl⟩ := Option.map_eq_some_iff.1 h
    obtain ⟨hnumeral, rfl⟩ := readNat?_eq_some hk
    exact .plain hnumeral

theorem IsNumeral.head_ne {cs : List Char} (h : IsNumeral cs) {mark : Char} (hmark : mark.isDigit = false) :
    cs.head? ≠ some mark := by
  intro hhead
  exact h.ne_of_mem hmark (List.mem_of_head? hhead) rfl

theorem ReadsInt.skipBlanks_eq {cs : List Char} {n : Int} (h : ReadsInt cs n) : Calendar.skipBlanks cs = cs := by
  cases h with
  | minus => exact List.dropWhile_cons_of_neg (by decide)
  | plus => exact List.dropWhile_cons_of_neg (by decide)
  | plain h => simpa using Calendar.skipBlanks_numeral h []

/-- Integers are compared as such in texts of one shape, apart from a minus sign. -/
theorem ReadsInt.compare_eq {cs ds : List Char} {y z : Int} (h : shape cs = shape ds) (hc : ReadsInt cs y)
    (hd : ReadsInt ds z) : List.compareLex compare cs ds = signed (cs.head? == some '-') (compare y z) := by
  have hnumerals : ∀ {cs ds : List Char}, shape cs = shape ds → IsNumeral cs → IsNumeral ds →
      List.compareLex compare cs ds = compare (ofDigits cs) (ofDigits ds) := fun h hc hd =>
    compare_ofDigits (Calendar.length_of_shape_eq h) hc.digits hd.digits
  have hsign : ∀ {mark : Char} {cs ds : List Char}, mark.isDigit = false → shape (mark :: cs) = shape ds →
      ds.head? = some mark := fun hmark h => Calendar.head?_of_shape_eq h hmark rfl
  cases hc with
  | minus hc =>
      cases hd with
      | minus hd =>
          rw [compareLex_mark, hnumerals (Calendar.shape_cons_iff.1 h).2 hc hd, ← Calendar.compare_neg_natCast]
          rfl
      | plus => exact absurd (hsign (by decide) h) (by simp)
      | plain hd => exact absurd (hsign (by decide) h) (hd.head_ne (by decide))
  | plus hc =>
      cases hd with
      | minus => exact absurd (hsign (by decide) h) (by simp)
      | plus hd =>
          rw [compareLex_mark, hnumerals (Calendar.shape_cons_iff.1 h).2 hc hd, ← Calendar.compare_natCast]
          rfl
      | plain hd => exact absurd (hsign (by decide) h) (hd.head_ne (by decide))
  | plain hc =>
      cases hd with
      | minus => exact absurd (hsign (by decide) h.symm) (hc.head_ne (by decide))
      | plus => exact absurd (hsign (by decide) h.symm) (hc.head_ne (by decide))
      | plain hd =>
          rw [beq_eq_false_iff_ne.2 (hc.head_ne (by decide)), hnumerals h hc hd, ← Calendar.compare_natCast]
          rfl

end Decimal

/-! ## Points in time -/

/-- The number of half seconds between the beginning of the year 1 and a moment. -/
def Moment.halfSecond (m : Moment) : Int := m.date.dayNumber * 172800 + m.time.halfSecond

/-- Months are numbered in the order of their years, and of the months of the year. -/
theorem Generate.compare_monthNumber {a b : Date} (ha : a.Exists) (hb : b.Exists) :
    compare (monthNumber a) (monthNumber b) = (compare a.year b.year).then (compare a.month b.month) := by
  have hlow := ha.one_le_month
  have hhigh := ha.month_le
  have hlow' := hb.one_le_month
  have hhigh' := hb.month_le
  unfold monthNumber
  refine compare_eq_then (fun h => by omega) (fun h => by omega) fun hyear => ?_
  rw [hyear]
  exact compare_eq_of_lt (fun h => by omega) (fun h => by omega) fun h => by omega

namespace Primitive

/-- The point in time that a text without a time zone denotes, as a number of days, months, years or half seconds. -/
def instant? (base : Primitive) (s : String) : Option Int :=
  match base with
  | .date => (Date.read? s).map Date.dayNumber
  | .dateTime => (Moment.read? s).map Moment.halfSecond
  | .time => (TimeOfDay.read? s).map fun t => (t.halfSecond : Int)
  | .gYear => if Lexical.isYear s then Decimal.readInt? s.toList else none
  | .gYearMonth => (Date.read? (s ++ "-01")).map Generate.monthNumber
  | _ => none

/-- The year of that point in time; a time of day has none. -/
def year? (base : Primitive) (s : String) : Option Int :=
  match base with
  | .date => (Date.read? s).map Date.year
  | .dateTime => (Moment.read? s).map fun m => m.date.year
  | .gYear => base.instant? s
  | .gYearMonth => (Date.read? (s ++ "-01")).map Date.year
  | _ => none

/-- A text that is accepted for a type and has no time zone. -/
structure Unzoned (base : Primitive) (s : String) : Prop where
  isValue : Lexical.isValue base s = true
  not_stamp : Moment.isStamp s = false

/-- A point in time is read from every text that is accepted. -/
theorem Unzoned.exists_instant {base : Primitive} {s : String} (hbase : base.isTemporal = true)
    (h : base.Unzoned s) : ∃ x, base.instant? s = some x := by
  have hvalue := h.isValue
  have hmap : ∀ {α : Type} {o : Option α} (f : α → Int), o.isSome = true → ∃ x, o.map f = some x := by
    intro α o f hsome
    obtain ⟨a, rfl⟩ := Option.isSome_iff_exists.1 hsome
    exact ⟨f a, rfl⟩
  cases base with
  | date => exact hmap _ hvalue
  | time => exact hmap _ hvalue
  | gYearMonth => exact hmap _ hvalue
  | dateTime =>
      refine hmap _ ?_
      change ((Moment.read? s).isSome || Moment.isStamp s) = true at hvalue
      rwa [h.not_stamp, Bool.or_false] at hvalue
  | gYear =>
      have hyear : Lexical.isYear s = true := hvalue
      have hread := (Bool.and_eq_true_iff.1 hvalue).2
      unfold Decimal.readIntWithin? at hread
      dsimp only at hread
      split at hread
      · cases hread
      · split at hread
        · exact ⟨_, (if_pos hyear).trans (by assumption)⟩
        · cases hread
  | _ => cases hbase

/-- Two texts and the points in time that they denote are compared by the years, the texts the other way around behind
a minus sign, and then by the same rest. -/
def ComparedByYears (base : Primitive) (a b : String) (x y : Int) : Prop :=
  ∃ years rest, compareStrings a b = (signed (hasMinus a.toList) years).then rest ∧ compare x y = years.then rest ∧
    (years = .eq ↔ base.year? a = base.year? b)

variable {a b : String} {x y : Int}

theorem comparedByYears_date (h : shape a.toList = shape b.toList) (ha : instant? .date a = some x)
    (hb : instant? .date b = some y) : ComparedByYears .date a b x y := by
  obtain ⟨d, hd, rfl⟩ := Option.map_eq_some_iff.1 ha
  obtain ⟨e, he, rfl⟩ := Option.map_eq_some_iff.1 hb
  obtain ⟨hparts, hexists⟩ := Date.read?_eq_some hd
  obtain ⟨hparts', hexists'⟩ := Date.read?_eq_some he
  refine ⟨_, _, ?_, Date.compare_dayNumber hexists hexists', ?_⟩
  · rw [compareStrings_eq, (Calendar.scanDateParts_leading h hparts hparts').compare_of_end]
  · unfold year?
    simp [hd, he]

theorem comparedByYears_dateTime (h : shape a.toList = shape b.toList) (ha : instant? .dateTime a = some x)
    (hb : instant? .dateTime b = some y) : ComparedByYears .dateTime a b x y := by
  obtain ⟨m, hm, rfl⟩ := Option.map_eq_some_iff.1 ha
  obtain ⟨n, hn, rfl⟩ := Option.map_eq_some_iff.1 hb
  obtain ⟨hexists, afterMark, hparts, htime⟩ := Moment.read?_eq_some hm
  obtain ⟨hexists', afterMark', hparts', htime'⟩ := Moment.read?_eq_some hn
  have hleadDate := Calendar.scanDateParts_leading h hparts hparts'
  have hleadMark := Leading.mark 'T' (Calendar.shape_cons_iff.1 hleadDate.shape_eq).2
  have hleadTime := Calendar.scanTimeParts_leading hleadMark.shape_eq htime htime'
  have hlt := Calendar.halfSecond_lt htime
  have hlt' := Calendar.halfSecond_lt htime'
  have hmoments : compare m.halfSecond n.halfSecond =
      (compare m.date.dayNumber n.date.dayNumber).then (compare m.time.halfSecond n.time.halfSecond) := by
    unfold Moment.halfSecond
    refine compare_eq_then (fun h => by omega) (fun h => by omega) fun hday => ?_
    rw [hday]
    exact compare_eq_of_lt (fun h => by omega) (fun h => by omega) fun h => by omega
  refine ⟨compare m.date.year n.date.year, ((compare m.date.month n.date.month).then
    (compare m.date.day n.date.day)).then (compare m.time.halfSecond n.time.halfSecond), ?_, ?_, ?_⟩
  · rw [compareStrings_eq, (hleadDate.trans (hleadMark.after hleadTime)).compare_of_end, Ordering.then_assoc]
  · rw [hmoments, Date.compare_dayNumber hexists hexists', Ordering.then_assoc]
  · unfold year?
    simp [hm, hn]

theorem comparedByYears_time (h : shape a.toList = shape b.toList) (ha : instant? .time a = some x)
    (hb : instant? .time b = some y) : ComparedByYears .time a b x y := by
  obtain ⟨t, ht, rfl⟩ := Option.map_eq_some_iff.1 ha
  obtain ⟨u, hu, rfl⟩ := Option.map_eq_some_iff.1 hb
  have hlead := Calendar.scanTimeParts_leading h (TimeOfDay.read?_eq_some ht) (TimeOfDay.read?_eq_some hu)
  have hsame : signed (hasMinus a.toList) .eq = .eq := by
    unfold signed
    split <;> rfl
  refine ⟨.eq, compare t.halfSecond u.halfSecond, ?_, Calendar.compare_natCast _ _, iff_of_true rfl rfl⟩
  rw [compareStrings_eq, hlead.compare_of_end, hsame]
  rfl

theorem comparedByYears_gYear (h : shape a.toList = shape b.toList) (ha : instant? .gYear a = some x)
    (hb : instant? .gYear b = some y) : ComparedByYears .gYear a b x y := by
  have hread : ∀ {s : String} {z : Int}, instant? .gYear s = some z → Decimal.ReadsInt s.toList z := by
    intro s z hs
    unfold instant? at hs
    dsimp only at hs
    split at hs
    · exact Decimal.readInt?_eq_some hs
    · cases hs
  refine ⟨compare x y, .eq, ?_, Ordering.then_eq.symm, ?_⟩
  · unfold hasMinus
    rw [compareStrings_eq, (hread ha).compare_eq h (hread hb), (hread ha).skipBlanks_eq, Ordering.then_eq]
  · change _ ↔ instant? .gYear a = instant? .gYear b
    rw [ha, hb, compare_eq_iff_eq, Option.some.injEq]

theorem comparedByYears_gYearMonth (h : shape a.toList = shape b.toList) (ha : instant? .gYearMonth a = some x)
    (hb : instant? .gYearMonth b = some y) : ComparedByYears .gYearMonth a b x y := by
  obtain ⟨d, hd, rfl⟩ := Option.map_eq_some_iff.1 ha
  obtain ⟨e, he, rfl⟩ := Option.map_eq_some_iff.1 hb
  have hfirst : ∀ s : String, (s ++ "-01").toList = s.toList ++ ['-', '0', '1'] := fun s => String.toList_append
  obtain ⟨hparts, hexists⟩ := Date.read?_eq_some hd
  obtain ⟨hparts', hexists'⟩ := Date.read?_eq_some he
  rw [hfirst] at hparts hparts'
  have hday : compare d.day e.day = .eq :=
    compare_eq_iff_eq.2 ((Calendar.day_of_scanDateParts hparts).trans (Calendar.day_of_scanDateParts hparts').symm)
  have hshape : shape (a.toList ++ ['-', '0', '1']) = shape (b.toList ++ ['-', '0', '1']) := by
    unfold shape at h ⊢
    rw [List.map_append, List.map_append, h]
  have htexts : List.compareLex compare (a.toList ++ ['-', '0', '1']) (b.toList ++ ['-', '0', '1']) =
      compareStrings a b := by
    have hends : List.compareLex compare ['-', '0', '1'] ['-', '0', '1'] = .eq := by decide
    rw [compareLex_append (Calendar.length_of_shape_eq h), hends, Ordering.then_eq, compareStrings_eq]
  refine ⟨_, _, ?_, Generate.compare_monthNumber hexists hexists', ?_⟩
  · rw [← htexts, (Calendar.scanDateParts_leading hshape hparts hparts').compare_of_end, hday, Ordering.then_eq,
      Calendar.hasMinus_of_scanDateParts hparts]
  · unfold year?
    simp [hd, he]

theorem comparedByYears {base : Primitive} (hbase : base.isTemporal = true) (h : shape a.toList = shape b.toList)
    (ha : base.instant? a = some x) (hb : base.instant? b = some y) : base.ComparedByYears a b x y := by
  cases base with
  | date => exact comparedByYears_date h ha hb
  | dateTime => exact comparedByYears_dateTime h ha hb
  | time => exact comparedByYears_time h ha hb
  | gYear => exact comparedByYears_gYear h ha hb
  | gYearMonth => exact comparedByYears_gYearMonth h ha hb
  | _ => cases hbase

/-- The years of two texts of one shape come in the order of their digits: no minus sign turns them around. -/
def YearsInOrder (base : Primitive) (a b : String) : Prop := hasMinus a.toList = true → base.year? a = base.year? b

/-- Texts of one shape are compared as the points in time are exactly when their years come in the order of their
digits. -/
theorem compareOrdered_eq_iff {base : Primitive} (hbase : base.isTemporal = true)
    (h : shape a.toList = shape b.toList) (ha : base.instant? a = some x) (hb : base.instant? b = some y) :
    compareOrdered base a b = some (compare x y) ↔ base.YearsInOrder a b := by
  obtain ⟨years, rest, htexts, hinstants, hyears⟩ := comparedByYears hbase h ha hb
  rw [Facets.compareOrdered_of_isTemporal hbase, htexts, hinstants, Option.some.injEq, YearsInOrder, ← hyears]
  cases hasMinus a.toList <;> cases years <;> cases rest <;> simp [signed]

/-- Texts of one shape whose years come in the order of their digits are compared as the points in time are, and so a
value is accepted exactly when it is on the right side of each bound. -/
theorem compareOrdered_chronological {base : Primitive} {value : String} (hbase : base.isTemporal = true)
    (hvalue : base.Unzoned value) : ∃ x, base.instant? value = some x ∧
      (∀ bound, base.Unzoned bound → shape value.toList = shape bound.toList → ∃ y, base.instant? bound = some y ∧
        (compareOrdered base value bound = some (compare x y) ↔ base.YearsInOrder value bound)) ∧
      ∀ bounds : List (BoundKind × String), (∀ b ∈ bounds, base.Unzoned b.2 ∧
          shape value.toList = shape b.2.toList ∧ base.YearsInOrder value b.2) →
        (Facets.checkBounds base value bounds = .ok () ↔
          ∀ b ∈ bounds, ∃ y, base.instant? b.2 = some y ∧ b.1.Admits x y) := by
  obtain ⟨x, hx⟩ := hvalue.exists_instant hbase
  refine ⟨x, hx, fun bound hbound hshape => ?_, fun bounds hbounds => ?_⟩
  · obtain ⟨y, hy⟩ := hbound.exists_instant hbase
    exact ⟨y, hy, compareOrdered_eq_iff hbase hshape hx hy⟩
  · rw [Facets.checkBounds_eq_ok_iff]
    refine forall₂_congr fun b hb => ?_
    obtain ⟨hbound, hshape, hyears⟩ := hbounds b hb
    obtain ⟨y, hy⟩ := hbound.exists_instant hbase
    have hcompare := (compareOrdered_eq_iff hbase hshape hx hy).2 hyears
    rw [hcompare, hy]
    simp [BoundKind.allows_compare]

theorem unzoned_of_fourDigit {d : Date} (h : d.FourDigit) (hstamp : Moment.isStamp d.text = false) :
    Primitive.date.Unzoned d.text where
  isValue := by
    change (Date.read? d.text).isSome = true
    rw [h.read?_text]
    rfl
  not_stamp := hstamp

/-- A day and the day before it, written in one way. -/
theorem compareOrdered_chronological_day : Primitive.date.Unzoned "2024-05-07" ∧ Primitive.date.Unzoned "2024-05-06" ∧
    ∃ x y, instant? .date "2024-05-07" = some x ∧ instant? .date "2024-05-06" = some y ∧
      compareOrdered .date "2024-05-07" "2024-05-06" = some (compare x y) ∧
      (Facets.checkBounds .date "2024-05-07" [(.minExclusive, "2024-05-06")] = .ok () ↔ y < x) := by
  have hday : Primitive.date.Unzoned "2024-05-07" :=
    unzoned_of_fourDigit (d := ⟨2024, 5, 7⟩)
      ⟨⟨by decide, by decide, by decide, by decide⟩, by decide, by decide⟩ (by decide)
  have hbefore : Primitive.date.Unzoned "2024-05-06" :=
    unzoned_of_fourDigit (d := ⟨2024, 5, 6⟩)
      ⟨⟨by decide, by decide, by decide, by decide⟩, by decide, by decide⟩ (by decide)
  have hshape : shape "2024-05-07".toList = shape "2024-05-06".toList := by decide
  have horder : Primitive.date.YearsInOrder "2024-05-07" "2024-05-06" := fun hminus => absurd hminus (by decide)
  obtain ⟨x, hx, hpairs, hbounds⟩ := compareOrdered_chronological rfl hday
  obtain ⟨y, hy, hcompare⟩ := hpairs _ hbefore hshape
  refine ⟨hday, hbefore, x, y, hx, hy, hcompare.2 horder, ?_⟩
  rw [hbounds [(.minExclusive, "2024-05-06")] (List.forall_mem_singleton.2 ⟨hbefore, hshape, horder⟩),
    List.forall_mem_singleton, hy]
  simp [BoundKind.Admits]

/-- The year 10000 comes before the year 9999, and the year -10 after the year -5. -/
theorem compareOrdered_not_chronological :
    (Primitive.gYear.Unzoned "10000" ∧ Primitive.gYear.Unzoned "9999" ∧ instant? .gYear "10000" = some 10000 ∧
      instant? .gYear "9999" = some 9999 ∧ compareOrdered .gYear "10000" "9999" = some .lt ∧
      Facets.checkBounds .gYear "10000" [(.maxInclusive, "9999")] = .ok ()) ∧
    Primitive.gYear.Unzoned "-0010" ∧ Primitive.gYear.Unzoned "-0005" ∧ instant? .gYear "-0010" = some (-10) ∧
      instant? .gYear "-0005" = some (-5) ∧ compareOrdered .gYear "-0010" "-0005" = some .gt :=
  ⟨⟨⟨by decide, by decide⟩, ⟨by decide, by decide⟩, by decide, by decide, by decide, by decide⟩,
    ⟨by decide, by decide⟩, ⟨by decide, by decide⟩, by decide, by decide, by decide⟩

end Primitive

end Specimen
