import Specimen.Proofs.Calendar.Texts
import Specimen.Proofs.Generator.Lengths

/-!
# Bounds of dates, moments and years

The generators of dates, of moments and of years keep to their bounds.  They draw from a range of days, seconds or
years, and texts are in the order of these numbers as long as four digits are enough for the year.  The ends that
replace missing bounds are so near to the base date that a range never leaves these years.
-/

namespace Specimen

open Specimen.Random

/-! ## Canonical literals -/

/-- A text that is the canonical form of a date, of a moment to the second or of a year, in the years from 0 to 9999,
and the number of this day, second or year. -/
def Primitive.Denotes (base : Primitive) (s : String) (n : Int) : Prop :=
  match base with
  | .date => ∃ d : Date, d.FourDigit ∧ d.text = s ∧ d.dayNumber = n
  | .dateTime => ∃ m : Moment, m.FourDigit ∧ m.text = s ∧ m.number = n
  | .gYear => 0 ≤ n ∧ n ≤ 9999 ∧ paddedInt 4 n = s
  | _ => False

namespace Facets

/-- Nothing but bounds narrows the base, and they are canonical. -/
abbrev CanonicalBounds (f : Facets) : Prop := f.HasOnlyBounds fun s => ∃ n, f.base.Denotes s n

/-- The first and the last number that bounds leave. -/
structure Leaves (f : Facets) (low high : Int) : Prop where
  minInclusive : ∀ bound, f.minInclusive = some bound → f.base.Denotes bound low
  maxInclusive : ∀ bound, f.maxInclusive = some bound → f.base.Denotes bound high
  minExclusive : ∀ bound, f.minExclusive = some bound → ∃ n, f.base.Denotes bound n ∧ low = n + 1
  maxExclusive : ∀ bound, f.maxExclusive = some bound → ∃ n, f.base.Denotes bound n ∧ high = n - 1

variable {f : Facets} {low high n : Int}

theorem Leaves.admits (h : f.Leaves low high) (hlow : low ≤ n) (hhigh : n ≤ high) {kind : BoundKind} {bound : String}
    (hbound : f.boundOf kind = some bound) : ∃ m, f.base.Denotes bound m ∧ kind.Admits n m := by
  cases kind with
  | minInclusive => exact ⟨low, h.minInclusive bound hbound, hlow⟩
  | maxInclusive => exact ⟨high, h.maxInclusive bound hbound, hhigh⟩
  | minExclusive =>
      obtain ⟨m, hm, hstep⟩ := h.minExclusive bound hbound
      exact ⟨m, hm, by change m < n; omega⟩
  | maxExclusive =>
      obtain ⟨m, hm, hstep⟩ := h.maxExclusive bound hbound
      exact ⟨m, hm, by change n < m; omega⟩

/-- A value is one of a type that has only bounds when it has the form of the base and compares with canonical
literals as a number does that the bounds leave. -/
theorem check_of_leaves (hf : f.CanonicalBounds) (hbase : f.base.isTemporal = true) (hleaves : f.Leaves low high)
    (hlow : low ≤ n) (hhigh : n ≤ high) {value : String} (hform : Lexical.isValue f.base value = true)
    (hcompare : ∀ s m, f.base.Denotes s m → compareStrings value s = compare n m)
    (isMatch : (pattern text : String) → Bool) : f.check value isMatch = .ok () := by
  refine (hf.check_eq_ok_iff hbase hform isMatch).2 fun kind bound hbound => ?_
  obtain ⟨m, hdenotes, hadmits⟩ := hleaves.admits hlow hhigh hbound
  rw [hcompare bound m hdenotes]
  exact (kind.allows_compare n m).2 hadmits

end Facets

/-! ## The ends of a range -/

namespace Generate

theorem within_eq_ok {α : Type} {o : Option α} {a : α} : within o = .ok a ↔ o = some a := by
  cases o with
  | none => exact ⟨nofun, nofun⟩
  | some b => exact ⟨fun h => congrArg some (Except.ok.inj h), fun h => congrArg Except.ok (Option.some.inj h)⟩

/-- An end of a range is the bound that is included, else the bound that is excluded moved by a step, else the
default. -/
theorem boundOr_cases {α : Type} {read : String → Option α} {included excluded : Option String}
    {step : α → Option α} {fallback : Option α} {a : α} (hone : included = none ∨ excluded = none)
    (hread : ∀ s, included = some s ∨ excluded = some s → (read s).isSome = true)
    (h : boundOr read included excluded step fallback = .ok a) :
    (∃ s, included = some s ∧ excluded = none ∧ read s = some a) ∨
      (∃ s b, included = none ∧ excluded = some s ∧ read s = some b ∧ step b = some a) ∨
      included = none ∧ excluded = none ∧ fallback = some a := by
  have hfallback : ∀ bound : Option α, (within fallback >>= fun default => pure (bound.getD default)) = .ok a →
      ∃ default, fallback = some default ∧ bound.getD default = a := by
    intro bound h
    obtain ⟨default, hdefault, h⟩ := Except.bind_eq_ok.1 h
    exact ⟨default, within_eq_ok.1 hdefault, Except.ok.inj h⟩
  cases included with
  | some s =>
      obtain ⟨b, hb⟩ := Option.isSome_iff_exists.1 (hread s (.inl rfl))
      simp only [boundOr, Option.bind_some, hb] at h
      obtain ⟨default, -, rfl⟩ := hfallback (some b) h
      exact .inl ⟨s, rfl, hone.resolve_left nofun, hb⟩
  | none =>
      cases excluded with
      | some s =>
          obtain ⟨b, hb⟩ := Option.isSome_iff_exists.1 (hread s (.inr rfl))
          simp only [boundOr, Option.bind_none, Option.bind_some, hb] at h
          cases hstep : step b with
          | none =>
              rw [hstep] at h
              cases h
          | some moved =>
              rw [hstep] at h
              obtain ⟨default, -, rfl⟩ := hfallback (some moved) h
              exact .inr (.inl ⟨s, b, rfl, rfl, hb, hstep⟩)
      | none =>
          obtain ⟨default, hdefault, rfl⟩ := hfallback none h
          exact .inr (.inr ⟨rfl, rfl, hdefault⟩)

/-- Values that are numbered: those that canonical literals denote are read from them and lie between two numbers,
and a shift moves the number. -/
structure Timeline (base : Primitive) {α : Type} (read : String → Option α) (shift : α → Int → Option α)
    (number : α → Int) (Regular : α → Prop) (least greatest : Int) : Prop where
  read_eq : ∀ s n, base.Denotes s n → ∃ a, read s = some a ∧ Regular a ∧ number a = n ∧ least ≤ n ∧ n ≤ greatest
  shift_eq : ∀ a b k, Regular a → shift a k = some b → Regular b ∧ number b = number a + k

section

variable {f : Facets} {base : Primitive} {α : Type} {read : String → Option α} {shift : α → Int → Option α}
  {number : α → Int} {Regular : α → Prop} {least greatest : Int}

/-- An end of a range of numbered values has the number of the bound that is included, or is a step away from that of
the bound that is excluded. -/
theorem Timeline.end_spec (t : Timeline base read shift number Regular least greatest)
    {included excluded : Option String} (hone : included = none ∨ excluded = none)
    (hcanonical : ∀ s, included = some s ∨ excluded = some s → ∃ n, base.Denotes s n) {step : Int}
    {fallback : Option α} (hfallback : ∀ b, fallback = some b → Regular b) {a : α}
    (h : boundOr read included excluded (shift · step) fallback = .ok a) :
    Regular a ∧ (∀ s, included = some s → base.Denotes s (number a)) ∧
      (∀ s, excluded = some s → ∃ n, base.Denotes s n ∧ number a = n + step) ∧
        (fallback = some a ∨ ∃ n, least ≤ n ∧ n ≤ greatest ∧ (number a = n ∨ number a = n + step)) := by
  have hread : ∀ s, included = some s ∨ excluded = some s → (read s).isSome = true := by
    intro s hs
    obtain ⟨n, hn⟩ := hcanonical s hs
    obtain ⟨b, hb, -⟩ := t.read_eq s n hn
    rw [hb]
    rfl
  rcases boundOr_cases hone hread h with ⟨s, rfl, rfl, hs⟩ | ⟨s, b, rfl, rfl, hs, hmoved⟩ | ⟨rfl, rfl, hdefault⟩
  · obtain ⟨n, hn⟩ := hcanonical s (.inl rfl)
    obtain ⟨b, hb, hregular, rfl, hrange⟩ := t.read_eq s n hn
    obtain rfl := Option.some.inj (hb.symm.trans hs)
    exact ⟨hregular, fun s hs => Option.some.inj hs ▸ hn, nofun, .inr ⟨_, hrange.1, hrange.2, .inl rfl⟩⟩
  · obtain ⟨n, hn⟩ := hcanonical s (.inr rfl)
    obtain ⟨b', hb, hregular, rfl, hrange⟩ := t.read_eq s n hn
    obtain rfl := Option.some.inj (hb.symm.trans hs)
    obtain ⟨hregular, hstep⟩ := t.shift_eq _ _ _ hregular hmoved
    exact ⟨hregular, nofun, fun s hs => ⟨_, Option.some.inj hs ▸ hn, hstep⟩, .inr ⟨_, hrange.1, hrange.2, .inr hstep⟩⟩
  · exact ⟨hfallback a hdefault, nofun, nofun, .inl hdefault⟩

/-- A range of numbered values is what its bounds leave, and does not go beyond the numbers of canonical literals when
the defaults do not. -/
theorem Timeline.range_spec (t : Timeline f.base read shift number Regular least greatest)
    (hf : f.CanonicalBounds) {first last : Option α} (hfirst : ∀ a, first = some a → Regular a ∧ least ≤ number a)
    (hlast : ∀ a, last = some a → Regular a ∧ number a ≤ greatest) {low high : α}
    (hlow : boundOr read f.minInclusive f.minExclusive (shift · 1) first = .ok low)
    (hhigh : boundOr read f.maxInclusive f.maxExclusive (shift · (-1)) last = .ok high) :
    Regular low ∧ Regular high ∧ f.Leaves (number low) (number high) ∧ least ≤ number low ∧
      number high ≤ greatest := by
  have hlower : ∀ s, f.minInclusive = some s ∨ f.minExclusive = some s → ∃ n, f.base.Denotes s n := by
    rintro s (h | h)
    · exact hf.literal .minInclusive s h
    · exact hf.literal .minExclusive s h
  have hupper : ∀ s, f.maxInclusive = some s ∨ f.maxExclusive = some s → ∃ n, f.base.Denotes s n := by
    rintro s (h | h)
    · exact hf.literal .maxInclusive s h
    · exact hf.literal .maxExclusive s h
  obtain ⟨hregularLow, hminInclusive, hminExclusive, hleast⟩ :=
    t.end_spec hf.one_lower hlower (fun a ha => (hfirst a ha).1) hlow
  obtain ⟨hregularHigh, hmaxInclusive, hmaxExclusive, hgreatest⟩ :=
    t.end_spec hf.one_upper hupper (fun a ha => (hlast a ha).1) hhigh
  refine ⟨hregularLow, hregularHigh, ⟨hminInclusive, hmaxInclusive, hminExclusive, hmaxExclusive⟩, ?_, ?_⟩
  · rcases hleast with hdefault | ⟨n, hn, -, hnumber | hnumber⟩
    · exact (hfirst low hdefault).2
    · omega
    · omega
  · rcases hgreatest with hdefault | ⟨n, -, hn, hnumber | hnumber⟩
    · exact (hlast high hdefault).2
    · omega
    · omega

end

/-! ## Dates -/

theorem timeline_date : Timeline .date Date.read? Date.addDays? Date.dayNumber Date.Exists (Date.daysBeforeYear 0)
    (Date.daysBeforeYear 10000 - 1) where
  read_eq := by
    rintro _ _ ⟨d, hd, rfl, rfl⟩
    have hrange := hd.toExists.fourDigit_iff.1 hd
    exact ⟨d, hd.read?_text, hd.toExists, rfl, hrange.1, by omega⟩
  shift_eq _ _ _ _ hshift := Date.addDays?_eq_some hshift

/-- A base date from the year 1 to the year 9990, around which the default window is one of four-digit years. -/
structure NearBase (base : Date) : Prop where
  exist : base.Exists
  first_le : 1 ≤ base.year
  le_last : base.year ≤ 9990

theorem NearBase.window {base : Date} (h : NearBase base) :
    Date.daysBeforeYear 0 ≤ base.dayNumber + -windowDays ∧
      base.dayNumber + windowDays ≤ Date.daysBeforeYear 10000 - 1 := by
  have hfirst := (h.exist.le_year_iff 1).1 h.first_le
  have hlast : base.dayNumber < Date.daysBeforeYear 9991 := by
    rw [← Int.not_le, ← h.exist.le_year_iff, Int.not_le]
    exact Int.lt_add_one_of_le h.le_last
  have hyear : Date.daysBeforeYear 0 + 366 = Date.daysBeforeYear 1 := by decide
  have hyears : Date.daysBeforeYear 9991 + 366 ≤ Date.daysBeforeYear 10000 := by decide
  unfold windowDays
  constructor <;> omega

theorem dateRange_spec {f : Facets} (hbase : f.base = .date) (hf : f.CanonicalBounds) {base : Date}
    (hnear : NearBase base) {low high : Date} (h : dateRange f base Date.read? = .ok (low, high)) :
    low.dayNumber ≤ high.dayNumber ∧ f.Leaves low.dayNumber high.dayNumber ∧
      Date.daysBeforeYear 0 ≤ low.dayNumber ∧ high.dayNumber ≤ Date.daysBeforeYear 10000 - 1 := by
  obtain ⟨low', hlow, h⟩ := Except.bind_eq_ok.1 h
  obtain ⟨high', hhigh, h⟩ := Except.bind_eq_ok.1 h
  split at h
  · cases h
  · rename_i hordered
    obtain ⟨rfl, rfl⟩ := Prod.mk.inj (Except.ok.inj h)
    obtain ⟨hleast, hgreatest⟩ := hnear.window
    have hfirst : ∀ a, base.addDays? (-windowDays) = some a → a.Exists ∧ Date.daysBeforeYear 0 ≤ a.dayNumber := by
      intro a ha
      obtain ⟨hexists, hnumber⟩ := Date.addDays?_eq_some ha
      exact ⟨hexists, by omega⟩
    have hlast : ∀ a, base.addDays? windowDays = some a →
        a.Exists ∧ a.dayNumber ≤ Date.daysBeforeYear 10000 - 1 := by
      intro a ha
      obtain ⟨hexists, hnumber⟩ := Date.addDays?_eq_some ha
      exact ⟨hexists, by omega⟩
    obtain ⟨-, -, hleaves⟩ := Timeline.range_spec (hbase ▸ timeline_date) hf hfirst hlast hlow hhigh
    exact ⟨Int.not_lt.1 hordered, hleaves⟩

theorem date_outcome (libraries : Libraries) (leaf : Leaf) (rng : Rng) :
    PrimitiveGenerator.date.outcome libraries leaf rng =
      (dateRange leaf.facets leaf.baseDate Date.read?).bind fun range =>
        .ok (Date.ofDayNumber (range.1.dayNumber +
          (Draw.range .w64 0 (range.2.dayNumber - range.1.dayNumber) rng).1)).text :=
  run_except _ _ _

/-- A number that is drawn between two others lies between them. -/
theorem drawn_offset {low high : Int} (hle : low ≤ high) (rng : Rng) :
    low ≤ low + (Draw.range .w64 0 (high - low) rng).1 ∧ low + (Draw.range .w64 0 (high - low) rng).1 ≤ high := by
  have hmem := Draw.range_mem .w64 (by omega : 0 ≤ high - low) (fun _ => rfl) rng
  omega

theorem check_of_date_outcome {leaf : Leaf} (hbase : leaf.facets.base = .date) (hf : leaf.facets.CanonicalBounds)
    (hnear : NearBase leaf.baseDate) {libraries : Libraries} {rng : Rng} {value : String}
    (h : PrimitiveGenerator.date.outcome libraries leaf rng = .ok value) :
    leaf.facets.check value libraries.isMatch = .ok () := by
  rw [date_outcome] at h
  obtain ⟨⟨low, high⟩, hdrawn, h⟩ := Except.bind_eq_ok.1 h
  obtain ⟨hle, hleaves, hleast, hgreatest⟩ := dateRange_spec hbase hf hnear hdrawn
  obtain ⟨hlow, hhigh⟩ := drawn_offset hle rng
  obtain rfl := Except.ok.inj h
  dsimp only
  generalize low.dayNumber + (Draw.range .w64 0 (high.dayNumber - low.dayNumber) rng).1 = n at hlow hhigh ⊢
  obtain ⟨hexists, hnumber⟩ := Date.ofDayNumber_spec n
  have hdate : (Date.ofDayNumber n).FourDigit := hexists.fourDigit_iff.2 ⟨by omega, by omega⟩
  refine Facets.check_of_leaves hf (by rw [hbase]; rfl) hleaves hlow hhigh ?_ ?_ _
  · rw [hbase]
    exact Option.isSome_of_eq_some hdate.read?_text
  · rw [hbase]
    rintro _ _ ⟨d, hd, rfl, rfl⟩
    rw [compareStrings_eq, hdate.compare_text hd, hnumber]

/-! ## Moments -/

theorem timeline_dateTime : Timeline .dateTime Moment.read? Moment.addSeconds? Moment.number Moment.Regular
    (Date.daysBeforeYear 0 * 86400) (Date.daysBeforeYear 10000 * 86400 - 1) where
  read_eq := by
    rintro _ _ ⟨m, hm, rfl, rfl⟩
    have hrange := hm.toRegular.fourDigit_iff.1 hm
    exact ⟨m, hm.read?_text, hm.toRegular, rfl, hrange.1, by omega⟩
  shift_eq _ _ _ hregular hshift := Moment.addSeconds?_eq_some hregular hshift

theorem momentRange_spec {f : Facets} (hbase : f.base = .dateTime) (hf : f.CanonicalBounds) {base : Date}
    (hnear : NearBase base) {low high : Moment} (h : momentRange f base = .ok (low, high)) :
    low.Regular ∧ high.Regular ∧ low.number ≤ high.number ∧ f.Leaves low.number high.number ∧
      Date.daysBeforeYear 0 * 86400 ≤ low.number ∧ high.number ≤ Date.daysBeforeYear 10000 * 86400 - 1 := by
  obtain ⟨low', hlow, h⟩ := Except.bind_eq_ok.1 h
  obtain ⟨high', hhigh, h⟩ := Except.bind_eq_ok.1 h
  have hmidnight : Moment.Regular ⟨base, ⟨0, false⟩⟩ := ⟨hnear.exist, (by decide : 0 < 86400), rfl⟩
  have hnumber : Moment.number ⟨base, ⟨0, false⟩⟩ = base.dayNumber * 86400 := Int.add_zero _
  obtain ⟨hleast, hgreatest⟩ := hnear.window
  have hfirst : ∀ a, Moment.addDays? ⟨base, ⟨0, false⟩⟩ (-windowDays) = some a →
      a.Regular ∧ Date.daysBeforeYear 0 * 86400 ≤ a.number := by
    intro a ha
    obtain ⟨hregular, hshifted⟩ := Moment.addDays?_eq_some hmidnight ha
    exact ⟨hregular, by omega⟩
  have hlast : ∀ a, Moment.addDays? ⟨base, ⟨0, false⟩⟩ windowDays = some a →
      a.Regular ∧ a.number ≤ Date.daysBeforeYear 10000 * 86400 - 1 := by
    intro a ha
    obtain ⟨hregular, hshifted⟩ := Moment.addDays?_eq_some hmidnight ha
    exact ⟨hregular, by omega⟩
  obtain ⟨hregularLow, hregularHigh, hleaves⟩ :=
    Timeline.range_spec (hbase ▸ timeline_dateTime) hf hfirst hlast hlow hhigh
  split at h
  · cases h
  · rename_i hordered
    obtain ⟨rfl, rfl⟩ := Prod.mk.inj (Except.ok.inj h)
    rw [Moment.isAfter_iff hregularLow hregularHigh, Int.not_lt] at hordered
    exact ⟨hregularLow, hregularHigh, hordered, hleaves⟩

theorem dateTime_outcome (libraries : Libraries) (leaf : Leaf) (rng : Rng) :
    PrimitiveGenerator.dateTime.outcome libraries leaf rng = (momentRange leaf.facets leaf.baseDate).bind fun range =>
      (within (range.1.addSeconds? (Draw.range .w64 0 (range.2.secondsSince range.1) rng).1)).bind fun m =>
        .ok m.text := by
  unfold PrimitiveGenerator.outcome PrimitiveGenerator.run dateTime
  rw [run_except]
  congr 1
  funext ⟨low, high⟩
  dsimp only
  rw [run_draw, run_except]
  rfl

theorem check_of_dateTime_outcome {leaf : Leaf} (hbase : leaf.facets.base = .dateTime)
    (hf : leaf.facets.CanonicalBounds) (hnear : NearBase leaf.baseDate) {libraries : Libraries} {rng : Rng}
    {value : String} (h : PrimitiveGenerator.dateTime.outcome libraries leaf rng = .ok value) :
    leaf.facets.check value libraries.isMatch = .ok () := by
  rw [dateTime_outcome] at h
  obtain ⟨⟨low, high⟩, hdrawn, h⟩ := Except.bind_eq_ok.1 h
  obtain ⟨m, hmoved, h⟩ := Except.bind_eq_ok.1 h
  obtain rfl := Except.ok.inj h
  obtain ⟨hregularLow, hregularHigh, hle, hleaves, hleast, hgreatest⟩ := momentRange_spec hbase hf hnear hdrawn
  obtain ⟨hregular, hnumber⟩ := Moment.addSeconds?_eq_some hregularLow (within_eq_ok.1 hmoved)
  dsimp only at hnumber
  rw [Moment.secondsSince_eq hregularHigh hregularLow] at hnumber
  obtain ⟨hlow, hhigh⟩ := drawn_offset hle rng
  rw [← hnumber] at hlow hhigh
  have hmoment : m.FourDigit := hregular.fourDigit_iff.2 ⟨by omega, by omega⟩
  refine Facets.check_of_leaves hf (by rw [hbase]; rfl) hleaves hlow hhigh ?_ ?_ _
  · rw [hbase]
    change ((Moment.read? m.text).isSome || Moment.isStamp m.text) = true
    rw [hmoment.read?_text]
    rfl
  · rw [hbase]
    rintro _ _ ⟨d, hd, rfl, rfl⟩
    rw [compareStrings_eq, hmoment.compare_text hd]

end Generate

/-! ## Years -/

theorem length_le_utf8Len (cs : List Char) : cs.length ≤ String.utf8Len cs := by
  induction cs with
  | nil => exact Nat.zero_le _
  | cons c rest ih =>
      have hsize := c.utf8Size_pos
      rw [String.utf8Len_cons, List.length_cons]
      omega

theorem Lexical.isYear_paddedInt {n : Int} (hlow : -(Nat.pow 2 31) ≤ n) (hhigh : n ≤ Nat.pow 2 31 - 1) :
    isYear (paddedInt 4 n) = true := by
  have hlength : 4 ≤ (paddedInt 4 n).toList.length := by
    rcases Int.lt_or_le n 0 with hn | hn
    · rw [toList_paddedInt_of_neg hn, List.length_cons]
      exact Nat.succ_le_succ (le_length_paddedNat 3 n.natAbs)
    · rw [paddedInt_of_nonneg hn]
      exact le_length_paddedNat 4 n.natAbs
  have hsize := Nat.le_trans hlength (length_le_utf8Len (paddedInt 4 n).toList)
  rw [String.utf8Len_toList] at hsize
  unfold isYear
  rw [Decimal.readIntWithin?_paddedInt hlow hhigh, decide_eq_true hsize]
  rfl

/-- Years with four digits are in the order of the years, and a year with a sign comes before them. -/
theorem compareStrings_paddedInt {n m : Int} (hn : n ≤ 9999) (hm : 0 ≤ m) (hm' : m ≤ 9999) :
    compareStrings (paddedInt 4 n) (paddedInt 4 m) = compare n m := by
  rw [compareStrings_eq, paddedInt_of_nonneg hm]
  rcases Int.lt_or_le n 0 with hneg | hnonneg
  · have hlt : n < m := by omega
    have hnumeral := isNumeral_paddedNat 4 m.natAbs
    rw [toList_paddedInt_of_neg hneg, compare_lt_iff_lt.2 hlt]
    cases hcs : (paddedNat 4 m.natAbs).toList with
    | nil => exact absurd hcs hnumeral.nonempty
    | cons c cs =>
        have hdigit := (Text.toNat_of_isDigit (hnumeral.digits c (hcs ▸ List.mem_cons_self))).1
        have hsign : '-' < c := Nat.lt_of_lt_of_le (by decide : '-'.toNat < 48) hdigit
        rw [List.compareLex_cons_cons, compare_lt_iff_lt.2 hsign]
        rfl
  · have hwidth : Nat.pow 10 4 = 10000 := rfl
    have hmagnitude : compare n.natAbs m.natAbs = compare n m :=
      compare_eq_of_lt (fun h => by omega) (fun h => by omega) fun h => by omega
    rw [paddedInt_of_nonneg hnonneg, compare_paddedNat (by decide) (by omega) (by omega), hmagnitude]

namespace Generate

theorem timeline_gYear : Timeline .gYear yearOf? (fun y step => some (y + step)) id (fun _ => True) (-4) 9999 where
  read_eq := by
    rintro _ n ⟨hnonneg, hle, rfl⟩
    have hword : (Nat.pow 2 31 : Int) = 2147483648 := by decide
    exact ⟨n, Decimal.readIntWithin?_paddedInt (by omega) (by omega) 4, trivial, rfl, by omega, hle⟩
  shift_eq _ _ _ _ hshift := ⟨trivial, (Option.some.inj hshift).symm⟩

/-- An end of a range of years is found as that of a range of days or seconds, except that a year that is too large
is a failure of its own. -/
theorem boundOr_of_yearBound {included excluded : Option String} {step fallback year : Int}
    (h : yearBound included excluded step fallback = .ok year) :
    boundOr yearOf? included excluded (fun y => some (y + step)) (some fallback) = .ok year := by
  unfold yearBound at h
  unfold boundOr
  cases hincluded : included.bind yearOf? with
  | some y =>
      rw [hincluded] at h
      exact h
  | none =>
      rw [hincluded] at h
      cases hexcluded : excluded.bind yearOf? with
      | some y =>
          rw [hexcluded] at h
          dsimp only at h
          split at h
          · exact h
          · cases h
      | none =>
          rw [hexcluded] at h
          exact h

theorem yearRange_spec {f : Facets} (hbase : f.base = .gYear) (hf : f.CanonicalBounds) {base : Date}
    (hnear : NearBase base) {low high : Int} (h : yearRange f base = .ok (low, high)) :
    low ≤ high ∧ f.Leaves low high ∧ -4 ≤ low ∧ high ≤ 9999 := by
  obtain ⟨low', hlow, h⟩ := Except.bind_eq_ok.1 h
  obtain ⟨high', hhigh, h⟩ := Except.bind_eq_ok.1 h
  split at h
  · cases h
  · rename_i hordered
    obtain ⟨rfl, rfl⟩ := Prod.mk.inj (Except.ok.inj h)
    have hfirst : ∀ a, some (base.year - 5) = some a → True ∧ -4 ≤ a := by
      rintro _ ⟨⟩
      have hyear := hnear.first_le
      exact ⟨trivial, by omega⟩
    have hlast : ∀ a, some (base.year + 5) = some a → True ∧ a ≤ 9999 := by
      rintro _ ⟨⟩
      have hyear := hnear.le_last
      exact ⟨trivial, by omega⟩
    obtain ⟨-, -, hleaves⟩ := Timeline.range_spec (hbase ▸ timeline_gYear) hf hfirst hlast
      (boundOr_of_yearBound hlow) (boundOr_of_yearBound hhigh)
    exact ⟨Int.not_lt.1 hordered, hleaves⟩

theorem gYear_outcome (libraries : Libraries) (leaf : Leaf) (rng : Rng) :
    PrimitiveGenerator.gYear.outcome libraries leaf rng = (yearRange leaf.facets leaf.baseDate).bind fun range =>
      .ok (paddedInt 4 (Draw.range .w32 range.1 range.2 rng).1) :=
  run_except _ _ _

theorem check_of_gYear_outcome {leaf : Leaf} (hbase : leaf.facets.base = .gYear)
    (hf : leaf.facets.CanonicalBounds) (hnear : NearBase leaf.baseDate) {libraries : Libraries} {rng : Rng}
    {value : String} (h : PrimitiveGenerator.gYear.outcome libraries leaf rng = .ok value) :
    leaf.facets.check value libraries.isMatch = .ok () := by
  rw [gYear_outcome] at h
  obtain ⟨⟨low, high⟩, hdrawn, h⟩ := Except.bind_eq_ok.1 h
  obtain rfl := Except.ok.inj h
  obtain ⟨hle, hleaves, hleast, hgreatest⟩ := yearRange_spec hbase hf hnear hdrawn
  have hfits : high - low + 1 = (Nat.pow 2 Draw.Width.w32.bits : Nat) → low = 0 := by
    change high - low + 1 = 4294967296 → low = 0
    omega
  obtain ⟨hlow, hhigh⟩ := Draw.range_mem .w32 hle hfits rng
  have hword : (Nat.pow 2 31 : Int) = 2147483648 := by decide
  dsimp only
  generalize (Draw.range .w32 low high rng).1 = n at hlow hhigh ⊢
  refine Facets.check_of_leaves hf (by rw [hbase]; rfl) hleaves hlow hhigh ?_ ?_ _
  · rw [hbase]
    exact Lexical.isYear_paddedInt (by omega) (by omega)
  · rw [hbase]
    rintro _ m ⟨hnonneg, hm, rfl⟩
    exact compareStrings_paddedInt (by omega) hnonneg hm

/-- The generators of dates, moments and years keep to their bounds: with at most one canonical bound on each side,
and a base date from the year 1 to the year 9990, what is made up satisfies the bounds. -/
theorem bounds_honoured (f : Facets) (hbase : f.base = .date ∨ f.base = .dateTime ∨ f.base = .gYear)
    (hf : f.CanonicalBounds) (name path : String) (baseDate : Date) (hvalid : baseDate.isValid = true)
    (hfirst : 1 ≤ baseDate.year) (hlast : baseDate.year ≤ 9990) (libraries : Libraries) (rng : Rng) (value : String)
    (h : (Generator.forFacets f).outcome libraries ⟨name, path, f, baseDate⟩ rng = .ok value) :
    f.check value libraries.isMatch = .ok () := by
  have hnear : NearBase baseDate := ⟨((Date.isValid_iff baseDate).1 hvalid).1, hfirst, hlast⟩
  have hgenerator : ∀ {base : Primitive} {g : PrimitiveGenerator}, f.base = base →
      Generator.forFacets (.ofBase base) = g → Generator.forFacets f = g := by
    rintro _ _ rfl rfl
    rw [hf.only_bounds]
    rfl
  rcases hbase with hbase | hbase | hbase
  · rw [hgenerator hbase rfl] at h
    exact check_of_date_outcome hbase hf hnear h
  · rw [hgenerator hbase rfl] at h
    exact check_of_dateTime_outcome hbase hf hnear h
  · rw [hgenerator hbase rfl] at h
    exact check_of_gYear_outcome hbase hf hnear h

/-- A moment after the end of the 28th of February, and not after noon of the first of March. -/
theorem bounds_honoured_leap_day :
    let f : Facets := {
      base := .dateTime
      minExclusive := some "2024-02-28T23:59:59"
      maxInclusive := some "2024-03-01T12:00:00" }
    f.CanonicalBounds ∧ ∃ value,
      (Generator.forFacets f).outcome .standard ⟨"at", "/at", f, ⟨2024, 1, 31⟩⟩ (Rng.ofSeed 7) = .ok value ∧
        f.check value = .ok () := by
  intro f
  have hdate : Date.FourDigit ⟨2024, 2, 28⟩ :=
    ⟨⟨by decide, by decide, by decide, by decide⟩, by decide, by decide⟩
  have hdate' : Date.FourDigit ⟨2024, 3, 1⟩ :=
    ⟨⟨by decide, by decide, by decide, by decide⟩, by decide, by decide⟩
  have hlow : Moment.FourDigit ⟨⟨2024, 2, 28⟩, ⟨86399, false⟩⟩ := ⟨⟨hdate.toExists, by decide, rfl⟩, hdate⟩
  have hhigh : Moment.FourDigit ⟨⟨2024, 3, 1⟩, ⟨43200, false⟩⟩ := ⟨⟨hdate'.toExists, by decide, rfl⟩, hdate'⟩
  have hcanonical : f.CanonicalBounds := by
    refine ⟨rfl, .inl rfl, .inr rfl, ?_⟩
    rintro (_ | _ | _ | _) _ ⟨⟩
    · exact ⟨_, _, hhigh, by decide +kernel, rfl⟩
    · exact ⟨_, _, hlow, by decide +kernel, rfl⟩
  have hdrawn : (Generator.forFacets f).outcome .standard ⟨"at", "/at", f, ⟨2024, 1, 31⟩⟩ (Rng.ofSeed 7) =
      .ok "2024-02-29T05:40:50" := by
    decide +kernel
  exact ⟨hcanonical, _, hdrawn,
    bounds_honoured f (.inr (.inl rfl)) hcanonical _ _ _ (by decide) (by decide) (by decide) _ _ _ hdrawn⟩

end Generate

end Specimen
