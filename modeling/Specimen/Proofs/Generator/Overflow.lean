import Specimen.Proofs.Generator.Bounds

/-!
# Machine integers

The generators compute with machine integers.  Here they are written once more with a check at every step: a sum or a
difference must be an integer of its width, nothing may be drawn from an empty range, and what is picked from a list
must be in it.  The checks change nothing, so the generators of integers, years, texts, names and octets break in two
ways only: when a bound that is excluded is the last integer of its width, there is none for the step beyond it.
-/

namespace Specimen

open Specimen.Random

/-! ## Steps that are checked -/

/-- The integers of a width. -/
structure MachineInteger where
  least : Int
  greatest : Int

namespace MachineInteger

def u32 : MachineInteger := ⟨0, Generate.wordMax⟩

def i32 : MachineInteger := ⟨-(Nat.pow 2 31), Nat.pow 2 31 - 1⟩

def i128 : MachineInteger := ⟨Decimal.wideMin, Decimal.wideMax⟩

/-- The result of a step, which has to be an integer of its width. -/
def fit (w : MachineInteger) (n : Int) : Except GeneratorFailure Int :=
  if w.least ≤ n ∧ n ≤ w.greatest then .ok n else Generate.broken .integerOverflow

theorem fit_of_mem {w : MachineInteger} {n : Int} (h : w.least ≤ n ∧ n ≤ w.greatest) : w.fit n = .ok n := if_pos h

theorem fit_of_not_mem {w : MachineInteger} {n : Int} (h : ¬ (w.least ≤ n ∧ n ≤ w.greatest)) :
    w.fit n = Generate.broken .integerOverflow := if_neg h

end MachineInteger

namespace Generate.Checked

/-- Draws an integer of a range, which must not be empty. -/
def range (width : Draw.Width) (low high : Int) : Attempt Int :=
  if high < low then failWith (.broken .emptyRange) else liftM (Draw.range width low high)

/-- Draws one of the items of a list, which must have one at the position that is drawn. -/
def pick {α : Type} (items : List α) : Attempt α := do
  if items.length = 0 then failWith (.broken .emptyRange)
  let index ← Draw.index items.length
  match items[index]? with
  | some item => return item
  | none => failWith (.broken .emptyRange)

def textLengthRange (f : Facets) : Except GeneratorFailure (Int × Int) :=
  match f.lengthBounds with
  | (some low, some high) => .ok ((min low high : Nat), high)
  | (some low, none) => .ok (low, (min (low + 8) wordMax : Nat))
  | (none, some high) => do
    let span ← MachineInteger.u32.fit (4 + 32)
    return ((min 4 high : Nat), min high span)
  | (none, none) => do
    let span ← MachineInteger.u32.fit (4 + 8)
    return (4, span)

def randomChars : Nat → Attempt (List Char)
  | 0 => return []
  | n + 1 => do
    let c ← pick charset
    return c :: (← randomChars n)

def string (f : Facets) : Attempt String := do
  let (low, high) ← textLengthRange f
  let length ← range .w32 low high
  return String.ofList (← randomChars length.toNat)

def lowerInteger? (f : Facets) : Except GeneratorFailure (Option Int) :=
  let included := (bound? f.minInclusive).map ceilOf
  match bound? f.minExclusive with
  | none => .ok included
  | some x => do
    let next ← MachineInteger.i128.fit (floorOf x + 1)
    return greater? included (some next)

def upperInteger? (f : Facets) : Except GeneratorFailure (Option Int) :=
  let included := (bound? f.maxInclusive).map floorOf
  match bound? f.maxExclusive with
  | none => .ok included
  | some x => do
    let previous ← MachineInteger.i128.fit (ceilOf x - 1)
    return lesser? included (some previous)

/-- The least and the greatest integer of a number of digits. -/
def digitLimits (digits : UInt32) : Except GeneratorFailure (Int × Int) := do
  let limit ← MachineInteger.i128.fit (Nat.pow 10 (min digits.toNat 30) - 1)
  let least ← MachineInteger.i128.fit (-limit)
  return (least, limit)

def integerRange (f : Facets) : Except GeneratorFailure (Int × Int) := do
  let (low, high) := f.base.integerRange?.getD (-(Nat.pow 2 63), Nat.pow 2 63 - 1)
  let lower ← lowerInteger? f
  let upper ← upperInteger? f
  let low := lower.elim low (max low)
  let high := upper.elim high (min high)
  let (low, high) ← match f.totalDigits with
    | some digits => do
      let (least, limit) ← digitLimits digits
      pure (max low least, min high limit)
    | none => pure (low, high)
  let (low, high) := narrow lower.isSome upper.isSome low high
  if high < low then unsatisfiable f "empty integer range" else return (low, high)

def integer (f : Facets) : Attempt String := do
  let (low, high) ← integerRange f
  return toString (← range .w128 low high)

def yearBound (included excluded : Option String) (step fallback : Int) : Except GeneratorFailure Int := do
  let bound ← match included.bind yearOf? with
    | some y => pure (some y)
    | none =>
      match excluded.bind yearOf? with
      | some y => some <$> MachineInteger.i32.fit (y + step)
      | none => pure none
  let fallback ← MachineInteger.i32.fit fallback
  return bound.getD fallback

def yearRange (f : Facets) (base : Date) : Except GeneratorFailure (Int × Int) := do
  let low ← yearBound f.minInclusive f.minExclusive 1 (base.year - 5)
  let high ← yearBound f.maxInclusive f.maxExclusive (-1) (base.year + 5)
  if high < low then unsatisfiable f "empty gYear range" else return (low, high)

def gYear (f : Facets) (base : Date) : Attempt String := do
  let (low, high) ← yearRange f base
  return paddedInt 4 (← range .w32 low high)

def uri : Attempt String := do
  let segment ← randomChars 8
  return "https://example.com/" ++ String.ofList (segment.map Char.toLower)

def language : Attempt String := pick languages

def octetCount (f : Facets) : Attempt Nat :=
  match f.lengthBounds with
  | (some low, some high) => do
    let n ← range .w32 (min low high : Nat) high
    return n.toNat
  | (some low, none) => return max low 1
  | (none, some high) => return min 12 high
  | (none, none) => return 12

def hexBinary (f : Facets) : Attempt String := do
  let octets ← Draw.bytes (← octetCount f)
  return Encoding.toHex octets

def base64Binary (f : Facets) : Attempt String := do
  let octets ← Draw.bytes (← octetCount f)
  return Encoding.toBase64 octets

/-- What a generator gives when its steps are checked, for the generators of integers, years, texts and octets.  Those
of names have no such steps, and the others are taken as they are. -/
def run (g : PrimitiveGenerator) (libraries : Libraries) (leaf : Leaf) : Attempt String :=
  match g with
  | .base64 => base64Binary leaf.facets
  | .gYear => gYear leaf.facets leaf.baseDate
  | .hex => hexBinary leaf.facets
  | .integer => integer leaf.facets
  | .language => language
  | .string => string leaf.facets
  | .uri => uri
  | other => other.run libraries leaf

/-! ## The checks change nothing -/

theorem range_eq {width : Draw.Width} {low high : Int} (h : low ≤ high) :
    range width low high = liftM (Draw.range width low high) := if_neg (Int.not_lt.2 h)

theorem pick_eq {α : Type} {items : List α} (h : 0 < items.length) (default : α) :
    pick items = liftM (do return items.getD (← Draw.index items.length) default : Draw α) := by
  refine ExceptT.ext (funext fun rng => ?_)
  have hindex := Draw.index_lt h rng
  unfold pick
  rw [if_neg (Nat.ne_of_gt h)]
  change ExceptT.run (do
    let index ← liftM (Draw.index items.length)
    match items[index]? with
    | some item => return item
    | none => failWith (.broken .emptyRange)) rng = _
  rw [run_draw, List.getElem?_eq_getElem hindex]
  change (Except.ok items[(Draw.index items.length rng).1], (Draw.index items.length rng).2) =
    (Except.ok (items.getD (Draw.index items.length rng).1 default), (Draw.index items.length rng).2)
  rw [List.getD_eq_getElem?_getD, List.getElem?_eq_getElem hindex, Option.getD_some]

theorem randomChars_eq (n : Nat) : randomChars n = liftM (Generate.randomChars n) := by
  induction n with
  | zero => rfl
  | succ n ih =>
      unfold randomChars Generate.randomChars
      rw [pick_eq (by decide) 'a', ih]
      rfl

theorem textLengthRange_eq (f : Facets) :
    textLengthRange f = .ok ((Generate.textLengthRange f).1, (Generate.textLengthRange f).2) := by
  unfold textLengthRange Generate.textLengthRange
  rcases f.lengthBounds with ⟨_ | low, _ | high⟩
  · dsimp only
    rw [MachineInteger.fit_of_mem (by decide)]
    rfl
  · dsimp only
    rw [MachineInteger.fit_of_mem (by decide)]
    exact congrArg (fun greatest => Except.ok (((min 4 high : Nat) : Int), greatest)) (by omega)
  · rfl
  · rfl

/-- The least length that is drawn is not beyond the greatest one. -/
theorem textLengthRange_le (f : Facets) : (Generate.textLengthRange f).1 ≤ (Generate.textLengthRange f).2 := by
  obtain ⟨hlow, -⟩ := lengthBounds_le f
  unfold Generate.textLengthRange
  split
  · exact Nat.min_le_right _ _
  · rename_i low hbounds
    have hle := hlow low (by rw [hbounds])
    dsimp only
    omega
  · dsimp only
    omega
  · decide

theorem string_eq (f : Facets) : string f = liftM (Generate.string f) := by
  have hle : ((Generate.textLengthRange f).1 : Int) ≤ (Generate.textLengthRange f).2 :=
    Int.ofNat_le.2 (textLengthRange_le f)
  unfold string
  rw [textLengthRange_eq]
  change (do
    let length ← range .w32 (Generate.textLengthRange f).1 (Generate.textLengthRange f).2
    return String.ofList (← randomChars length.toNat)) = _
  rw [range_eq hle]
  simp only [randomChars_eq]
  rfl

theorem uri_eq : uri = liftM Generate.uri := by
  unfold uri Generate.uri
  rw [randomChars_eq]
  generalize Generate.randomChars 8 = segment
  rfl

theorem language_eq : language = liftM Generate.language := pick_eq (by decide) "en"

theorem octetCount_eq (f : Facets) : octetCount f = liftM (Generate.octetCount f) := by
  unfold octetCount Generate.octetCount
  rcases f.lengthBounds with ⟨_ | low, _ | high⟩
  · rfl
  · rfl
  · rfl
  · have hle : ((min low high : Nat) : Int) ≤ high := Int.ofNat_le.2 (Nat.min_le_right low high)
    dsimp only
    rw [range_eq hle]
    rfl

theorem hexBinary_eq (f : Facets) : hexBinary f = liftM (Generate.hexBinary f) := by
  unfold hexBinary
  rw [octetCount_eq]
  rfl

theorem base64Binary_eq (f : Facets) : base64Binary f = liftM (Generate.base64Binary f) := by
  unfold base64Binary
  rw [octetCount_eq]
  rfl

/-- Nothing is drawn from an empty range when ranges that are found are not empty. -/
theorem bind_range_eq {e : Except GeneratorFailure (Int × Int)} (h : ∀ low high, e = .ok (low, high) → low ≤ high)
    (width : Draw.Width) (text : Int → String) :
    (liftM e >>= fun bounds => range width bounds.1 bounds.2 >>= fun n => pure (text n) : Attempt String) =
      liftM e >>= fun bounds => liftM (Draw.range width bounds.1 bounds.2) >>= fun n => pure (text n) := by
  cases e with
  | error => rfl
  | ok bounds =>
      change (range width bounds.1 bounds.2 >>= fun n => pure (text n)) =
        (liftM (Draw.range width bounds.1 bounds.2) >>= fun n => pure (text n))
      rw [range_eq (h bounds.1 bounds.2 rfl)]

/-! ### Integers -/

theorem nearestWide_mem (n : Int) : Decimal.wideMin ≤ nearestWide n ∧ nearestWide n ≤ Decimal.wideMax := by
  have hwide : Decimal.wideMin ≤ Decimal.wideMax := by decide
  unfold nearestWide
  omega

theorem floorOf_mem (x : Float) : Decimal.wideMin ≤ floorOf x ∧ floorOf x ≤ Decimal.wideMax := by
  unfold floorOf
  split
  · decide
  · split <;> decide
  · exact nearestWide_mem _

theorem ceilOf_mem (x : Float) : Decimal.wideMin ≤ ceilOf x ∧ ceilOf x ≤ Decimal.wideMax := by
  unfold ceilOf
  split
  · decide
  · split <;> decide
  · exact nearestWide_mem _

theorem lowerInteger?_eq (f : Facets) : lowerInteger? f = Generate.lowerInteger? f := by
  unfold lowerInteger? Generate.lowerInteger?
  cases bound? f.minExclusive with
  | none => rfl
  | some x =>
      obtain ⟨hleast, hgreatest⟩ := floorOf_mem x
      dsimp only
      by_cases hlast : floorOf x = Decimal.wideMax
      · rw [if_pos hlast, MachineInteger.fit_of_not_mem (by simp only [MachineInteger.i128]; omega)]
        rfl
      · rw [if_neg hlast, MachineInteger.fit_of_mem (by simp only [MachineInteger.i128]; omega)]
        rfl

theorem upperInteger?_eq (f : Facets) : upperInteger? f = Generate.upperInteger? f := by
  unfold upperInteger? Generate.upperInteger?
  cases bound? f.maxExclusive with
  | none => rfl
  | some x =>
      obtain ⟨hleast, hgreatest⟩ := ceilOf_mem x
      dsimp only
      by_cases hlast : ceilOf x = Decimal.wideMin
      · rw [if_pos hlast, MachineInteger.fit_of_not_mem (by simp only [MachineInteger.i128]; omega)]
        rfl
      · rw [if_neg hlast, MachineInteger.fit_of_mem (by simp only [MachineInteger.i128]; omega)]
        rfl

/-- Thirty digits are fewer than 128 bits. -/
theorem digitLimits_eq (digits : UInt32) : digitLimits digits =
    .ok (-((Nat.pow 10 (min digits.toNat 30) : Int) - 1), (Nat.pow 10 (min digits.toNat 30) : Int) - 1) := by
  have hpositive : 0 < Nat.pow 10 (min digits.toNat 30) := Nat.pow_pos (by decide)
  have hpow : Nat.pow 10 (min digits.toNat 30) ≤ Nat.pow 10 30 :=
    Nat.pow_le_pow_right (by decide) (Nat.min_le_right _ _)
  have hmax : (Nat.pow 10 30 : Int) ≤ Decimal.wideMax := by decide
  have hmin : Decimal.wideMin ≤ -(Nat.pow 10 30 : Int) := by decide
  have hfits : ∀ n : Int, -(Nat.pow 10 30 : Int) ≤ n → n ≤ (Nat.pow 10 30 : Int) → MachineInteger.i128.fit n = .ok n :=
    fun n hleast hgreatest => MachineInteger.fit_of_mem ⟨Int.le_trans hmin hleast, Int.le_trans hgreatest hmax⟩
  unfold digitLimits
  rw [hfits _ (by omega) (by omega)]
  exact Except.bind_eq_ok.2 ⟨_, rfl, Except.bind_eq_ok.2 ⟨_, hfits _ (by omega) (by omega), rfl⟩⟩

theorem integerRange_eq (f : Facets) : integerRange f = Generate.integerRange f := by
  unfold integerRange Generate.integerRange
  rw [lowerInteger?_eq, upperInteger?_eq]
  cases f.totalDigits with
  | none => rfl
  | some digits =>
      dsimp only
      rw [digitLimits_eq]
      rfl

/-- A range that is not refused is not empty. -/
theorem le_of_not_refused {f : Facets} {reason : String} (range : Int × Int) {low high : Int}
    (h : (if range.2 < range.1 then unsatisfiable f reason else .ok range) = .ok (low, high)) : low ≤ high := by
  split at h
  · cases h
  · rename_i hordered
    obtain rfl := Except.ok.inj h
    exact Int.not_lt.1 hordered

theorem integerRange_le {f : Facets} {low high : Int} (h : Generate.integerRange f = .ok (low, high)) : low ≤ high := by
  obtain ⟨lower, -, h⟩ := Except.bind_eq_ok.1 h
  obtain ⟨upper, -, h⟩ := Except.bind_eq_ok.1 h
  exact le_of_not_refused _ h

theorem integer_eq (f : Facets) : integer f = Generate.integer f := by
  unfold integer
  rw [integerRange_eq]
  exact bind_range_eq (fun _ _ => integerRange_le) .w128 toString

/-! ### Years -/

theorem yearBound_eq {fallback : Int} (h : MachineInteger.i32.least ≤ fallback ∧ fallback ≤ MachineInteger.i32.greatest)
    (included excluded : Option String) (step : Int) :
    yearBound included excluded step fallback = Generate.yearBound included excluded step fallback := by
  unfold yearBound Generate.yearBound
  rw [MachineInteger.fit_of_mem h]
  cases included.bind yearOf? with
  | some y => rfl
  | none =>
      cases excluded.bind yearOf? with
      | none => rfl
      | some y =>
          have hmem : -(Nat.pow 2 31) ≤ y + step ∧ y + step < Nat.pow 2 31 ↔
              MachineInteger.i32.least ≤ y + step ∧ y + step ≤ MachineInteger.i32.greatest :=
            and_congr_right fun _ => Int.le_sub_one_iff.symm
          dsimp only
          by_cases hfits : MachineInteger.i32.least ≤ y + step ∧ y + step ≤ MachineInteger.i32.greatest
          · rw [MachineInteger.fit_of_mem hfits, if_pos (hmem.2 hfits)]
            rfl
          · rw [MachineInteger.fit_of_not_mem hfits, if_neg (mt hmem.1 hfits)]
            rfl

theorem yearRange_eq (f : Facets) {base : Date} (hfirst : 1 ≤ base.year) (hlast : base.year ≤ 9990) :
    yearRange f base = Generate.yearRange f base := by
  have hmem : ∀ n : Int, -4 ≤ n → n ≤ 9995 → MachineInteger.i32.least ≤ n ∧ n ≤ MachineInteger.i32.greatest := by
    have hword : MachineInteger.i32.least ≤ -4 ∧ 9995 ≤ MachineInteger.i32.greatest := by decide
    intro n hleast hgreatest
    omega
  unfold yearRange Generate.yearRange
  rw [yearBound_eq (hmem _ (by omega) (by omega)), yearBound_eq (hmem _ (by omega) (by omega))]

theorem yearRange_le {f : Facets} {base : Date} {low high : Int} (h : Generate.yearRange f base = .ok (low, high)) :
    low ≤ high := by
  obtain ⟨first, -, h⟩ := Except.bind_eq_ok.1 h
  obtain ⟨last, -, h⟩ := Except.bind_eq_ok.1 h
  exact le_of_not_refused (first, last) h

theorem gYear_eq (f : Facets) {base : Date} (hfirst : 1 ≤ base.year) (hlast : base.year ≤ 9990) :
    gYear f base = Generate.gYear f base := by
  unfold gYear
  rw [yearRange_eq f hfirst hlast]
  exact bind_range_eq (fun _ _ => yearRange_le) .w32 (paddedInt 4)

/-- The checks change nothing of what a generator gives. -/
theorem run_eq (g : PrimitiveGenerator) (libraries : Libraries) {leaf : Leaf} (hfirst : 1 ≤ leaf.baseDate.year)
    (hlast : leaf.baseDate.year ≤ 9990) : run g libraries leaf = g.run libraries leaf := by
  cases g with
  | base64 => exact base64Binary_eq leaf.facets
  | gYear => exact gYear_eq leaf.facets hfirst hlast
  | hex => exact hexBinary_eq leaf.facets
  | integer => exact integer_eq leaf.facets
  | language => exact language_eq
  | string => exact string_eq leaf.facets
  | uri => exact uri_eq
  | _ => rfl

end Generate.Checked

/-! ## Bounds with no step beyond them -/

/-- Whether a number has a sign and at least a magnitude. -/
def FloatParts.Reaches (negative : Bool) (bound : Nat) : FloatParts → Prop
  | .nan => False
  | .infinite n => n = negative
  | .finite n m q => n = negative ∧ bound * Nat.pow 2 (-q).toNat ≤ m * Nat.pow 2 q.toNat

namespace Generate

theorem le_wholeBelow_iff (bound m : Nat) (q : Int) :
    (bound : Int) ≤ wholeBelow m q ↔ bound * Nat.pow 2 (-q).toNat ≤ m * Nat.pow 2 q.toNat := by
  unfold wholeBelow
  by_cases hq : 0 ≤ q
  · have hzero : (-q).toNat = 0 := by omega
    rw [if_pos hq, hzero, ← Int.natCast_mul, Int.ofNat_le]
    exact Eq.to_iff (by rw [show Nat.pow 2 0 = 1 from rfl, Nat.mul_one])
  · have hzero : q.toNat = 0 := by omega
    have hpositive : 0 < Nat.pow 2 (-q).toNat := Nat.pow_pos (by decide)
    rw [if_neg hq, hzero, Int.le_ediv_iff_mul_le (Int.ofNat_lt.2 hpositive), ← Int.natCast_mul, Int.ofNat_le]
    exact Eq.to_iff (by rw [show Nat.pow 2 0 = 1 from rfl, Nat.mul_one])

theorem wholeBelow_neg_le (m : Nat) (q : Int) : wholeBelow (-(m : Int)) q ≤ 0 := by
  unfold wholeBelow
  have hpositive : ∀ k, 0 < (Nat.pow 2 k : Int) := fun k => Int.ofNat_lt.2 (Nat.pow_pos (by decide))
  split
  · rw [Int.neg_mul]
    exact Int.neg_nonpos_of_nonneg (Int.mul_nonneg (Int.natCast_nonneg m) (Int.le_of_lt (hpositive _)))
  · refine Int.not_lt.1 fun hlt => ?_
    have hle := (Int.le_ediv_iff_mul_le (hpositive _)).1 (Int.add_one_le_of_lt hlt)
    have hsize := hpositive (-q).toNat
    omega

/-- Rounding down gives the greatest integer for the numbers that are not below it. -/
theorem floorOf_eq_wideMax_iff (x : Float) :
    floorOf x = Decimal.wideMax ↔ (FloatParts.ofFloat x).Reaches false (Nat.pow 2 127 - 1) := by
  have hmax : Decimal.wideMax = ((Nat.pow 2 127 - 1 : Nat) : Int) := by decide
  have hwide : Decimal.wideMin < 0 ∧ 0 < Decimal.wideMax := by decide
  have hclamp : ∀ n, nearestWide n = Decimal.wideMax ↔ Decimal.wideMax ≤ n := by
    intro n
    unfold nearestWide
    omega
  unfold floorOf FloatParts.Reaches
  cases FloatParts.ofFloat x with
  | nan => exact iff_of_false (Int.ne_of_lt hwide.2) id
  | infinite negative =>
      cases negative with
      | false => exact iff_of_true rfl rfl
      | true => exact iff_of_false (Int.ne_of_lt (Int.lt_trans hwide.1 hwide.2)) nofun
  | finite negative m q =>
      dsimp only
      rw [hclamp]
      cases negative with
      | false =>
          rw [if_neg Bool.false_ne_true, hmax, le_wholeBelow_iff]
          exact (and_iff_right rfl).symm
      | true =>
          have hneg := wholeBelow_neg_le m q
          rw [if_pos rfl]
          exact iff_of_false (by omega) fun h => nomatch h.1

/-- Rounding up gives the least integer for the numbers that are not above it. -/
theorem ceilOf_eq_wideMin_iff (x : Float) :
    ceilOf x = Decimal.wideMin ↔ (FloatParts.ofFloat x).Reaches true (Nat.pow 2 127) := by
  have hmin : Decimal.wideMin = -((Nat.pow 2 127 : Nat) : Int) := by decide
  have hwide : Decimal.wideMin < 0 ∧ 0 < Decimal.wideMax := by decide
  have hclamp : ∀ n, nearestWide (-n) = Decimal.wideMin ↔ ((Nat.pow 2 127 : Nat) : Int) ≤ n := by
    intro n
    unfold nearestWide
    omega
  unfold ceilOf FloatParts.Reaches
  cases FloatParts.ofFloat x with
  | nan => exact iff_of_false (Int.ne_of_gt hwide.1) id
  | infinite negative =>
      cases negative with
      | false => exact iff_of_false (Int.ne_of_gt (Int.lt_trans hwide.1 hwide.2)) nofun
      | true => exact iff_of_true rfl rfl
  | finite negative m q =>
      dsimp only
      rw [hclamp]
      cases negative with
      | false =>
          have hneg := wholeBelow_neg_le m q
          rw [if_neg Bool.false_ne_true]
          exact iff_of_false (by omega) fun h => nomatch h.1
      | true =>
          rw [if_pos rfl, le_wholeBelow_iff]
          exact (and_iff_right rfl).symm

/-! ### When generators break -/

theorem exists_broken_ite {α : Type} {p : Prop} [Decidable p] {fault : Fault} {a : α} :
    (∃ fault', (if p then broken fault else .ok a : Except GeneratorFailure α) = .error (.broken fault')) ↔ p := by
  by_cases h : p
  · rw [if_pos h]
    exact iff_of_true ⟨fault, rfl⟩ h
  · rw [if_neg h]
    exact iff_of_false nofun h

/-- An integer above an excluded bound is missing when the bound is the greatest integer. -/
theorem lowerInteger?_broken_iff (f : Facets) : (∃ fault, lowerInteger? f = .error (.broken fault)) ↔
    ∃ x, bound? f.minExclusive = some x ∧ (FloatParts.ofFloat x).Reaches false (Nat.pow 2 127 - 1) := by
  unfold lowerInteger?
  cases bound? f.minExclusive with
  | none => exact iff_of_false nofun nofun
  | some x =>
      dsimp only
      rw [exists_broken_ite, floorOf_eq_wideMax_iff]
      simp

theorem upperInteger?_broken_iff (f : Facets) : (∃ fault, upperInteger? f = .error (.broken fault)) ↔
    ∃ x, bound? f.maxExclusive = some x ∧ (FloatParts.ofFloat x).Reaches true (Nat.pow 2 127) := by
  unfold upperInteger?
  cases bound? f.maxExclusive with
  | none => exact iff_of_false nofun nofun
  | some x =>
      dsimp only
      rw [exists_broken_ite, ceilOf_eq_wideMin_iff]
      simp

theorem yearOf?_mem {s : String} {y : Int} (h : yearOf? s = some y) : -(Nat.pow 2 31) ≤ y ∧ y ≤ Nat.pow 2 31 - 1 := by
  unfold yearOf? Decimal.readIntWithin? at h
  dsimp only at h
  split at h
  · cases h
  · split at h
    · split at h
      · rename_i hmem
        obtain rfl := Option.some.inj h
        simpa using hmem
      · cases h
    · cases h

/-- A year beyond an excluded bound is missing when the bound is the last year in this direction, unless there is a
bound that is included. -/
theorem yearBound_broken_iff (included excluded : Option String) (step fallback : Int) :
    (∃ fault, yearBound included excluded step fallback = .error (.broken fault)) ↔
      included.bind yearOf? = none ∧ ∃ y, excluded.bind yearOf? = some y ∧
        ¬ (-(Nat.pow 2 31) ≤ y + step ∧ y + step < Nat.pow 2 31) := by
  unfold yearBound
  cases included.bind yearOf? with
  | some y => exact iff_of_false nofun nofun
  | none =>
      cases excluded.bind yearOf? with
      | none => exact iff_of_false nofun nofun
      | some y =>
          dsimp only
          rw [← ite_not, exists_broken_ite]
          simp

theorem firstYear_broken_iff (f : Facets) (fallback : Int) :
    (∃ fault, yearBound f.minInclusive f.minExclusive 1 fallback = .error (.broken fault)) ↔
      f.minInclusive.bind yearOf? = none ∧ f.minExclusive.bind yearOf? = some ((Nat.pow 2 31 : Int) - 1) := by
  rw [yearBound_broken_iff]
  refine and_congr_right fun _ => ⟨?_, fun h => ⟨_, h, by decide⟩⟩
  rintro ⟨y, hy, hlast⟩
  obtain ⟨s, -, hs⟩ := Option.bind_eq_some_iff.1 hy
  obtain ⟨hleast, hgreatest⟩ := yearOf?_mem hs
  rw [hy]
  exact congrArg some (by omega)

theorem lastYear_broken_iff (f : Facets) (fallback : Int) :
    (∃ fault, yearBound f.maxInclusive f.maxExclusive (-1) fallback = .error (.broken fault)) ↔
      f.maxInclusive.bind yearOf? = none ∧ f.maxExclusive.bind yearOf? = some (-(Nat.pow 2 31 : Int)) := by
  rw [yearBound_broken_iff]
  refine and_congr_right fun _ => ⟨?_, fun h => ⟨_, h, by decide⟩⟩
  rintro ⟨y, hy, hlast⟩
  obtain ⟨s, -, hs⟩ := Option.bind_eq_some_iff.1 hy
  obtain ⟨hleast, hgreatest⟩ := yearOf?_mem hs
  rw [hy]
  exact congrArg some (by omega)

/-- What is found from two ends breaks exactly when an end does: a range that is refused is no breach. -/
theorem ends_broken_iff {α β : Type} {x y : Except GeneratorFailure α} {next : α → α → Except GeneratorFailure β}
    (hx : ∀ e, x = .error e → ∃ fault, e = .broken fault) (hnext : ∀ a b fault, next a b ≠ .error (.broken fault)) :
    (∃ fault, (x >>= fun a => y >>= fun b => next a b) = .error (.broken fault)) ↔
      (∃ fault, x = .error (.broken fault)) ∨ ∃ fault, y = .error (.broken fault) := by
  constructor
  · rintro ⟨fault, h⟩
    rcases Except.bind_eq_error.1 h with h | ⟨a, -, h⟩
    · exact .inl ⟨fault, h⟩
    · rcases Except.bind_eq_error.1 h with h | ⟨b, -, h⟩
      · exact .inr ⟨fault, h⟩
      · exact absurd h (hnext a b fault)
  · rintro (⟨fault, h⟩ | ⟨fault, h⟩)
    · exact ⟨fault, Except.bind_eq_error.2 (.inl h)⟩
    · cases hfirst : x with
      | error e =>
          obtain ⟨fault', rfl⟩ := hx e hfirst
          exact ⟨fault', rfl⟩
      | ok a => exact ⟨fault, Except.bind_eq_error.2 (.inr ⟨a, rfl, Except.bind_eq_error.2 (.inl h)⟩)⟩

theorem refused_ne_broken {f : Facets} {reason : String} (range : Int × Int) (fault : Fault) :
    (if range.2 < range.1 then unsatisfiable f reason else .ok range) ≠ .error (.broken fault) := by
  split <;> nofun

theorem integerRange_broken_iff (f : Facets) : (∃ fault, integerRange f = .error (.broken fault)) ↔
    (∃ fault, lowerInteger? f = .error (.broken fault)) ∨ ∃ fault, upperInteger? f = .error (.broken fault) := by
  refine ends_broken_iff (x := lowerInteger? f) (y := upperInteger? f) (fun e h => ?_) fun _ _ => refused_ne_broken _
  unfold lowerInteger? at h
  dsimp only at h
  split at h
  · cases h
  · split at h
    · exact ⟨_, (Except.error.inj h).symm⟩
    · cases h

theorem yearRange_broken_iff (f : Facets) (base : Date) : (∃ fault, yearRange f base = .error (.broken fault)) ↔
    (∃ fault, yearBound f.minInclusive f.minExclusive 1 (base.year - 5) = .error (.broken fault)) ∨
      ∃ fault, yearBound f.maxInclusive f.maxExclusive (-1) (base.year + 5) = .error (.broken fault) := by
  refine ends_broken_iff (fun e h => ?_) fun low high => refused_ne_broken (low, high)
  unfold yearBound at h
  split at h
  · cases h
  · split at h
    · split at h
      · cases h
      · exact ⟨_, (Except.error.inj h).symm⟩
    · cases h

end Generate

/-- The types whose values are texts, words or names. -/
def Primitive.isWritten : Primitive → Bool
  | .string | .normalizedString | .token | .language | .name | .ncName | .nmToken | .qName | .id | .idRef
  | .anyUri => true
  | _ => false

/-- An excluded bound lies at the end of its machine integers or beyond it: that of an integer is at least the greatest
one or at most the least one, and that of a year is the last year, while no year that can be read is included. -/
inductive Facets.Oversteps (f : Facets) : Prop where
  | integerBelow {x : Float} (base : f.base.isInteger = true) (bound : Generate.bound? f.minExclusive = some x)
      (reaches : (FloatParts.ofFloat x).Reaches false (Nat.pow 2 127 - 1))
  | integerAbove {x : Float} (base : f.base.isInteger = true) (bound : Generate.bound? f.maxExclusive = some x)
      (reaches : (FloatParts.ofFloat x).Reaches true (Nat.pow 2 127))
  | yearBelow (base : f.base = .gYear) (included : f.minInclusive.bind Generate.yearOf? = none)
      (bound : f.minExclusive.bind Generate.yearOf? = some ((Nat.pow 2 31 : Int) - 1))
  | yearAbove (base : f.base = .gYear) (included : f.maxInclusive.bind Generate.yearOf? = none)
      (bound : f.maxExclusive.bind Generate.yearOf? = some (-(Nat.pow 2 31 : Int)))

namespace Generate

/-- What a generator gives for a leaf when its steps are checked. -/
def Checked.outcome (g : PrimitiveGenerator) (libraries : Libraries) (leaf : Leaf) (rng : Rng) :
    Except GeneratorFailure String := (ExceptT.run (Checked.run g libraries leaf) rng).1

variable {f : Facets}

theorem bind_ok_broken_iff {α : Type} {e : Except GeneratorFailure α} {text : α → String} :
    (∃ fault, (e.bind fun a => .ok (text a)) = .error (.broken fault)) ↔ ∃ fault, e = .error (.broken fault) := by
  cases e with
  | error e =>
      refine exists_congr fun fault => ?_
      exact ⟨fun h => congrArg _ (Except.error.inj h), fun h => congrArg _ (Except.error.inj h)⟩
  | ok a => exact iff_of_false nofun nofun

theorem run_lift (draw : Draw String) (rng : Rng) :
    (ExceptT.run (liftM draw : Attempt String) rng).1 = .ok (draw rng).1 := rfl

/-- The generators of texts, words, names and octets always give a value. -/
theorem outcome_eq_ok {g : PrimitiveGenerator}
    (hg : g ∈ [.base64, .hex, .language, .ncName, .qName, .string, .uri]) (libraries : Libraries) (leaf : Leaf)
    (rng : Rng) : ∃ value, g.outcome libraries leaf rng = .ok value := by
  simp only [List.mem_cons, List.not_mem_nil, or_false] at hg
  rcases hg with rfl | rfl | rfl | rfl | rfl | rfl | rfl
  · exact ⟨_, run_lift (base64Binary leaf.facets) rng⟩
  · exact ⟨_, run_lift (hexBinary leaf.facets) rng⟩
  · exact ⟨_, run_lift language rng⟩
  · exact ⟨_, run_lift (ncName leaf.name) rng⟩
  · exact ⟨_, run_lift (ncName leaf.name) rng⟩
  · exact ⟨_, run_lift (string leaf.facets) rng⟩
  · exact ⟨_, run_lift uri rng⟩

theorem integer_broken_iff (libraries : Libraries) (leaf : Leaf) (hbase : leaf.facets.base.isInteger = true)
    (rng : Rng) : (∃ fault, PrimitiveGenerator.integer.outcome libraries leaf rng = .error (.broken fault)) ↔
      leaf.facets.Oversteps := by
  have hyear : leaf.facets.base ≠ .gYear := fun h => by
    rw [h] at hbase
    cases hbase
  rw [integer_outcome, bind_ok_broken_iff, integerRange_broken_iff, lowerInteger?_broken_iff,
    upperInteger?_broken_iff]
  constructor
  · rintro (⟨x, hbound, hreaches⟩ | ⟨x, hbound, hreaches⟩)
    · exact .integerBelow hbase hbound hreaches
    · exact .integerAbove hbase hbound hreaches
  · rintro (⟨-, hbound, hreaches⟩ | ⟨-, hbound, hreaches⟩ | ⟨h, -, -⟩ | ⟨h, -, -⟩)
    · exact .inl ⟨_, hbound, hreaches⟩
    · exact .inr ⟨_, hbound, hreaches⟩
    · exact absurd h hyear
    · exact absurd h hyear

theorem gYear_broken_iff (libraries : Libraries) (leaf : Leaf) (hbase : leaf.facets.base = .gYear) (rng : Rng) :
    (∃ fault, PrimitiveGenerator.gYear.outcome libraries leaf rng = .error (.broken fault)) ↔
      leaf.facets.Oversteps := by
  have hinteger : leaf.facets.base.isInteger ≠ true := by
    rw [hbase]
    decide
  rw [gYear_outcome, bind_ok_broken_iff, yearRange_broken_iff, firstYear_broken_iff, lastYear_broken_iff]
  constructor
  · rintro (⟨hincluded, hbound⟩ | ⟨hincluded, hbound⟩)
    · exact .yearBelow hbase hincluded hbound
    · exact .yearAbove hbase hincluded hbound
  · rintro (⟨h, -, -⟩ | ⟨h, -, -⟩ | ⟨-, hincluded, hbound⟩ | ⟨-, hincluded, hbound⟩)
    · exact absurd h hinteger
    · exact absurd h hinteger
    · exact .inl ⟨hincluded, hbound⟩
    · exact .inr ⟨hincluded, hbound⟩

/-- Without a pattern and an enumeration, the checked steps of a generator of integers, years, texts, names or octets
break exactly when an excluded bound leaves no step beyond it; otherwise there is a value, or the facets are refused.
The steps are those of the generator: without the checks it gives the same. -/
theorem breaks_iff_oversteps (f : Facets) (hpattern : f.pattern = none) (henumeration : f.enumeration = [])
    (hbase : f.base.isInteger = true ∨ f.base = .gYear ∨ f.base.isWritten = true ∨ f.base = .hexBinary ∨
      f.base = .base64Binary)
    (name path : String) (baseDate : Date) (hfirst : 1 ≤ baseDate.year) (hlast : baseDate.year ≤ 9990)
    (libraries : Libraries) (rng : Rng) :
    Checked.outcome (Generator.forFacets f) libraries ⟨name, path, f, baseDate⟩ rng =
        (Generator.forFacets f).outcome libraries ⟨name, path, f, baseDate⟩ rng ∧
      ((∃ fault, Checked.outcome (Generator.forFacets f) libraries ⟨name, path, f, baseDate⟩ rng =
          .error (.broken fault)) ↔ f.Oversteps) := by
  have hsame : Checked.outcome (Generator.forFacets f) libraries ⟨name, path, f, baseDate⟩ rng =
      (Generator.forFacets f).outcome libraries ⟨name, path, f, baseDate⟩ rng := by
    unfold Checked.outcome PrimitiveGenerator.outcome
    rw [Checked.run_eq (Generator.forFacets f) libraries hfirst hlast]
  refine ⟨hsame, ?_⟩
  rw [hsame]
  have hgenerator : Generator.forFacets f = Generator.forFacets (.ofBase f.base) := by
    unfold Generator.forFacets
    rw [hpattern, henumeration]
    rfl
  have hothers : f.base.isInteger ≠ true → f.base ≠ .gYear →
      Generator.forFacets f ∈ [.base64, .hex, .language, .ncName, .qName, .string, .uri] →
      ((∃ fault, (Generator.forFacets f).outcome libraries ⟨name, path, f, baseDate⟩ rng =
          .error (.broken fault)) ↔ f.Oversteps) := by
    intro hinteger hyear hg
    obtain ⟨value, hvalue⟩ := outcome_eq_ok hg libraries ⟨name, path, f, baseDate⟩ rng
    rw [hvalue]
    refine iff_of_false nofun ?_
    rintro (⟨h, -, -⟩ | ⟨h, -, -⟩ | ⟨h, -, -⟩ | ⟨h, -, -⟩)
    · exact hinteger h
    · exact hinteger h
    · exact hyear h
    · exact hyear h
  rcases hbase with hinteger | hyear | hwritten | hhex | hbase64
  · have hinteger' : Generator.forFacets (.ofBase f.base) = .integer := by
      generalize f.base = base at hinteger
      cases base <;> first | rfl | cases hinteger
    rw [hgenerator, hinteger']
    exact integer_broken_iff libraries ⟨name, path, f, baseDate⟩ hinteger rng
  · rw [hgenerator, hyear]
    exact gYear_broken_iff libraries ⟨name, path, f, baseDate⟩ hyear rng
  · rw [hgenerator] at hothers ⊢
    generalize f.base = base at hwritten hothers
    cases base <;> first | exact hothers (by decide) (by decide) (by decide) | cases hwritten
  · rw [hgenerator, hhex] at hothers ⊢
    exact hothers (by decide) (by decide) (by decide)
  · rw [hgenerator, hbase64] at hothers ⊢
    exact hothers (by decide) (by decide) (by decide)

/-- There is a year after the last one but one. -/
theorem breaks_iff_oversteps_year :
    let f : Facets := { base := .gYear, minExclusive := some "2147483646", maxInclusive := some "2147483647" }
    ¬ f.Oversteps ∧
      (Generator.forFacets f).outcome .standard ⟨"year", "/year", f, ⟨2024, 1, 31⟩⟩ (Rng.ofSeed 7) = .ok "2147483647" ∧
      ¬ ∃ fault, Checked.outcome (Generator.forFacets f) .standard ⟨"year", "/year", f, ⟨2024, 1, 31⟩⟩ (Rng.ofSeed 7) =
        .error (.broken fault) := by
  intro f
  have hoversteps : ¬ f.Oversteps := by
    rintro (⟨h, -, -⟩ | ⟨h, -, -⟩ | ⟨-, -, h⟩ | ⟨-, h, -⟩)
    · exact absurd h (by decide)
    · exact absurd h (by decide)
    · exact absurd h (by decide)
    · exact absurd h (by decide)
  have hbreaks := breaks_iff_oversteps f rfl rfl (.inr (.inl rfl)) "year" "/year" ⟨2024, 1, 31⟩ (by decide) (by decide)
    .standard (Rng.ofSeed 7)
  exact ⟨hoversteps, by decide +kernel, mt hbreaks.2.1 hoversteps⟩

/-- There is no year after the last one, and the step beyond it breaks. -/
theorem last_year_breaks :
    let f : Facets := { base := .gYear, minExclusive := some "2147483647" }
    f.pattern = none ∧ f.enumeration = [] ∧
      (Generator.forFacets f).outcome .standard ⟨"year", "/year", f, ⟨2024, 1, 1⟩⟩ (Rng.ofSeed 7) =
        .error (.broken .integerOverflow) := by
  intro f
  exact ⟨rfl, rfl, by decide +kernel⟩

end Generate

end Specimen
