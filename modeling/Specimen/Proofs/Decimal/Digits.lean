import Mathlib.Data.List.TakeWhile
import Specimen.Calendar.Date
import Specimen.Validity.Lexical

/-!
# Numbers that are written and read

What is written of a number is read as this number, with its sign and with leading zeros.  Texts of the same number
of digits are in the order of their numbers.
-/

namespace Specimen

/-! ## Digits -/

namespace Text

variable {c : Char}

theorem toNat_of_isDigit (h : c.isDigit = true) : 48 ≤ c.toNat ∧ c.toNat ≤ 57 := by
  simpa [Char.isDigit, UInt32.le_iff_toNat_le] using h

theorem isAlphabetic_of_isDigit (h : c.isDigit = true) : Text.isAlphabetic c = false := by
  obtain ⟨hlow, hhigh⟩ := toNat_of_isDigit h
  have hascii : c.toNat < 128 := by omega
  have hcode : c.val.toNat = c.toNat := rfl
  unfold Text.isAlphabetic Char.isAlpha Char.isUpper Char.isLower
  simp only [if_pos hascii, UInt32.le_iff_toNat_le, Bool.or_eq_false_iff, Bool.and_eq_false_iff,
    decide_eq_false_iff_not]
  simp
  omega

theorem isBlank_of_isDigit (h : c.isDigit = true) : Text.isBlank c = false := by
  obtain ⟨hlow, hhigh⟩ := toNat_of_isDigit h
  have hascii : c.toNat < 128 := by omega
  have hspace : c ≠ ' ' := by
    rintro rfl
    cases h
  simp [Text.isBlank, hascii, hspace]
  omega

end Text

namespace Decimal

theorem ofDigits_eq (cs : List Char) : ofDigits cs = Nat.ofDigitChars 10 cs 0 := by
  unfold ofDigits
  rw [Nat.ofDigitChars_eq_foldl]
  congr 1
  funext n c
  rw [Nat.mul_comm]

theorem ofDigits_toDigits (n : Nat) : ofDigits (Nat.toDigits 10 n) = n := by
  rw [ofDigits_eq, Nat.ofDigitChars_ten_toDigits]

theorem ofDigits_replicate_append (zeros : Nat) (cs : List Char) :
    ofDigits (List.replicate zeros '0' ++ cs) = ofDigits cs := by
  rw [ofDigits_eq, ofDigits_eq, Nat.ofDigitChars_append, Nat.ofDigitChars_replicate_zero, Nat.mul_zero]

theorem ofDigits_cons (c : Char) (cs : List Char) :
    ofDigits (c :: cs) = Nat.pow 10 cs.length * (c.toNat - 48) + ofDigits cs := by
  rw [ofDigits_eq, ofDigits_eq, Nat.ofDigitChars_cons, Nat.ofDigitChars_eq_ofDigitChars_zero, Nat.mul_zero,
    Nat.zero_add]
  rfl

theorem mul_add_lt {size rest d e : Nat} (hrest : rest < size) (h : d < e) : size * d + rest < size * e :=
  calc size * d + rest < size * d + size := Nat.add_lt_add_left hrest _
    _ = size * (d + 1) := (Nat.mul_succ size d).symm
    _ ≤ size * e := Nat.mul_le_mul_left size h

theorem ofDigits_lt {cs : List Char} (h : ∀ c ∈ cs, c.isDigit = true) : ofDigits cs < Nat.pow 10 cs.length := by
  induction cs with
  | nil => decide
  | cons c cs ih =>
      have hdigit := Text.toNat_of_isDigit (h c List.mem_cons_self)
      rw [ofDigits_cons, List.length_cons]
      exact mul_add_lt (ih fun d hd => h d (List.mem_cons_of_mem c hd)) (by omega)

/-- Characters that are all digits, of which there is at least one. -/
structure IsNumeral (cs : List Char) : Prop where
  nonempty : cs ≠ []
  digits : ∀ c ∈ cs, c.isDigit = true

namespace IsNumeral

variable {cs : List Char}

theorem toDigits (n : Nat) : IsNumeral (Nat.toDigits 10 n) where
  nonempty := Nat.toDigits_ne_nil
  digits _ := Nat.isDigit_of_mem_toDigits (by decide) (by decide)

theorem replicate_append (h : IsNumeral cs) (zeros : Nat) : IsNumeral (List.replicate zeros '0' ++ cs) where
  nonempty := fun hnil => h.nonempty (List.append_eq_nil_iff.1 hnil).2
  digits c hc := by
    rcases List.mem_append.1 hc with hc | hc
    · rw [List.eq_of_mem_replicate hc]
      rfl
    · exact h.digits c hc

theorem ne_of_mem (h : IsNumeral cs) {mark : Char} (hmark : mark.isDigit = false) {c : Char} (hc : c ∈ cs) :
    c ≠ mark := by
  rintro rfl
  rw [h.digits c hc] at hmark
  cases hmark

theorem all_isDigit (h : IsNumeral cs) : cs.all Char.isDigit = true := List.all_eq_true.2 h.digits

theorem readNat? (h : IsNumeral cs) : Decimal.readNat? cs = some (ofDigits cs) := by
  unfold Decimal.readNat?
  rw [h.all_isDigit, List.isEmpty_eq_false_iff.2 h.nonempty]
  rfl

theorem readInt? (h : IsNumeral cs) : Decimal.readInt? cs = some (ofDigits cs : Int) := by
  have hread := h.readNat?
  cases cs with
  | nil => exact absurd rfl h.nonempty
  | cons c rest =>
      have hplus : c ≠ '+' := h.ne_of_mem (by decide) List.mem_cons_self
      have hminus : c ≠ '-' := h.ne_of_mem (by decide) List.mem_cons_self
      unfold Decimal.readInt?
      split
      · rename_i heq
        exact absurd (List.cons.inj heq).1 hplus
      · rename_i heq
        exact absurd (List.cons.inj heq).1 hminus
      · rw [hread]
        rfl

theorem readInt?_neg (h : IsNumeral cs) : Decimal.readInt? ('-' :: cs) = some (-(ofDigits cs : Int)) := by
  have hread := h.readNat?
  unfold Decimal.readInt?
  simp only [hread]
  rfl

end IsNumeral

/-- A number that is read and lies within bounds is read within these bounds. -/
theorem readIntWithin?_of_readInt? {low high n : Int} {s : String} (hread : readInt? s.toList = some n)
    (hsign : s.toList.head? = some '-' → n < 0) (hlow : low ≤ n) (hhigh : n ≤ high) :
    readIntWithin? low high s = some n := by
  have hsigned : ¬ (0 ≤ low && s.toList.head? == some '-') = true := by
    intro h
    rw [Bool.and_eq_true, beq_iff_eq, decide_eq_true_eq] at h
    exact absurd (hsign h.2) (Int.not_lt.2 (Int.le_trans h.1 hlow))
  unfold readIntWithin?
  dsimp only
  rw [if_neg hsigned, hread]
  dsimp only
  rw [if_pos (by simp [hlow, hhigh])]

end Decimal

/-! ## Leading zeros -/

theorem toList_paddedNat (width n : Nat) : (paddedNat width n).toList =
    List.replicate (width - (Nat.toDigits 10 n).length) '0' ++ Nat.toDigits 10 n := by
  rw [paddedNat, String.toList_ofList, Nat.toList_repr]

theorem isNumeral_paddedNat (width n : Nat) : Decimal.IsNumeral (paddedNat width n).toList := by
  rw [toList_paddedNat]
  exact (Decimal.IsNumeral.toDigits n).replicate_append _

theorem ofDigits_paddedNat (width n : Nat) : Decimal.ofDigits (paddedNat width n).toList = n := by
  rw [toList_paddedNat, Decimal.ofDigits_replicate_append, Decimal.ofDigits_toDigits]

/-- A number that has no more digits than the width is written in just this width. -/
theorem length_paddedNat {width n : Nat} (hwidth : 0 < width) (hn : n < Nat.pow 10 width) :
    (paddedNat width n).toList.length = width := by
  have hlength : (Nat.toDigits 10 n).length ≤ width := (Nat.length_toDigits_le_iff (by decide) hwidth).2 hn
  rw [toList_paddedNat, List.length_append, List.length_replicate]
  omega

theorem le_length_paddedNat (width n : Nat) : width ≤ (paddedNat width n).toList.length := by
  rw [toList_paddedNat, List.length_append, List.length_replicate]
  omega

theorem toList_paddedInt_of_neg {n : Int} (hn : n < 0) (width : Nat) :
    (paddedInt width n).toList = '-' :: (paddedNat (width - 1) n.natAbs).toList := by
  rw [paddedInt, if_pos hn, String.toList_append]
  rfl

theorem paddedInt_of_nonneg {n : Int} (hn : 0 ≤ n) (width : Nat) :
    paddedInt width n = paddedNat width n.natAbs := by
  rw [paddedInt, if_neg (Int.not_lt.2 hn)]

/-- An integer without leading zeros. -/
theorem toString_eq_paddedInt (n : Int) : toString n = paddedInt 0 n := by
  have hnat : ∀ m : Nat, paddedNat 0 m = Nat.repr m := by
    intro m
    rw [paddedNat, Nat.zero_sub, List.replicate_zero, List.nil_append, String.ofList_toList]
  cases n with
  | ofNat m =>
      have hpadded : paddedInt 0 (Int.ofNat m) = paddedNat 0 m := paddedInt_of_nonneg (Int.natCast_nonneg m) 0
      rw [hpadded, hnat]
      rfl
  | negSucc m =>
      rw [paddedInt, if_pos (Int.negSucc_lt_zero m), Nat.zero_sub, hnat]
      rfl

namespace Decimal

theorem readInt?_paddedInt (width : Nat) (n : Int) : readInt? (paddedInt width n).toList = some n := by
  rcases Int.lt_or_le n 0 with hn | hn
  · rw [toList_paddedInt_of_neg hn, (isNumeral_paddedNat _ _).readInt?_neg, ofDigits_paddedNat]
    congr 1
    omega
  · rw [paddedInt_of_nonneg hn, (isNumeral_paddedNat _ _).readInt?, ofDigits_paddedNat]
    congr 1
    omega

theorem neg_of_head?_paddedInt {width : Nat} {n : Int} (h : (paddedInt width n).toList.head? = some '-') :
    n < 0 := by
  by_contra hn
  rw [paddedInt_of_nonneg (Int.not_lt.1 hn)] at h
  exact (isNumeral_paddedNat width n.natAbs).ne_of_mem (by decide) (List.mem_of_mem_head? h) rfl

/-- An integer that is written with leading zeros is read within any bounds between which it lies. -/
theorem readIntWithin?_paddedInt {low high n : Int} (hlow : low ≤ n) (hhigh : n ≤ high) (width : Nat) :
    readIntWithin? low high (paddedInt width n) = some n :=
  readIntWithin?_of_readInt? (readInt?_paddedInt width n) neg_of_head?_paddedInt hlow hhigh

end Decimal

/-! ## Decimal digits -/

namespace Lexical

theorem splitOnce?_eq_none {mark : Char} {cs : List Char} (h : ∀ c ∈ cs, c ≠ mark) :
    splitOnce? mark cs = none := by
  have hnone : cs.dropWhile (· ≠ mark) = [] :=
    List.dropWhile_eq_nil_iff.2 fun c hc => decide_eq_true (h c hc)
  unfold splitOnce?
  rw [hnone]

/-- A text is split before and behind the first mark. -/
theorem splitOnce?_eq_some_iff {mark : Char} {cs before after : List Char} :
    splitOnce? mark cs = some (before, after) ↔ cs = before ++ mark :: after ∧ mark ∉ before := by
  unfold splitOnce?
  constructor
  · intro h
    split at h
    · cases h
    · rename_i c rest hrest
      obtain ⟨rfl, rfl⟩ := Prod.mk.inj (Option.some.inj h)
      have hc : c = mark := by
        have hhead := List.head?_dropWhile_not (· ≠ mark) cs
        rw [hrest] at hhead
        simpa using hhead
      refine ⟨?_, fun hmem => ?_⟩
      · rw [← hc, ← hrest, hc, List.takeWhile_append_dropWhile]
      · simpa using List.mem_takeWhile_imp hmem
  · rintro ⟨rfl, hmark⟩
    have hall : ∀ c ∈ before, decide (c ≠ mark) = true := fun c hc =>
      decide_eq_true fun heq => hmark (heq ▸ hc)
    rw [List.dropWhile_append_of_pos hall, List.takeWhile_append_of_pos hall]
    simp

theorem decimalDigits?_of_numeral {cs : List Char} (h : Decimal.IsNumeral cs) :
    decimalDigits? cs = some (cs, []) ∧ decimalDigits? ('-' :: cs) = some (cs, []) := by
  have hpoint : splitOnce? '.' cs = none := splitOnce?_eq_none fun c hc => h.ne_of_mem (by decide) hc
  have hall := h.all_isDigit
  have hempty := List.isEmpty_eq_false_iff.2 h.nonempty
  constructor
  · cases cs with
    | nil => exact absurd rfl h.nonempty
    | cons c rest =>
        have hminus : c ≠ '-' := h.ne_of_mem (by decide) List.mem_cons_self
        have hplus : c ≠ '+' := h.ne_of_mem (by decide) List.mem_cons_self
        unfold decimalDigits?
        split
        · rename_i heq
          exact absurd (List.cons.inj heq).1 hminus
        · rename_i heq
          exact absurd (List.cons.inj heq).1 hplus
        · simp [hpoint, hall]
  · unfold decimalDigits?
    simp [hpoint, hall, hempty]

/-- The digits of an integer are those of its magnitude. -/
theorem decimalDigits?_toString (n : Int) :
    decimalDigits? (toString n).toList = some (Nat.toDigits 10 n.natAbs, []) := by
  have hnat : (paddedNat 0 n.natAbs).toList = Nat.toDigits 10 n.natAbs := by
    rw [toList_paddedNat, Nat.zero_sub, List.replicate_zero, List.nil_append]
  have hdigits := decimalDigits?_of_numeral (Decimal.IsNumeral.toDigits n.natAbs)
  rw [toString_eq_paddedInt]
  rcases Int.lt_or_le n 0 with hn | hn
  · rw [toList_paddedInt_of_neg hn, Nat.zero_sub, hnat, hdigits.2]
  · rw [paddedInt_of_nonneg hn, hnat, hdigits.1]

end Lexical

end Specimen
