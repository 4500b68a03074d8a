import Mathlib.Data.Int.Order.Basic
import Mathlib.Data.List.DropRight
import Mathlib.Order.Compare
import Specimen.Proofs.Decimal.Digits
import Specimen.Proofs.Except
import Specimen.Validity.Check

/-!
# What the facets of a type say of a value

A value is checked facet by facet: its length, its bounds, its digits.  Points in time are compared with a bound as
texts, so a type that has nothing but bounds accepts just the texts of its form that compare with each bound as the
kind of the bound asks.
-/

namespace Specimen

namespace Facets

/-! ## Lengths and digits -/

/-- The least length is not beyond the greatest one. -/
def LengthsFit (f : Facets) : Prop := ∀ low high, f.lengthBounds = (some low, some high) → low ≤ high

/-- A length that the facets of a type allow. -/
def AllowsLength (f : Facets) (length : Nat) : Prop :=
  (∀ low, f.lengthBounds.1 = some low → low ≤ length) ∧ ∀ high, f.lengthBounds.2 = some high → length ≤ high

theorem checkLength_of_allows {f : Facets} {value : String} (h : f.AllowsLength (valueLength f.base value)) :
    f.checkLength value = .ok () := by
  obtain ⟨hleast, hgreatest⟩ := h
  have hnotBelow : ¬ valueLength f.base value < f.lengthBounds.1.getD 0 := by
    cases hlow : f.lengthBounds.1 with
    | none => exact Nat.not_lt_zero _
    | some low => exact Nat.not_lt.2 (hleast low hlow)
  unfold checkLength
  dsimp only
  rw [if_neg hnotBelow]
  cases hhigh : f.lengthBounds.2 with
  | none => rfl
  | some high => exact if_neg (Nat.not_lt.2 (hgreatest high hhigh))

theorem checkLength_of_unbounded {f : Facets} (h : f.lengthBounds = (none, none)) (value : String) :
    f.checkLength value = .ok () := by
  refine checkLength_of_allows ?_
  unfold AllowsLength
  rw [h]
  exact ⟨nofun, nofun⟩

theorem checkDigits_of_unbounded {f : Facets} (htotal : f.totalDigits = none) (hfraction : f.fractionDigits = none)
    (value : String) : f.checkDigits value = .ok () := by
  unfold checkDigits
  rw [htotal, hfraction]
  split <;> rfl

/-- Digits are counted from the first one before the point that is not zero to the last one behind it that is not. -/
theorem checkDigits_eq_ok_iff {f : Facets} {value : String} {whole part : List Char}
    (hread : Lexical.decimalDigits? value.toList = some (whole, part)) :
    f.checkDigits value = .ok () ↔
      (∀ t, f.totalDigits = some t →
        (whole.dropWhile (· = '0')).length + (part.rdropWhile (· = '0')).length ≤ t.toNat) ∧
      ∀ k, f.fractionDigits = some k → (part.rdropWhile (· = '0')).length ≤ k.toNat := by
  have hexceeds : ∀ (limit : Option UInt32) (count : Nat),
      (limit.map UInt32.toNat).filter (fun n => decide (n < count)) = none ↔
        ∀ n, limit = some n → count ≤ n.toNat := by
    intro limit count
    cases limit with
    | none => simp
    | some n => simp [Option.filter_eq_none_iff]
  unfold checkDigits
  rw [hread, ← hexceeds, ← hexceeds]
  dsimp only
  split
  · rename_i hfraction
    exact ⟨nofun, fun h => absurd (hfraction.symm.trans h.2) (Option.some_ne_none _)⟩
  · rename_i htotal
    exact ⟨nofun, fun h => absurd (htotal.symm.trans h.1) (Option.some_ne_none _)⟩
  · rename_i hfraction htotal
    exact ⟨fun _ => ⟨htotal, hfraction⟩, fun _ => rfl⟩

/-- An integer has as few digits as a facet asks for when its magnitude is small enough. -/
theorem checkDigits_toString {f : Facets} {n : Int}
    (h : ∀ digits, f.totalDigits = some digits → n.natAbs < Nat.pow 10 digits.toNat) :
    f.checkDigits (toString n) = .ok () := by
  refine (checkDigits_eq_ok_iff (Lexical.decimalDigits?_toString n)).2
    ⟨fun digits hdigits => ?_, fun _ _ => Nat.zero_le _⟩
  have hlt := h digits hdigits
  rcases Nat.eq_zero_or_pos n.natAbs with hzero | hpos
  · rw [hzero]
    exact Nat.zero_le _
  · have hwidth : 0 < digits.toNat := Nat.pos_of_ne_zero fun hzero => by
      rw [hzero] at hlt
      exact absurd (Nat.lt_one_iff.1 hlt) (Nat.ne_of_gt hpos)
    exact Nat.le_trans (List.length_dropWhile_le _ _) ((Nat.length_toDigits_le_iff (by decide) hwidth).2 hlt)

/-- Without a pattern it does not matter what it means to match one. -/
theorem check_eq_of_pattern_none {f : Facets} {value : String} (hpattern : f.pattern = none)
    (isMatch other : (pattern text : String) → Bool) : f.check value isMatch = f.check value other := by
  unfold check checkPattern
  rw [hpattern]

/-- Without an enumeration and a pattern, and when length and digits are right, only the bounds are left to check. -/
theorem check_eq_checkBounds {f : Facets} {value : String} (henumeration : f.enumeration = [])
    (hpattern : f.pattern = none) (hform : Lexical.isValue f.base value = true)
    (hlength : f.checkLength value = .ok ()) (hdigits : f.checkDigits value = .ok ())
    (isMatch : (pattern text : String) → Bool) :
    f.check value isMatch = checkBounds f.base value f.bounds := by
  unfold check checkForm checkEnumeration checkPattern
  rw [if_pos hform, henumeration, hlength, hpattern, hdigits]
  change (checkBounds f.base value f.bounds >>= fun _ => Except.ok ()) = _
  cases checkBounds f.base value f.bounds <;> rfl

/-- Without an enumeration and a pattern a value is one of its form, length, bounds and digits. -/
theorem check_of_parts {f : Facets} {value : String} (henumeration : f.enumeration = [])
    (hpattern : f.pattern = none) (hform : Lexical.isValue f.base value = true)
    (hlength : f.checkLength value = .ok ()) (hbounds : checkBounds f.base value f.bounds = .ok ())
    (hdigits : f.checkDigits value = .ok ()) (isMatch : (pattern text : String) → Bool) :
    f.check value isMatch = .ok () := by
  rw [check_eq_checkBounds henumeration hpattern hform hlength hdigits, hbounds]

end Facets

/-! ## Values on the right side of bounds -/

/-- Whether a number is on the right side of a bound. -/
def BoundKind.Admits (kind : BoundKind) (n bound : Int) : Prop :=
  match kind with
  | .minInclusive => bound ≤ n
  | .maxInclusive => n ≤ bound
  | .minExclusive => bound < n
  | .maxExclusive => n < bound

theorem BoundKind.allows_compare (kind : BoundKind) (n bound : Int) :
    kind.allows (compare n bound) = true ↔ kind.Admits n bound := by
  have hlt : compare n bound = .lt ↔ n < bound := compare_lt_iff_lt
  have hgt : compare n bound = .gt ↔ bound < n := compare_gt_iff_gt
  cases kind with
  | minInclusive =>
      change (compare n bound != .lt) = true ↔ bound ≤ n
      rw [bne_iff_ne, ne_eq, hlt, Int.not_lt]
  | maxInclusive =>
      change (compare n bound != .gt) = true ↔ n ≤ bound
      rw [bne_iff_ne, ne_eq, hgt, Int.not_lt]
  | minExclusive =>
      change (compare n bound == .gt) = true ↔ bound < n
      rw [beq_iff_eq, hgt]
  | maxExclusive =>
      change (compare n bound == .lt) = true ↔ n < bound
      rw [beq_iff_eq, hlt]

namespace Facets

/-- The bound of a kind. -/
def boundOf (f : Facets) : BoundKind → Option String
  | .minInclusive => f.minInclusive
  | .maxInclusive => f.maxInclusive
  | .minExclusive => f.minExclusive
  | .maxExclusive => f.maxExclusive

theorem mem_bounds_iff {f : Facets} {kind : BoundKind} {bound : String} :
    (kind, bound) ∈ f.bounds ↔ f.boundOf kind = some bound := by
  have hmem : ∀ {k : BoundKind} {b : Option String}, (kind, bound) ∈ (b.map fun s => (k, s)).toList ↔
      kind = k ∧ b = some bound := by
    intro k b
    cases b <;> simp [eq_comm]
  unfold bounds
  simp only [List.mem_append, hmem]
  cases kind <;> simp [boundOf]

/-- A value is checked against every bound that can be compared with it. -/
theorem checkBounds_eq_ok_iff {base : Primitive} {value : String} {bounds : List (BoundKind × String)} :
    checkBounds base value bounds = .ok () ↔
      ∀ b ∈ bounds, ∀ o, compareOrdered base value b.2 = some o → b.1.allows o = true := by
  induction bounds with
  | nil => exact ⟨fun _ => List.forall_mem_nil _, fun _ => rfl⟩
  | cons first rest ih =>
      obtain ⟨kind, bound⟩ := first
      rw [List.forall_mem_cons, ← ih, checkBounds]
      cases hcompare : compareOrdered base value bound with
      | none => simp
      | some o => by_cases hallows : kind.allows o = true <;> simp [hallows]

/-- Nothing but bounds narrows the base: at most one on each side, and they are literals of some form. -/
structure HasOnlyBounds (f : Facets) (IsLiteral : String → Prop) : Prop where
  only_bounds : f = {
    base := f.base
    minInclusive := f.minInclusive
    maxInclusive := f.maxInclusive
    minExclusive := f.minExclusive
    maxExclusive := f.maxExclusive }
  one_lower : f.minInclusive = none ∨ f.minExclusive = none
  one_upper : f.maxInclusive = none ∨ f.maxExclusive = none
  literal : ∀ kind bound, f.boundOf kind = some bound → IsLiteral bound

theorem compareOrdered_of_isTemporal {base : Primitive} (h : base.isTemporal = true) (a b : String) :
    compareOrdered base a b = some (compareStrings a b) := by
  cases base <;> first | rfl | cases h

/-- A type of points in time that has nothing but bounds accepts what compares with them as it should. -/
theorem HasOnlyBounds.check_eq_ok_iff {f : Facets} {IsLiteral : String → Prop} (hf : f.HasOnlyBounds IsLiteral)
    (hbase : f.base.isTemporal = true) {value : String} (hform : Lexical.isValue f.base value = true)
    (isMatch : (pattern text : String) → Bool) :
    f.check value isMatch = .ok () ↔
      ∀ kind bound, f.boundOf kind = some bound → kind.allows (compareStrings value bound) = true := by
  have henumeration : f.enumeration = [] := by rw [hf.only_bounds]
  have hpattern : f.pattern = none := by rw [hf.only_bounds]
  have hlengths : f.lengthBounds = (none, none) := by
    rw [hf.only_bounds]
    rfl
  have htotal : f.totalDigits = none := by rw [hf.only_bounds]
  have hfraction : f.fractionDigits = none := by rw [hf.only_bounds]
  rw [check_eq_checkBounds henumeration hpattern hform (checkLength_of_unbounded hlengths value)
    (checkDigits_of_unbounded htotal hfraction value), checkBounds_eq_ok_iff]
  constructor
  · intro h kind bound hbound
    exact h (kind, bound) (mem_bounds_iff.2 hbound) _ (compareOrdered_of_isTemporal hbase value bound)
  · rintro h ⟨kind, bound⟩ hmem o ho
    obtain rfl := Option.some.inj ((compareOrdered_of_isTemporal hbase value bound).symm.trans ho)
    exact h kind bound (mem_bounds_iff.1 hmem)

end Facets

end Specimen
