import Mathlib.Algebra.Order.Field.Basic
import Mathlib.Algebra.Order.Ring.Abs
import Mathlib.Tactic.FieldSimp
import Mathlib.Tactic.NormNum
import Specimen.Proofs.Decimal.Literal
import Specimen.Proofs.Validity.Facets

/-!
# Digits that are counted

A type can limit the digits of a number, and those behind its point.  They are counted in the text of the number
without the zeros on its outer sides.  What is left is the shortest way to write the number as a whole number over a
power of ten, so the count does not depend on how the number is written.
-/

namespace Specimen

namespace Decimal

/-! ## Lowest terms -/

/-- A fraction over a power of ten that cannot be shortened: every other one is obtained by extending it. -/
theorem eq_of_lowest {m i : ℤ} {k n : ℕ} (hlowest : k = 0 ∨ ¬ (10 : ℤ) ∣ m)
    (h : (m : ℚ) / 10 ^ k = i / 10 ^ n) : k ≤ n ∧ i = m * 10 ^ (n - k) := by
  have hcross : m * 10 ^ n = i * 10 ^ k := by
    have hrat : (m : ℚ) * 10 ^ n = i * 10 ^ k := (div_eq_div_iff (by positivity) (by positivity)).1 h
    exact_mod_cast hrat
  have hcancel : ∀ e : ℕ, (10 : ℤ) ^ e ≠ 0 := fun e => pow_ne_zero e (by decide)
  have hle : k ≤ n := by
    by_contra hnot
    -- with fewer places the number would be a multiple of ten, so it could be shortened
    obtain ⟨d, rfl⟩ : ∃ d, k = n + (d + 1) := ⟨k - n - 1, by omega⟩
    have hshort : m = 10 * (i * 10 ^ d) := by
      refine mul_right_cancel₀ (hcancel n) ?_
      rw [hcross]
      ring
    exact hlowest.elim (fun hzero => by omega) fun hndvd => hndvd ⟨_, hshort⟩
  refine ⟨hle, mul_right_cancel₀ (hcancel k) ?_⟩
  rw [← hcross, mul_assoc, ← pow_add, Nat.sub_add_cancel hle]

section Lowest

variable {m : ℤ} {k : ℕ}

/-- A fraction in lowest terms has as few places as the number can be written with. -/
theorem exists_places_iff (hlowest : k = 0 ∨ ¬ (10 : ℤ) ∣ m) (limit : ℕ) :
    (∃ (i : ℤ) (n : ℕ), (m : ℚ) / 10 ^ k = i / 10 ^ n ∧ n ≤ limit) ↔ k ≤ limit := by
  constructor
  · rintro ⟨i, n, heq, hn⟩
    exact (eq_of_lowest hlowest heq).1.trans hn
  · intro hk
    exact ⟨m, k, rfl, hk⟩

/-- It has as few digits as well. -/
theorem exists_digits_iff (hlowest : k = 0 ∨ ¬ (10 : ℤ) ∣ m) (limit : ℕ) :
    (∃ (i : ℤ) (n : ℕ), (m : ℚ) / 10 ^ k = i / 10 ^ n ∧ |i| < 10 ^ limit ∧ n ≤ limit) ↔
      |m| < 10 ^ limit ∧ k ≤ limit := by
  constructor
  · rintro ⟨i, n, heq, hi, hn⟩
    obtain ⟨hle, rfl⟩ := eq_of_lowest hlowest heq
    refine ⟨lt_of_le_of_lt ?_ hi, hle.trans hn⟩
    rw [abs_mul]
    exact le_mul_of_one_le_right (abs_nonneg m) (le_trans (one_le_pow₀ (by decide)) (le_abs_self _))
  · rintro ⟨hm, hk⟩
    exact ⟨m, k, rfl, hm, hk⟩

end Lowest

/-! ## Zeros on the outer sides -/

theorem ofDigits_append (xs ys : List Char) :
    ofDigits (xs ++ ys) = 10 ^ ys.length * ofDigits xs + ofDigits ys := by
  rw [ofDigits_eq, ofDigits_eq, ofDigits_eq, Nat.ofDigitChars_append, Nat.ofDigitChars_eq_ofDigitChars_zero]

theorem ofDigits_dropWhile_zero (cs : List Char) : ofDigits (cs.dropWhile (· = '0')) = ofDigits cs := by
  have hzeros : cs.takeWhile (· = '0') = List.replicate (cs.takeWhile (· = '0')).length '0' :=
    List.eq_replicate_iff.2 ⟨rfl, fun c hc => by simpa using List.mem_takeWhile_imp hc⟩
  conv_rhs => rw [← List.takeWhile_append_dropWhile (p := (· = '0')) (l := cs), hzeros]
  rw [ofDigits_replicate_append]

theorem ofDigits_of_zeros {cs : List Char} (h : ∀ c ∈ cs, c = '0') : ofDigits cs = 0 := by
  rw [List.eq_replicate_iff.2 ⟨rfl, h⟩, ← List.append_nil (List.replicate _ _), ofDigits_replicate_append]
  rfl

/-- Digits that do not begin with a zero denote a number of just this length. -/
theorem le_ofDigits {c : Char} (hdigit : c.isDigit = true) (hzero : c ≠ '0') (cs : List Char) :
    10 ^ cs.length ≤ ofDigits (c :: cs) := by
  have hrange := Text.toNat_of_isDigit hdigit
  have hfirst : c.toNat ≠ 48 := fun heq => hzero (Char.toNat_inj.1 heq)
  rw [ofDigits_cons]
  exact Nat.le_add_right_of_le (Nat.le_mul_of_pos_right _ (by omega))

/-- Digits that do not end with a zero denote a number that ten does not divide. -/
theorem not_dvd_ofDigits {c : Char} (hdigit : c.isDigit = true) (hzero : c ≠ '0') (cs : List Char) :
    ¬ 10 ∣ ofDigits (cs ++ [c]) := by
  have hrange := Text.toNat_of_isDigit hdigit
  have hlast : c.toNat ≠ 48 := fun heq => hzero (Char.toNat_inj.1 heq)
  have hvalue : ofDigits [c] = c.toNat - 48 := by
    rw [ofDigits_cons]
    exact (Nat.one_mul _)
  rw [ofDigits_append, hvalue, List.length_singleton]
  omega

namespace Literal

variable (l : Literal)

/-- The digits before the point without the zeros at the beginning. -/
def leading : List Char := l.whole.dropWhile (· = '0')

/-- The digits behind the point without the zeros at the end. -/
def trailing : List Char := l.fraction.rdropWhile (· = '0')

theorem leading_digits : ∀ c ∈ l.leading, c.isDigit = true := fun c hc =>
  l.whole_digits c ((List.dropWhile_suffix _).subset hc)

theorem trailing_digits : ∀ c ∈ l.trailing, c.isDigit = true := fun c hc =>
  l.part_digits c ((List.rdropWhile_prefix _ _).subset hc)

/-- The number without its point and without the zeros on its outer sides. -/
def coefficient : ℤ := l.sign.factor * ofDigits (l.leading ++ l.trailing)

/-- The zeros at the end of a fraction do not count. -/
theorem fraction_value :
    (ofDigits l.fraction : ℚ) / 10 ^ l.fraction.length = ofDigits l.trailing / 10 ^ l.trailing.length := by
  have hsplit : l.trailing ++ l.fraction.rtakeWhile (· = '0') = l.fraction := List.rdropWhile_append_rtakeWhile
  have hzeros : ofDigits (l.fraction.rtakeWhile (· = '0')) = 0 :=
    ofDigits_of_zeros fun c hc => by simpa using List.mem_rtakeWhile_imp hc
  rw [← hsplit, ofDigits_append, hzeros, List.length_append]
  push_cast
  rw [pow_add]
  field_simp
  ring

theorem value_eq : l.value = (l.coefficient : ℚ) / 10 ^ l.trailing.length := by
  have hwhole : ofDigits l.leading = ofDigits l.whole := ofDigits_dropWhile_zero l.whole
  rw [value, coefficient, fraction_value, ofDigits_append, hwhole]
  push_cast
  field_simp

theorem abs_coefficient : |l.coefficient| = ofDigits (l.leading ++ l.trailing) := by
  cases hsign : l.sign <;> simp [coefficient, hsign, Sign.factor]

theorem lowest : l.trailing.length = 0 ∨ ¬ (10 : ℤ) ∣ l.coefficient := by
  rcases List.eq_nil_or_concat l.trailing with hnil | ⟨cs, c, hcs⟩
  · exact .inl (by rw [hnil]; rfl)
  · have hdigit : c.isDigit = true := l.trailing_digits c (by simp [hcs])
    have hzero : c ≠ '0' := by
      have hne : l.trailing ≠ [] := by simp [hcs]
      have hlast : l.trailing.getLast hne ≠ '0' := fun heq =>
        List.rdropWhile_last_not (· = '0') l.fraction hne (decide_eq_true heq)
      simpa [hcs] using hlast
    right
    rw [← dvd_abs, abs_coefficient, hcs, List.concat_eq_append, ← List.append_assoc]
    exact_mod_cast not_dvd_ofDigits hdigit hzero (l.leading ++ cs)

/-- The digits that are left are as many as a limit allows just when the number without its point is small enough
and has few enough places. -/
theorem length_le_iff (limit : ℕ) :
    l.leading.length + l.trailing.length ≤ limit ↔ |l.coefficient| < 10 ^ limit ∧ l.trailing.length ≤ limit := by
  rw [abs_coefficient, ← List.length_append]
  have hdigits : ∀ c ∈ l.leading ++ l.trailing, c.isDigit = true :=
    List.forall_mem_append.2 ⟨l.leading_digits, l.trailing_digits⟩
  constructor
  · intro hlength
    have hlt : ofDigits (l.leading ++ l.trailing) < 10 ^ limit :=
      Nat.lt_of_lt_of_le (ofDigits_lt hdigits) (Nat.pow_le_pow_right (by decide) hlength)
    refine ⟨by exact_mod_cast hlt, ?_⟩
    rw [List.length_append] at hlength
    omega
  · rintro ⟨hlt, htrailing⟩
    have hlt : ofDigits (l.leading ++ l.trailing) < 10 ^ limit := by exact_mod_cast hlt
    cases hleading : l.leading with
    | nil => exact htrailing
    | cons c rest =>
        have hdigit : c.isDigit = true := l.leading_digits c (hleading ▸ List.mem_cons_self)
        have hzero : c ≠ '0' := by
          have hhead := List.head?_dropWhile_not (· = '0') l.whole
          rw [show l.whole.dropWhile (· = '0') = c :: rest from hleading] at hhead
          simpa using hhead
        rw [hleading] at hlt
        have hpow := Nat.lt_of_le_of_lt (le_ofDigits hdigit hzero (rest ++ l.trailing)) hlt
        exact (Nat.pow_lt_pow_iff_right (by decide)).1 hpow

end Literal

end Decimal

/-! ## Limits on digits -/

namespace Facets

/-- A text is read as a decimal number just when it is a literal.  It has as few digits as a type asks for just when
its number can be written with so few: as a whole number over a power of ten that is small enough and has few enough
places. -/
theorem digits_decided_by_value :
    (∀ cs whole part, Lexical.decimalDigits? cs = some (whole, part) ↔
      ∃ l : Decimal.Literal, l.text = cs ∧ l.whole = whole ∧ l.fraction = part) ∧
    ∀ (f : Facets) (l : Decimal.Literal), f.checkDigits (String.ofList l.text) = .ok () ↔
      (∀ t, f.totalDigits = some t →
        ∃ (i : ℤ) (n : ℕ), l.value = i / 10 ^ n ∧ |i| < 10 ^ t.toNat ∧ n ≤ t.toNat) ∧
      ∀ k, f.fractionDigits = some k → ∃ (i : ℤ) (n : ℕ), l.value = i / 10 ^ n ∧ n ≤ k.toNat := by
  refine ⟨fun cs whole part => Lexical.decimalDigits?_eq_some_iff, fun f l => ?_⟩
  have hread : Lexical.decimalDigits? (String.ofList l.text).toList = some (l.whole, l.fraction) := by
    rw [String.toList_ofList]
    exact Lexical.decimalDigits?_eq_some_iff.2 ⟨l, rfl, rfl, rfl⟩
  rw [checkDigits_eq_ok_iff hread, l.value_eq]
  refine and_congr (forall₂_congr fun t _ => ?_) (forall₂_congr fun k _ => ?_)
  · rw [Decimal.exists_digits_iff l.lowest, ← l.length_le_iff]
    rfl
  · rw [Decimal.exists_places_iff l.lowest]
    rfl

end Facets

end Specimen
