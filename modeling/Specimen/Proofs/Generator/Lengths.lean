import Mathlib.Data.String.Basic
import Specimen.Generator.Choice
import Specimen.Proofs.Random.Draw
import Specimen.Proofs.Validity.Facets

/-!
# Lengths and digits

The generators of texts and octets keep to the facets that bound a length, and that of integers to the facet that
bounds the number of digits: what they give is a value of the simple type.  The length of octets is read off their
text, in base sixteen as well as in base 64, and an integer has its digits without zeros in front.
-/

namespace Specimen

open Specimen.Random

/-! ## Octets -/

namespace Encoding

theorem base64_digit : ∀ n < 64, base64Value? (base64Digit n) = some n ∧ base64Digit n ≠ '=' := by
  decide +kernel

theorem hexDigit_spec : ∀ n < 16, isHexDigit (hexDigit n) = true ∧ (hexDigit n).utf8Size = 1 := by
  decide +kernel

/-- What is written of octets in base 64 stands for as many octets. -/
theorem base64Length?_chars (octets : List UInt8) :
    base64Length? (base64Chars octets) = some octets.length := by
  have hvalue : ∀ {n}, n < 64 → base64Value? (base64Digit n) = some n := fun h => (base64_digit _ h).1
  have hpad : ∀ {n}, n < 64 → base64Digit n ≠ '=' := fun h => (base64_digit _ h).2
  fun_induction base64Chars octets with
  | case1 => rfl
  | case2 a n =>
      have ha := a.toNat_lt
      have hfirst : n / 64 < 64 := by omega
      have hsecond : n % 64 < 64 := by omega
      have hbits : n % 64 % 16 = 0 := by omega
      simp [base64Length?, hvalue hfirst, hvalue hsecond, hbits]
  | case3 a b n =>
      have ha := a.toNat_lt
      have hb := b.toNat_lt
      have hfirst : n / 4096 < 64 := by omega
      have hsecond : n / 64 % 64 < 64 := by omega
      have hthird : n % 64 < 64 := by omega
      have hbits : n % 64 % 4 = 0 := by omega
      simp [base64Length?, hvalue hfirst, hvalue hsecond, hvalue hthird, hpad hthird, hbits]
  | case4 a b c rest n ih =>
      have ha := a.toNat_lt
      have hb := b.toNat_lt
      have hc := c.toNat_lt
      have hfirst : n / 262144 < 64 := by omega
      have hsecond : n / 4096 % 64 < 64 := by omega
      have hthird : n / 64 % 64 < 64 := by omega
      have hfourth : n % 64 < 64 := by omega
      simp [base64Length?, hvalue hfirst, hvalue hsecond, hvalue hthird, hvalue hfourth, hpad hfourth, ih]
      omega

theorem utf8Len_of_ascii {cs : List Char} (h : ∀ c ∈ cs, c.utf8Size = 1) : String.utf8Len cs = cs.length := by
  induction cs with
  | nil => rfl
  | cons c rest ih =>
      have hrest := ih fun d hd => h d (List.mem_cons_of_mem c hd)
      rw [String.utf8Len_cons, hrest, h c List.mem_cons_self, List.length_cons]

/-- What is written of octets in base sixteen has two digits for each. -/
theorem toHex_spec (octets : List UInt8) :
    isHex (toHex octets).toList = true ∧ (toHex octets).utf8ByteSize / 2 = octets.length := by
  have hdigits : ∀ c ∈ octets.flatMap fun b => [hexDigit (b.toNat / 16), hexDigit (b.toNat % 16)],
      isHexDigit c = true ∧ c.utf8Size = 1 := by
    intro c hc
    obtain ⟨b, -, hc⟩ := List.mem_flatMap.1 hc
    have hb := b.toNat_lt
    have hhigh : b.toNat / 16 < 16 := by omega
    have hlow : b.toNat % 16 < 16 := by omega
    rcases List.mem_cons.1 hc with rfl | hc
    · exact hexDigit_spec _ hhigh
    · rw [List.mem_singleton.1 hc]
      exact hexDigit_spec _ hlow
  have hlength : (octets.flatMap fun b => [hexDigit (b.toNat / 16), hexDigit (b.toNat % 16)]).length =
      octets.length * 2 := by
    rw [List.length_flatMap]
    simp only [List.length_cons, List.length_nil, List.map_const', List.sum_replicate_nat]
  constructor
  · unfold isHex toHex
    rw [String.toList_ofList, hlength, Nat.mul_mod_left, Bool.and_eq_true]
    exact ⟨rfl, List.all_eq_true.2 fun c hc => (hdigits c hc).1⟩
  · unfold toHex
    rw [String.utf8ByteSize_ofList, utf8Len_of_ascii fun c hc => (hdigits c hc).2, hlength,
      Nat.mul_div_cancel _ (by decide)]

end Encoding

/-! ## Texts -/

namespace Generate

theorem charset_plain : ∀ c ∈ charset,
    Text.isBlank c = false ∧ c ≠ ' ' ∧ c ≠ '\t' ∧ c ≠ '\n' ∧ c ≠ '\r' :=
  List.forall_iff_forall_mem.1 (by decide +kernel)

theorem randomChars_spec (n : Nat) (rng : Rng) :
    (randomChars n rng).1.length = n ∧ ∀ c ∈ (randomChars n rng).1, c ∈ charset := by
  induction n generalizing rng with
  | zero => exact ⟨rfl, List.forall_mem_nil _⟩
  | succ n ih =>
      have hlt : (Draw.index charset.length rng).1 < charset.length := Draw.index_lt (by decide) rng
      simp only [randomChars, Draw.bind_apply, Draw.pure_apply]
      obtain ⟨hlength, hrest⟩ := ih (Draw.index charset.length rng).2
      generalize (Draw.index charset.length rng).1 = i at hlt
      have hmem : charset.getD i 'a' ∈ charset := by
        rw [List.getD_eq_getElem?_getD, List.getElem?_eq_getElem hlt]
        exact List.getElem_mem hlt
      exact ⟨congrArg (· + 1) hlength, List.forall_mem_cons.2 ⟨hmem, hrest⟩⟩

end Generate

namespace Lexical

variable {cs : List Char}

theorem trimChars_of_plain (h : ∀ c ∈ cs, Text.isBlank c = false) : Text.trimChars cs = cs := by
  have hkeep : ∀ {ds : List Char}, (∀ c ∈ ds, Text.isBlank c = false) → ds.dropWhile Text.isBlank = ds := by
    intro ds hds
    cases ds with
    | nil => rfl
    | cons c rest => exact List.dropWhile_cons_of_neg (by simp [hds c List.mem_cons_self])
  unfold Text.trimChars
  rw [hkeep h, hkeep fun c hc => h c (List.mem_reverse.1 hc), List.reverse_reverse]

theorem hasDoubleBlank_of_plain (h : ∀ c ∈ cs, c ≠ ' ') : hasDoubleBlank cs = false := by
  induction cs with
  | nil => rfl
  | cons c rest ih =>
      have hrest := ih fun d hd => h d (List.mem_cons_of_mem c hd)
      unfold hasDoubleBlank
      split
      · rename_i heq
        exact absurd (List.cons.inj heq).1 (h c List.mem_cons_self)
      · rename_i heq
        rw [← (List.cons.inj heq).2]
        exact hrest
      · rfl

/-- A text of letters and digits has the form of every type of texts. -/
theorem isValue_of_charset {base : Primitive} (hbase : base.isTextual = true) {s : String}
    (h : ∀ c ∈ s.toList, c ∈ Generate.charset) : isValue base s = true := by
  have hplain := fun c hc => Generate.charset_plain c (h c hc)
  have hmarks : hasLineMark s.toList = false := by
    refine List.any_eq_false.2 fun c hc => ?_
    obtain ⟨-, -, htab, hline, hreturn⟩ := hplain c hc
    simp [htab, hline, hreturn]
  cases base with
  | string => rfl
  | normalizedString =>
      change (!hasLineMark s.toList) = true
      rw [hmarks]
      rfl
  | token =>
      change (Text.trimChars s.toList == s.toList && !hasDoubleBlank s.toList && !hasLineMark s.toList) = true
      rw [hmarks, hasDoubleBlank_of_plain fun c hc => (hplain c hc).2.1,
        trimChars_of_plain fun c hc => (hplain c hc).1, beq_self_eq_true]
      rfl
  | _ => cases hbase

end Lexical

/-! ## What generators give -/

/-- What a generator gives for a leaf when it draws from certain random numbers. -/
def PrimitiveGenerator.outcome (g : PrimitiveGenerator) (libraries : Libraries) (leaf : Leaf) (rng : Rng) :
    Except GeneratorFailure String := (ExceptT.run (g.run libraries leaf) rng).1

namespace Generate

theorem run_draw {α β : Type} (draw : Draw α) (next : α → Attempt β) (rng : Rng) :
    ExceptT.run (liftM draw >>= next) rng = ExceptT.run (next (draw rng).1) (draw rng).2 := rfl

theorem run_except {α β : Type} (e : Except GeneratorFailure α) (next : α → Attempt β) (rng : Rng) :
    (ExceptT.run (liftM e >>= next) rng).1 = e.bind fun a => (ExceptT.run (next a) rng).1 := by
  cases e <;> rfl

theorem toNat_le_wordMax (n : UInt32) : n.toNat ≤ wordMax := Nat.le_pred_of_lt n.toNat_lt

theorem lengthBounds_le (f : Facets) :
    (∀ low, f.lengthBounds.1 = some low → low ≤ wordMax) ∧
      ∀ high, f.lengthBounds.2 = some high → high ≤ wordMax := by
  unfold Facets.lengthBounds
  cases f.length with
  | some n =>
      have hword : ∀ length, some n.toNat = some length → length ≤ wordMax := fun _ h =>
        Option.some.inj h ▸ toNat_le_wordMax n
      exact ⟨hword, hword⟩
  | none =>
      refine ⟨fun low h => ?_, fun high h => ?_⟩
      · obtain ⟨n, -, rfl⟩ := Option.map_eq_some_iff.1 h
        exact toNat_le_wordMax n
      · obtain ⟨n, -, rfl⟩ := Option.map_eq_some_iff.1 h
        exact toNat_le_wordMax n

/-- A length that is drawn from a range of words lies in it. -/
theorem drawn_length {low high : Nat} (hle : low ≤ high) (hmax : high ≤ wordMax) (rng : Rng) :
    low ≤ (Draw.range .w32 low high rng).1.toNat ∧ (Draw.range .w32 low high rng).1.toNat ≤ high := by
  have hfits : (high : Int) - low + 1 = (Nat.pow 2 Draw.Width.w32.bits : Nat) → (low : Int) = 0 := by
    intro hfull
    change (high : Int) - low + 1 = 4294967296 at hfull
    change high ≤ 4294967295 at hmax
    omega
  have hmem := Draw.range_mem .w32 (Int.ofNat_le.2 hle) hfits rng
  omega

/-- Texts are drawn of lengths that the facets allow. -/
theorem textLengthRange_spec {f : Facets} (hfit : f.LengthsFit) :
    (textLengthRange f).1 ≤ (textLengthRange f).2 ∧ (textLengthRange f).2 ≤ wordMax ∧
      ∀ n, (textLengthRange f).1 ≤ n → n ≤ (textLengthRange f).2 → f.AllowsLength n := by
  obtain ⟨hlow, hhigh⟩ := lengthBounds_le f
  unfold textLengthRange Facets.AllowsLength
  split
  · rename_i low high hbounds
    rw [hbounds] at hhigh ⊢
    have hle := hfit low high hbounds
    refine ⟨Nat.min_le_right _ _, hhigh high rfl, fun n hleast hgreatest => ⟨?_, ?_⟩⟩
    · rintro _ ⟨⟩
      exact (Nat.min_eq_left hle) ▸ hleast
    · rintro _ ⟨⟩
      exact hgreatest
  · rename_i low hbounds
    rw [hbounds] at hlow ⊢
    have hle := hlow low rfl
    refine ⟨by omega, Nat.min_le_right _ _, fun n hleast _ => ⟨?_, nofun⟩⟩
    rintro _ ⟨⟩
    exact hleast
  · rename_i high hbounds
    rw [hbounds] at hhigh ⊢
    have hle := hhigh high rfl
    refine ⟨by omega, by omega, fun n _ hgreatest => ⟨nofun, ?_⟩⟩
    rintro _ ⟨⟩
    omega
  · rename_i hbounds
    rw [hbounds]
    exact ⟨by decide, by decide, fun n _ _ => ⟨nofun, nofun⟩⟩

/-- Octets are drawn in a number that the facets allow. -/
theorem octetCount_spec {f : Facets} (hfit : f.LengthsFit) (rng : Rng) : f.AllowsLength (octetCount f rng).1 := by
  obtain ⟨-, hmax⟩ := lengthBounds_le f
  unfold Facets.AllowsLength
  rcases hbounds : f.lengthBounds with ⟨_ | low, _ | high⟩
  · exact ⟨nofun, nofun⟩
  · rw [octetCount, hbounds]
    refine ⟨nofun, ?_⟩
    rintro _ ⟨⟩
    exact Nat.min_le_right 12 high
  · rw [octetCount, hbounds]
    refine ⟨?_, nofun⟩
    rintro _ ⟨⟩
    exact Nat.le_max_left low 1
  · rw [hbounds] at hmax
    have hle := hfit low high hbounds
    obtain ⟨hleast, hgreatest⟩ := drawn_length hle (hmax high rfl) rng
    rw [octetCount, hbounds]
    simp only [Nat.min_eq_left hle, Draw.bind_apply, Draw.pure_apply]
    refine ⟨?_, ?_⟩
    · rintro _ ⟨⟩
      exact hleast
    · rintro _ ⟨⟩
      exact hgreatest

theorem string_spec {f : Facets} (hfit : f.LengthsFit) (rng : Rng) :
    (∀ c ∈ (string f rng).1.toList, c ∈ charset) ∧ f.AllowsLength (string f rng).1.length := by
  obtain ⟨hle, hmax, hallows⟩ := textLengthRange_spec hfit
  obtain ⟨hleast, hgreatest⟩ := drawn_length hle hmax rng
  simp only [string, Draw.bind_apply, Draw.pure_apply]
  generalize Draw.range .w32 (textLengthRange f).1 (textLengthRange f).2 rng = drawn at hleast hgreatest ⊢
  obtain ⟨hcount, hchars⟩ := randomChars_spec drawn.1.toNat drawn.2
  rw [String.toList_ofList, String.length_ofList, hcount]
  exact ⟨hchars, hallows _ hleast hgreatest⟩

theorem hexBinary_spec {f : Facets} (hfit : f.LengthsFit) (rng : Rng) :
    Encoding.isHex (hexBinary f rng).1.toList = true ∧ f.AllowsLength ((hexBinary f rng).1.utf8ByteSize / 2) := by
  simp only [hexBinary, Draw.bind_apply, Draw.pure_apply]
  obtain ⟨hhex, hlength⟩ := Encoding.toHex_spec (Draw.bytes (octetCount f rng).1 (octetCount f rng).2).1
  rw [hlength, Draw.length_bytes]
  exact ⟨hhex, octetCount_spec hfit rng⟩

theorem base64Binary_spec {f : Facets} (hfit : f.LengthsFit) (rng : Rng) :
    ∃ octets, Encoding.base64Length? (base64Binary f rng).1.toList = some octets ∧ f.AllowsLength octets := by
  refine ⟨(octetCount f rng).1, ?_, octetCount_spec hfit rng⟩
  simp only [base64Binary, Draw.bind_apply, Draw.pure_apply]
  rw [Encoding.toBase64, String.toList_ofList, Encoding.base64Length?_chars, Draw.length_bytes]

/-! ## Integers -/

theorem narrow_within (low high : Int) :
    low ≤ (narrow false false low high).1 ∧ (narrow false false low high).2 ≤ high := by
  unfold narrow
  dsimp only
  split
  · exact ⟨Int.le_max_left _ _, Int.min_le_left _ _⟩
  · exact ⟨Int.le_max_left _ _, Int.le_refl _⟩

/-- Integers are drawn from those of the base, and of no more digits than a facet allows. -/
theorem integerRange_spec {base : Primitive} {least greatest : Int}
    (hbase : base.integerRange? = some (least, greatest)) {totalDigits : Option UInt32} {low high : Int}
    (h : integerRange { base, totalDigits } = .ok (low, high)) :
    low ≤ high ∧ least ≤ low ∧ high ≤ greatest ∧
      ∀ digits, totalDigits = some digits →
        -(Nat.pow 10 digits.toNat) < low ∧ high < Nat.pow 10 digits.toNat := by
  have hwithin : ∀ least' greatest' : Int, (if (narrow false false least' greatest').2 <
      (narrow false false least' greatest').1 then unsatisfiable { base, totalDigits } "empty integer range"
      else .ok (narrow false false least' greatest')) = .ok (low, high) →
      low ≤ high ∧ least' ≤ low ∧ high ≤ greatest' := by
    intro least' greatest' hdrawn
    obtain ⟨hleast, hgreatest⟩ := narrow_within least' greatest'
    split at hdrawn
    · cases hdrawn
    · rename_i hnonempty
      rw [Except.ok.inj hdrawn] at hleast hgreatest hnonempty
      exact ⟨Int.not_lt.1 hnonempty, hleast, hgreatest⟩
  unfold integerRange at h
  rw [hbase] at h
  cases totalDigits with
  | none =>
      obtain ⟨hle, hleast, hgreatest⟩ := hwithin _ _ h
      exact ⟨hle, hleast, hgreatest, nofun⟩
  | some digits =>
      let limit : Int := Nat.pow 10 (min digits.toNat 30) - 1
      obtain ⟨hle, hleast, hgreatest⟩ := hwithin (max least (-limit)) (min greatest limit) h
      have hlimit : limit < Nat.pow 10 digits.toNat := by
        have hpow : Nat.pow 10 (min digits.toNat 30) ≤ Nat.pow 10 digits.toNat :=
          Nat.pow_le_pow_right (by decide) (Nat.min_le_left _ _)
        change (Nat.pow 10 (min digits.toNat 30) : Int) - 1 < _
        omega
      refine ⟨hle, by omega, by omega, ?_⟩
      rintro _ ⟨⟩
      exact ⟨by omega, by omega⟩

/-- The integers of a base take no more than 64 bits. -/
theorem integerRange?_within {base : Primitive} {least greatest : Int}
    (h : base.integerRange? = some (least, greatest)) : -(Nat.pow 2 63) ≤ least ∧ greatest < Nat.pow 2 64 := by
  cases base <;> cases h <;> decide

theorem integer_outcome (libraries : Libraries) (leaf : Leaf) (rng : Rng) :
    PrimitiveGenerator.integer.outcome libraries leaf rng =
      (integerRange leaf.facets).bind fun range => .ok (toString (Draw.range .w128 range.1 range.2 rng).1) :=
  run_except _ _ _

end Generate

namespace Lexical

theorem isValue_of_integerRange? {base : Primitive} {least greatest : Int}
    (h : base.integerRange? = some (least, greatest)) (s : String) :
    isValue base s = isIntegerWithin least greatest s := by
  cases base <;> cases h <;> rfl

theorem isIntegerWithin_toString {least greatest n : Int} (hleast : -(Nat.pow 2 63) ≤ least)
    (hgreatest : greatest < Nat.pow 2 64) (hlow : least ≤ n) (hhigh : n ≤ greatest) :
    isIntegerWithin least greatest (toString n) = true := by
  have hread : Decimal.readWide? (toString n) = some n := by
    rw [toString_eq_paddedInt]
    refine Decimal.readIntWithin?_paddedInt ?_ ?_ 0
    · exact Int.le_trans (by decide) (Int.le_trans hleast hlow)
    · exact Int.le_trans (Int.le_of_lt (Int.lt_of_le_of_lt hhigh hgreatest)) (by decide)
  unfold isIntegerWithin
  rw [hread]
  simp [hlow, hhigh]

end Lexical

namespace Generate

/-- Texts and octets that only have bounds for their length are made up whenever the bounds leave a length, and are
values of the simple type. -/
theorem outcome_of_lengths {base : Primitive} {length minLength maxLength : Option UInt32}
    (hbase : base.isTextual = true ∨ base = .hexBinary ∨ base = .base64Binary)
    (hfit : Facets.LengthsFit { base, length, minLength, maxLength }) (libraries : Libraries) (name path : String)
    (baseDate : Date) (rng : Rng) :
    ∃ value,
      (Generator.forFacets { base, length, minLength, maxLength }).outcome libraries
          ⟨name, path, { base, length, minLength, maxLength }, baseDate⟩ rng = .ok value ∧
        ({ base, length, minLength, maxLength } : Facets).check value libraries.isMatch = .ok () := by
  have hcheck : ∀ {value : String}, Lexical.isValue base value = true →
      Facets.AllowsLength { base, length, minLength, maxLength } (valueLength base value) →
      ({ base, length, minLength, maxLength } : Facets).check value libraries.isMatch = .ok () :=
    fun hform hlength => Facets.check_of_parts rfl rfl hform (Facets.checkLength_of_allows hlength) rfl
      (Facets.checkDigits_of_unbounded rfl rfl _) libraries.isMatch
  rcases hbase with htext | rfl | rfl
  · obtain ⟨hchars, hlength⟩ := string_spec hfit rng
    have hgenerator : Generator.forFacets { base, length, minLength, maxLength } = .string := by
      cases base <;> first | rfl | cases htext
    have hvalueLength : ∀ value, valueLength base value = value.length := by
      intro value
      cases base <;> first | rfl | cases htext
    rw [hgenerator]
    refine ⟨(string _ rng).1, rfl, hcheck (Lexical.isValue_of_charset htext hchars) ?_⟩
    rw [hvalueLength]
    exact hlength
  · obtain ⟨hhex, hlength⟩ := hexBinary_spec hfit rng
    exact ⟨(hexBinary _ rng).1, rfl, hcheck hhex hlength⟩
  · obtain ⟨octets, hoctets, hlength⟩ := base64Binary_spec hfit rng
    have hvalueLength : ∀ {value}, Encoding.base64Length? value.toList = some octets →
        valueLength .base64Binary value = octets := fun h => congrArg (Option.getD · 0) h
    refine ⟨(base64Binary _ rng).1, rfl, hcheck (Option.isSome_of_eq_some hoctets) ?_⟩
    rw [hvalueLength hoctets]
    exact hlength

/-- Integers that only have a bound for their digits are values of the simple type. -/
theorem check_of_outcome_integer {base : Primitive} {totalDigits : Option UInt32} (hbase : base.isInteger = true)
    {libraries : Libraries} {name path : String} {baseDate : Date} {rng : Rng} {value : String}
    (h : (Generator.forFacets { base, totalDigits }).outcome libraries
      ⟨name, path, { base, totalDigits }, baseDate⟩ rng = .ok value) :
    ({ base, totalDigits } : Facets).check value libraries.isMatch = .ok () := by
  obtain ⟨⟨least, greatest⟩, hrange⟩ := Option.isSome_iff_exists.1 hbase
  obtain ⟨hwideLeast, hwideGreatest⟩ := integerRange?_within hrange
  have hgenerator : Generator.forFacets { base, totalDigits } = .integer := by
    cases base <;> first | rfl | cases hbase
  rw [hgenerator, integer_outcome] at h
  obtain ⟨⟨low, high⟩, hdrawn, h⟩ := Except.bind_eq_ok.1 h
  obtain rfl : toString (Draw.range .w128 low high rng).1 = value := Except.ok.inj h
  obtain ⟨hle, hlow, hhigh, hdigits⟩ := integerRange_spec hrange hdrawn
  have hfits : high - low + 1 = (Nat.pow 2 Draw.Width.w128.bits : Nat) → low = 0 := by
    have hwords : (Nat.pow 2 63 : Int) + Nat.pow 2 64 < Nat.pow 2 Draw.Width.w128.bits := by decide
    omega
  obtain ⟨hleast, hgreatest⟩ := Draw.range_mem .w128 hle hfits rng
  refine Facets.check_of_parts rfl rfl ?_ (Facets.checkLength_of_unbounded rfl _) rfl
    (Facets.checkDigits_toString fun digits htotal => ?_) libraries.isMatch
  · rw [Lexical.isValue_of_integerRange? hrange]
    exact Lexical.isIntegerWithin_toString hwideLeast hwideGreatest (Int.le_trans hlow hleast)
      (Int.le_trans hgreatest hhigh)
  · obtain ⟨hbelow, habove⟩ := hdigits digits htotal
    omega

/-- Generators honour facets that bound a length or a number of digits: of texts and octets there is always a value
that satisfies them, and every integer that is given satisfies them. -/
theorem lengths_and_digits_honoured :
    (∀ (base : Primitive) (length minLength maxLength : Option UInt32),
      base.isTextual = true ∨ base = .hexBinary ∨ base = .base64Binary →
      Facets.LengthsFit { base, length, minLength, maxLength } →
      ∀ (libraries : Libraries) (name path : String) (baseDate : Date) (rng : Rng), ∃ value,
        (Generator.forFacets { base, length, minLength, maxLength }).outcome libraries
            ⟨name, path, { base, length, minLength, maxLength }, baseDate⟩ rng = .ok value ∧
          ({ base, length, minLength, maxLength } : Facets).check value libraries.isMatch = .ok ()) ∧
      ∀ (base : Primitive) (totalDigits : Option UInt32), base.isInteger = true →
        ∀ (libraries : Libraries) (name path : String) (baseDate : Date) (rng : Rng) (value : String),
          (Generator.forFacets { base, totalDigits }).outcome libraries
              ⟨name, path, { base, totalDigits }, baseDate⟩ rng = .ok value →
            ({ base, totalDigits } : Facets).check value libraries.isMatch = .ok () := by
  constructor
  · intro base length minLength maxLength hbase hfit libraries name path baseDate rng
    exact outcome_of_lengths hbase hfit libraries name path baseDate rng
  · intro base totalDigits hbase libraries name path baseDate rng value h
    exact check_of_outcome_integer hbase h

/-- A token of three to five characters, and a short integer of two digits. -/
theorem lengths_and_digits_honoured_short :
    let code : Facets := { base := .token, minLength := some 3, maxLength := some 5 }
    let size : Facets := { base := .short, totalDigits := some 2 }
    (∃ value, (Generator.forFacets code).outcome .standard ⟨"code", "/code", code, ⟨2024, 2, 29⟩⟩ (Rng.ofSeed 7) =
        .ok value ∧ code.check value = .ok ()) ∧
      ∃ value, (Generator.forFacets size).outcome .standard ⟨"size", "/size", size, ⟨2024, 2, 29⟩⟩ (Rng.ofSeed 7) =
        .ok value ∧ size.check value = .ok () := by
  intro code size
  have hfit : code.LengthsFit := by
    rintro low high ⟨⟩
    decide
  have hdrawn : (Generator.forFacets size).outcome .standard ⟨"size", "/size", size, ⟨2024, 2, 29⟩⟩
      (Rng.ofSeed 7) = .ok "16" := by
    decide +kernel
  exact ⟨lengths_and_digits_honoured.1 .token none (some 3) (some 5) (.inl rfl) hfit _ _ _ _ _,
    _, hdrawn, lengths_and_digits_honoured.2 .short (some 2) rfl _ _ _ _ _ _ hdrawn⟩

end Generate

end Specimen
