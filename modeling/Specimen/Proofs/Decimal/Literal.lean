import Mathlib.Data.Rat.Defs
import Mathlib.Tactic.Ring
import Specimen.Proofs.Decimal.Digits

/-!
# Decimal literals

A decimal literal is a sign or none, digits, and a point with more digits or none, with one digit at least on one side
of the point.  The digits that are read of a text are those of a literal that is written like the text, so a text is
read just when it is a literal.
-/

namespace Specimen

namespace Decimal

/-- The sign of a number, if one is written. -/
inductive Sign where
  | none
  | plus
  | minus

def Sign.text : Sign → List Char
  | .none => []
  | .plus => ['+']
  | .minus => ['-']

/-- The factor that a sign stands for. -/
def Sign.factor : Sign → ℤ
  | .none => 1
  | .plus => 1
  | .minus => -1

/-- The point of a number and the digits behind it, if it has a point. -/
def pointText : Option (List Char) → List Char
  | none => []
  | some ds => '.' :: ds

/-- A decimal number as it is written. -/
structure Literal where
  sign : Sign
  whole : List Char
  /-- The digits behind the point, if there is a point. -/
  part : Option (List Char)
  whole_digits : ∀ c ∈ whole, c.isDigit = true
  part_digits : ∀ c ∈ part.getD [], c.isDigit = true
  nonempty : whole ≠ [] ∨ part.getD [] ≠ []

namespace Literal

/-- The digits behind the point. -/
def fraction (l : Literal) : List Char := l.part.getD []

def text (l : Literal) : List Char := l.sign.text ++ (l.whole ++ pointText l.part)

/-- The number that a literal denotes. -/
def value (l : Literal) : ℚ :=
  l.sign.factor * (ofDigits l.whole + ofDigits l.fraction / 10 ^ l.fraction.length)

/-- Behind the sign nothing but a digit or the point comes first. -/
theorem head?_ne (l : Literal) {mark : Char} (hdigit : mark.isDigit = false) (hpoint : mark ≠ '.') :
    (l.whole ++ pointText l.part).head? ≠ some mark := by
  intro hhead
  have hnot : ¬ mark.isDigit = true := by simp [hdigit]
  rcases List.mem_append.1 (List.mem_of_head? hhead) with hwhole | hpart
  · exact hnot (l.whole_digits mark hwhole)
  · cases hsome : l.part with
    | none =>
        rw [hsome] at hpart
        cases hpart
    | some ds =>
        rw [hsome] at hpart
        rcases List.mem_cons.1 hpart with heq | hmem
        · exact hpoint heq
        · exact hnot (l.part_digits mark (by rwa [hsome]))

end Literal

end Decimal

namespace Lexical

open Decimal (Sign Literal pointText)

/-- The digits before and after the point of a number that has no sign. -/
def unsignedDigits? (cs : List Char) : Option (List Char × List Char) :=
  let (whole, part) := (splitOnce? '.' cs).getD (cs, [])
  if (whole.isEmpty && part.isEmpty) || !whole.all Char.isDigit || !part.all Char.isDigit then none
  else some (whole, part)

/-- What is read behind a sign is what is read without it. -/
theorem decimalDigits?_signed (sign : Sign) {cs : List Char}
    (hcs : sign = .none → cs.head? ≠ some '-' ∧ cs.head? ≠ some '+') :
    decimalDigits? (sign.text ++ cs) = unsignedDigits? cs := by
  cases sign with
  | none =>
      obtain ⟨hminus, hplus⟩ := hcs rfl
      cases cs with
      | nil => rfl
      | cons c rest =>
          change decimalDigits? (c :: rest) = _
          unfold decimalDigits?
          split
          · rename_i heq
            exact absurd (congrArg some (List.cons.inj heq).1) hminus
          · rename_i heq
            exact absurd (congrArg some (List.cons.inj heq).1) hplus
          · rfl
  | plus => rfl
  | minus => rfl

/-- Every text is a sign, or none, and a text that is read without a sign. -/
theorem exists_sign (cs : List Char) :
    ∃ sign : Sign, ∃ rest, cs = sign.text ++ rest ∧ decimalDigits? cs = unsignedDigits? rest := by
  by_cases hminus : cs.head? = some '-'
  · obtain ⟨rest, rfl⟩ := List.head?_eq_some_iff.1 hminus
    exact ⟨.minus, rest, rfl, rfl⟩
  · by_cases hplus : cs.head? = some '+'
    · obtain ⟨rest, rfl⟩ := List.head?_eq_some_iff.1 hplus
      exact ⟨.plus, rest, rfl, rfl⟩
    · exact ⟨.none, cs, rfl, decimalDigits?_signed .none fun _ => ⟨hminus, hplus⟩⟩

theorem splitOnce?_pointText {whole : List Char} (hwhole : ∀ c ∈ whole, c.isDigit = true)
    (part : Option (List Char)) :
    (splitOnce? '.' (whole ++ pointText part)).getD (whole ++ pointText part, []) = (whole, part.getD []) := by
  have hpoint : '.' ∉ whole := fun hmem => absurd (hwhole _ hmem) (by decide)
  cases part with
  | none =>
      rw [pointText, List.append_nil, splitOnce?_eq_none fun c hc (heq : c = '.') => hpoint (heq ▸ hc)]
      rfl
  | some ds =>
      rw [pointText, splitOnce?_eq_some_iff.2 ⟨rfl, hpoint⟩]
      rfl

/-- The parts of a text before and behind its first point. -/
theorem exists_pointText (cs : List Char) : ∃ whole, ∃ part : Option (List Char),
    cs = whole ++ pointText part ∧ (splitOnce? '.' cs).getD (cs, []) = (whole, part.getD []) := by
  cases hsplit : splitOnce? '.' cs with
  | none => exact ⟨cs, none, (List.append_nil cs).symm, rfl⟩
  | some parts => exact ⟨parts.1, some parts.2, (splitOnce?_eq_some_iff.1 hsplit).1, rfl⟩

theorem unsignedDigits?_eq_some_iff {cs whole part : List Char} :
    unsignedDigits? cs = some (whole, part) ↔
      (splitOnce? '.' cs).getD (cs, []) = (whole, part) ∧ (∀ c ∈ whole, c.isDigit = true) ∧
        (∀ c ∈ part, c.isDigit = true) ∧ (whole ≠ [] ∨ part ≠ []) := by
  unfold unsignedDigits?
  generalize (splitOnce? '.' cs).getD (cs, []) = parts
  obtain ⟨before, after⟩ := parts
  dsimp only
  split
  · rename_i hbad
    refine ⟨nofun, ?_⟩
    rintro ⟨heq, hwhole, hpart, hnonempty⟩
    obtain ⟨rfl, rfl⟩ := Prod.mk.inj heq
    rw [List.all_eq_true.2 hwhole, List.all_eq_true.2 hpart] at hbad
    simp only [Bool.not_true, Bool.or_false, Bool.and_eq_true, List.isEmpty_iff] at hbad
    exact absurd hbad (by tauto)
  · rename_i hgood
    simp only [Bool.or_eq_true, Bool.and_eq_true, List.isEmpty_iff, Bool.not_eq_true', not_or,
      Bool.not_eq_false, List.all_eq_true, not_and_or] at hgood
    refine ⟨fun h => ?_, fun h => congrArg some h.1⟩
    obtain ⟨rfl, rfl⟩ := Prod.mk.inj (Option.some.inj h)
    exact ⟨rfl, hgood.1.2, hgood.2, hgood.1.1⟩

/-- The digits of a text are those of a literal that is written like it. -/
theorem decimalDigits?_eq_some_iff {cs whole part : List Char} :
    decimalDigits? cs = some (whole, part) ↔
      ∃ l : Literal, l.text = cs ∧ l.whole = whole ∧ l.fraction = part := by
  constructor
  · intro h
    obtain ⟨sign, rest, rfl, hread⟩ := exists_sign cs
    rw [hread, unsignedDigits?_eq_some_iff] at h
    obtain ⟨hsplit, hwhole, hpart, hnonempty⟩ := h
    obtain ⟨before, after, hrest, hparts⟩ := exists_pointText rest
    obtain ⟨rfl, rfl⟩ := Prod.mk.inj (hparts.symm.trans hsplit)
    exact ⟨⟨sign, before, after, hwhole, hpart, hnonempty⟩, congrArg (sign.text ++ ·) hrest.symm, rfl, rfl⟩
  · rintro ⟨l, rfl, rfl, rfl⟩
    rw [Literal.text, decimalDigits?_signed l.sign fun _ => ⟨l.head?_ne (by decide) (by decide),
      l.head?_ne (by decide) (by decide)⟩]
    exact unsignedDigits?_eq_some_iff.2
      ⟨splitOnce?_pointText l.whole_digits l.part, l.whole_digits, l.part_digits, l.nonempty⟩

end Lexical

end Specimen
