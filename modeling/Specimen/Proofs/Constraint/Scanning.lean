import Mathlib.Data.List.Basic
import Specimen.Constraint.Token
import Specimen.Proofs.Decimal.Digits

/-!
# Scanning piece by piece

A piece of text is cut into the same tokens wherever it stands, as long as it ends where a token has to
end: before a space, a bracket or a comma, or at the end of the text.
-/

namespace Specimen
namespace Token

variable {offset : Nat} {c quote : Char} {cs ds rest : List Char} {ts us : List Token}

/-! ## Single characters -/

theorem scanFrom_space : scanFrom offset (' ' :: rest) = scanFrom (offset + 1) rest := by
  rw [scanFrom]
  simp [Text.isBlank]
  rfl

theorem scanFrom_openParen : scanFrom offset ('(' :: rest) =
    (scanFrom (offset + 1) rest).map (⟨.openParen, offset⟩ :: ·) := by
  rw [scanFrom]
  simp [Text.isBlank]

theorem scanFrom_closeParen : scanFrom offset (')' :: rest) =
    (scanFrom (offset + 1) rest).map (⟨.closeParen, offset⟩ :: ·) := by
  rw [scanFrom]
  simp [Text.isBlank]

theorem scanFrom_comma : scanFrom offset (',' :: rest) =
    (scanFrom (offset + 1) rest).map (⟨.comma, offset⟩ :: ·) := by
  rw [scanFrom]
  simp [Text.isBlank]

/-- The characters with which operators begin. -/
def operatorStarts : List Char := ['=', '!', '<', '>', '&', '|', '+', '-']

theorem mem_operatorStarts {s : Symbol} (h : Symbol.ofChars? (c :: cs) = some (s, rest)) :
    c ∈ operatorStarts := by
  unfold Symbol.ofChars? at h
  split at h
  case h_14 => cases h
  all_goals
    rename_i heq
    rw [(List.cons.inj heq).1]
    simp [operatorStarts]

/-- What a character is not when it begins an operator. -/
theorem operatorStarts_only : ∀ c ∈ operatorStarts, Text.isBlank c = false ∧
    c ∉ ['(', ')', ',', '\'', '"', '_', '@'] ∧ c.isDigit = false ∧ Text.isAlphabetic c = false :=
  List.forall_iff_forall_mem.1 (by decide)

/-- No other token begins with the first character of an operator. -/
theorem scanFrom_symbol (offset : Nat) {s : Symbol} (h : Symbol.ofChars? cs = some (s, rest)) :
    ∃ next, scanFrom offset cs = (scanFrom next rest).map (⟨.symbol s, offset⟩ :: ·) := by
  cases cs with
  | nil => cases h
  | cons c after =>
      obtain ⟨hblank, hothers, hdigit, hletter⟩ := operatorStarts_only c (mem_operatorStarts h)
      simp only [List.mem_cons, List.not_mem_nil, or_false, not_or] at hothers
      obtain ⟨hopen, hclose, hcomma, hquote, hquotes, hunderscore, hat⟩ := hothers
      refine ⟨offset + (after.length + 1 - rest.length), ?_⟩
      rw [scanFrom]
      simp only [hblank, hopen, hclose, hcomma, hquote, hquotes, hunderscore, hat, hdigit, hletter,
        or_self, if_false, Bool.false_eq_true]
      split
      · rename_i hnone
        rw [hnone] at h
        cases h
      · rename_i op tail hsome
        rw [hsome] at h
        cases h
        rfl

/-! ## Pieces of text -/

/-- Characters in front of which every token ends. -/
def separators : List Char := [' ', '(', ')', ',']

/-- A text in front of which every token ends. -/
def Boundary (rest : List Char) : Prop := ∀ c ∈ rest.head?, c ∈ separators

theorem boundary_nil : Boundary [] := by
  intro c hc
  cases hc

theorem boundary_cons (hc : c ∈ separators) : Boundary (c :: rest) := by
  intro d hd
  cases hd
  exact hc

/-- In front of a boundary a piece of text is cut into tokens. -/
def Scans (cs : List Char) (ts : List Token) : Prop :=
  ∀ offset rest, Boundary rest → ∃ next located, located.map (·.token) = ts ∧
    scanFrom offset (cs ++ rest) = (scanFrom next rest).map (located ++ ·)

theorem map_append_map {ε α : Type} {x : Except ε (List α)} (l m : List α) :
    (x.map (m ++ ·)).map (l ++ ·) = x.map (l ++ m ++ ·) := by
  cases x <;> simp [Except.map]

theorem Scans.append (h : Scans cs ts) (hc : c ∈ separators) (h' : Scans (c :: ds) us) :
    Scans (cs ++ c :: ds) (ts ++ us) := by
  intro offset rest hrest
  obtain ⟨middle, first, hfirst, hcut⟩ := h offset (c :: ds ++ rest) (boundary_cons hc)
  obtain ⟨next, second, hsecond, hcut'⟩ := h' middle rest hrest
  refine ⟨next, first ++ second, by simp [hfirst, hsecond], ?_⟩
  rw [List.append_assoc, hcut, hcut', map_append_map]

theorem scans_nil : Scans [] [] := by
  intro offset rest _
  refine ⟨offset, [], rfl, ?_⟩
  cases h : scanFrom offset rest <;> simp [Except.map, h]

theorem Scans.space (h : Scans cs ts) : Scans (' ' :: cs) ts := by
  intro offset rest hrest
  obtain ⟨next, located, hlocated, hcut⟩ := h (offset + 1) rest hrest
  refine ⟨next, located, hlocated, ?_⟩
  rw [List.cons_append, scanFrom_space, hcut]

/-- A token of one character, whatever stands behind it, and then a piece. -/
theorem Scans.cons {t : Token} (ht : ∀ offset rest, ∃ next,
    scanFrom offset (c :: rest) = (scanFrom next rest).map (⟨t, offset⟩ :: ·)) (h : Scans cs ts) :
    Scans (c :: cs) (t :: ts) := by
  intro offset rest hrest
  obtain ⟨middle, hfirst⟩ := ht offset (cs ++ rest)
  obtain ⟨next, located, hlocated, hcut⟩ := h middle rest hrest
  refine ⟨next, ⟨t, offset⟩ :: located, by simp [hlocated], ?_⟩
  rw [List.cons_append, hfirst, hcut]
  exact map_append_map [⟨t, offset⟩] located

theorem Scans.openParen (h : Scans cs ts) : Scans ('(' :: cs) (.openParen :: ts) :=
  h.cons fun offset _ => ⟨offset + 1, scanFrom_openParen⟩

theorem Scans.closeParen (h : Scans cs ts) : Scans (')' :: cs) (.closeParen :: ts) :=
  h.cons fun offset _ => ⟨offset + 1, scanFrom_closeParen⟩

theorem Scans.comma (h : Scans cs ts) : Scans (',' :: cs) (.comma :: ts) :=
  h.cons fun offset _ => ⟨offset + 1, scanFrom_comma⟩

theorem Scans.minus (h : Scans cs ts) : Scans ('-' :: cs) (.symbol .minus :: ts) :=
  h.cons fun offset _ => scanFrom_symbol offset rfl

/-- In front of a boundary an operator is read as it is written. -/
theorem ofChars?_text (s : Symbol) (hrest : Boundary rest) :
    Symbol.ofChars? (s.text.toList ++ rest) = some (s, rest) := by
  cases rest with
  | nil => cases s <;> rfl
  | cons c rest =>
      have hc := hrest c rfl
      simp only [separators, List.mem_cons, List.not_mem_nil, or_false] at hc
      rcases hc with rfl | rfl | rfl | rfl <;> cases s <;> rfl

theorem scans_symbol (s : Symbol) : Scans s.text.toList [.symbol s] := by
  intro offset rest hrest
  obtain ⟨next, hcut⟩ := scanFrom_symbol offset (ofChars?_text s hrest)
  exact ⟨next, [⟨.symbol s, offset⟩], rfl, hcut⟩

/-- The exclamation mark, unless it begins the sign of inequality. -/
theorem Scans.bang (h : Scans cs ts) (hcs : cs ≠ []) (heq : cs.head? ≠ some '=') :
    Scans ('!' :: cs) (.symbol .bang :: ts) := by
  intro offset rest hrest
  have hbang : Symbol.ofChars? ('!' :: (cs ++ rest)) = some (.bang, cs ++ rest) := by
    cases cs with
    | nil => exact absurd rfl hcs
    | cons c cs =>
        have hc : c ≠ '=' := fun h => heq (h ▸ rfl)
        unfold Symbol.ofChars?
        split <;> simp_all
  obtain ⟨middle, hfirst⟩ := scanFrom_symbol offset hbang
  obtain ⟨next, located, hlocated, hcut⟩ := h middle rest hrest
  refine ⟨next, ⟨.symbol .bang, offset⟩ :: located, by simp [hlocated], ?_⟩
  rw [List.cons_append, hfirst, hcut]
  exact map_append_map [⟨.symbol .bang, offset⟩] located

/-! ## Words, numbers and quoted texts -/

theorem span_boundary {p : Char → Bool} (hp : separators.any p = false)
    (hcs : ∀ c ∈ cs, p c = true) (hrest : Boundary rest) :
    (cs ++ rest).takeWhile p = cs ∧ (cs ++ rest).dropWhile p = rest := by
  have hnone : rest.takeWhile p = [] ∧ rest.dropWhile p = rest := by
    cases rest with
    | nil => exact ⟨rfl, rfl⟩
    | cons c rest =>
        have hc := List.any_eq_false.1 hp c (hrest c rfl)
        simp [hc]
  rw [List.takeWhile_append_of_pos hcs, List.dropWhile_append_of_pos hcs, hnone.1, hnone.2,
    List.append_nil]
  exact ⟨rfl, rfl⟩

/-- The text of a name: a letter or an underscore and characters of names, or the mark of an attribute and
characters of attribute names.  No letter is white space; the scanner asks for white space first. -/
inductive IsName : List Char → Prop where
  | word {c : Char} {cs : List Char} (hblank : Text.isBlank c = false)
      (hc : Text.isAlphabetic c = true ∨ c = '_') (hcs : ∀ d ∈ cs, isNameChar d = true) :
      IsName (c :: cs)
  | mark {cs : List Char} (hcs : ∀ d ∈ cs, isAttributeChar d = true) : IsName ('@' :: cs)

theorem IsName.of_all (hblank : Text.isBlank c = false) (hc : Text.isAlphabetic c = true)
    (hcs : cs.all isNameChar = true) : IsName (c :: cs) :=
  .word hblank (.inl hc) (List.all_eq_true.1 hcs)

theorem scans_name (h : IsName cs) : Scans cs [.name (String.ofList cs)] := by
  intro offset rest hrest
  cases h with
  | @word c cs hblank hc hcs =>
      have hothers : ∀ d ∈ ['(', ')', ',', '\'', '"'], ¬ (Text.isAlphabetic d = true ∨ d = '_') :=
        List.forall_iff_forall_mem.1 (by decide)
      have hnot : ∀ d ∈ ['(', ')', ',', '\'', '"'], c ≠ d := fun d hd heq => hothers d hd (heq ▸ hc)
      have hdigit : c.isDigit = false := by
        by_contra h
        have hletter := Text.isAlphabetic_of_isDigit (by simpa using h)
        rcases hc with hc | rfl
        · rw [hletter] at hc
          cases hc
        · exact h rfl
      obtain ⟨hname, hbehind⟩ := span_boundary (p := isNameChar) (by decide) hcs hrest
      simp only [List.forall_mem_cons] at hnot
      obtain ⟨hopen, hclose, hcomma, hquote, hquotes, -⟩ := hnot
      refine ⟨offset + byteLength (c :: cs), [⟨.name (String.ofList (c :: cs)), offset⟩], rfl, ?_⟩
      rw [List.cons_append, scanFrom]
      simp only [hblank, hopen, hclose, hcomma, hquote, hquotes, hdigit, hname, hbehind, hc, or_self,
        if_false, if_true, Bool.false_eq_true]
      rfl
  | @mark cs hcs =>
      obtain ⟨hname, hbehind⟩ := span_boundary (p := isAttributeChar) (by decide) hcs hrest
      refine ⟨offset + byteLength ('@' :: cs), [⟨.name (String.ofList ('@' :: cs)), offset⟩], rfl, ?_⟩
      rw [List.cons_append, scanFrom]
      simp [Text.isBlank, Text.isAlphabetic, hname, hbehind]

/-- The text of a whole number. -/
def IsNumeral (cs : List Char) : Prop := cs ≠ [] ∧ ∀ c ∈ cs, c.isDigit = true

theorem scans_number {x : Float} (h : IsNumeral cs) (hx : Decimal.readFloat? (String.ofList cs) = some x) :
    Scans cs [.number x] := by
  intro offset rest hrest
  obtain ⟨hne, hdigits⟩ := h
  cases cs with
  | nil => exact absurd rfl hne
  | cons c cs =>
      have hc : c.isDigit = true := hdigits c List.mem_cons_self
      have hothers : ∀ d ∈ ['(', ')', ',', '\'', '"'], ¬ d.isDigit = true :=
        List.forall_iff_forall_mem.1 (by decide)
      have hnot : ∀ d ∈ ['(', ')', ',', '\'', '"'], c ≠ d := fun d hd heq => hothers d hd (heq ▸ hc)
      have hblank := Text.isBlank_of_isDigit hc
      have hchars : ∀ d ∈ cs, isNumberChar d = true := by
        intro d hd
        simp [isNumberChar, hdigits d (List.mem_cons_of_mem _ hd)]
      obtain ⟨hnumber, hbehind⟩ := span_boundary (p := isNumberChar) (by decide) hchars hrest
      simp only [List.forall_mem_cons] at hnot
      obtain ⟨hopen, hclose, hcomma, hquote, hquotes, -⟩ := hnot
      refine ⟨offset + byteLength (c :: cs), [⟨.number x, offset⟩], rfl, ?_⟩
      rw [List.cons_append, scanFrom]
      simp only [hblank, hopen, hclose, hcomma, hquote, hquotes, hc, hnumber, hbehind, hx, or_self,
        if_false, if_true, Bool.false_eq_true]
      rfl

/-- A text with a backslash in front of each quote and each backslash. -/
def escaped (quote : Char) (cs : List Char) : List Char :=
  cs.flatMap fun c => if c = quote ∨ c = '\\' then ['\\', c] else [c]

theorem quoted?_escaped (hquote : quote ≠ '\\') :
    quoted? quote (escaped quote cs ++ quote :: rest) = some (cs, rest) := by
  induction cs with
  | nil =>
      change quoted? quote (quote :: rest) = some ([], rest)
      unfold quoted?
      rw [if_pos rfl]
  | cons c cs ih =>
      by_cases hc : c = quote ∨ c = '\\'
      · have hescaped : escaped quote (c :: cs) = '\\' :: c :: escaped quote cs := by
          simp [escaped, hc]
        rw [hescaped, List.cons_append, List.cons_append, quoted?, if_neg hquote.symm, if_pos rfl]
        simp [ih]
      · have hescaped : escaped quote (c :: cs) = c :: escaped quote cs := by
          simp [escaped, hc]
        rw [not_or] at hc
        rw [hescaped, List.cons_append, quoted?.eq_def]
        simp [hc.1, hc.2, ih]

theorem scans_text {s : String} (hquote : quote = '\'' ∨ quote = '"') :
    Scans (quote :: escaped quote s.toList ++ [quote]) [.text s] := by
  intro offset rest _
  have hother : quote ≠ '\\' ∧ quote ∉ ['(', ')', ','] ∧ Text.isBlank quote = false := by
    rcases hquote with rfl | rfl <;> decide
  obtain ⟨hbackslash, hnot, hblank⟩ := hother
  simp only [List.mem_cons, List.not_mem_nil, or_false, not_or] at hnot
  obtain ⟨hopen, hclose, hcomma⟩ := hnot
  have hquoted : quoted? quote (escaped quote s.toList ++ quote :: rest) = some (s.toList, rest) :=
    quoted?_escaped hbackslash
  refine ⟨offset + byteLength (quote :: (escaped quote s.toList ++ quote :: rest)) - byteLength rest,
    [⟨.text s, offset⟩], rfl, ?_⟩
  rw [List.append_assoc, List.cons_append, List.cons_append, List.nil_append, scanFrom]
  simp only [hblank, hopen, hclose, hcomma, hquote, if_false, if_true, Bool.false_eq_true]
  split
  · rename_i hnone
    rw [hnone] at hquoted
    cases hquoted
  · rename_i body after hsome
    rw [hsome] at hquoted
    cases hquoted
    simp

/-- A piece that makes up the whole text. -/
theorem Scans.scan {source : String} (h : Scans source.toList ts) :
    ∃ located, scan source = .ok located ∧ located.map (·.token) = ts := by
  obtain ⟨next, located, hlocated, hcut⟩ := h 0 [] boundary_nil
  have hend : scanFrom next [] = .ok [] := by rw [scanFrom]
  rw [List.append_nil, hend] at hcut
  refine ⟨located, ?_, hlocated⟩
  rw [Token.scan, hcut]
  simp [Except.map]

end Token
end Specimen
