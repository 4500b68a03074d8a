import Mathlib.Data.String.Basic
import Mathlib.Data.List.TakeWhile
import Specimen.Proofs.Constraint.Grammar
import Specimen.Proofs.Constraint.Scanning

/-!
# Positions in constraints

A constraint is scanned by the index of characters, and operators are looked up in the text from the byte on at which
a character begins.  A text can be cut only where a character begins or where it ends, so index and byte have to
keep in step (`Stands`).  Every round of the scanner keeps them in step and passes over a character at least
(`round?_advances`); therefore nothing is cut inside a character and the scanner ends (`scanIndexed?_eq_scan`).

Tokens begin where characters begin, each behind the one before, and the faults of the scanner and of the parser are
placed at tokens or at the end of the text (`positions_usable`).
-/

namespace Specimen
namespace Token

variable {source : String} {i offset : Nat} {c : Char} {cs rest : List Char}

/-! ## Bytes -/

@[simp]
theorem byteLength_eq (cs : List Char) : byteLength cs = String.utf8Len cs := by
  have hfold : ∀ n, cs.foldl (fun n c => n + c.utf8Size) n = n + String.utf8Len cs := by
    induction cs with
    | nil => exact fun n => rfl
    | cons c cs ih =>
        intro n
        rw [List.foldl_cons, ih, String.utf8Len_cons]
        omega
  exact (hfold 0).trans (Nat.zero_add _)

theorem utf8Len_pos (h : cs ≠ []) : 0 < String.utf8Len cs := by
  obtain ⟨c, rest, rfl⟩ := List.exists_cons_of_ne_nil h
  rw [String.utf8Len_cons]
  exact Nat.add_pos_right _ c.utf8Size_pos

/-- Whether a character of a text begins at a byte, or the text ends there. -/
def IsBoundary (source : String) (n : Nat) : Prop := (String.Pos.Raw.mk n).IsValid source

instance (source : String) (n : Nat) : Decidable (IsBoundary source n) :=
  inferInstanceAs (Decidable ((String.Pos.Raw.mk n).IsValid source))

theorem isBoundary_iff {n : Nat} :
    IsBoundary source n ↔ ∃ before cs, source.toList = before ++ cs ∧ n = String.utf8Len before := by
  rw [IsBoundary, String.Pos.Raw.isValid_iff_exists_append]
  constructor
  · rintro ⟨s, t, rfl, hn⟩
    refine ⟨s.toList, t.toList, String.toList_append, ?_⟩
    rw [String.utf8Len_toList, ← String.byteIdx_rawEndPos, ← hn]
  · rintro ⟨before, cs, hsource, rfl⟩
    refine ⟨String.ofList before, String.ofList cs, ?_, ?_⟩
    · rw [← String.ofList_append, ← hsource, String.ofList_toList]
    · rw [String.Pos.Raw.ext_iff, String.byteIdx_rawEndPos, String.utf8ByteSize_ofList]

theorem IsBoundary.le {n : Nat} (h : IsBoundary source n) : n ≤ source.utf8ByteSize := by
  obtain ⟨before, cs, hsource, rfl⟩ := isBoundary_iff.1 h
  rw [← String.utf8Len_toList, hsource, String.utf8Len_append]
  exact Nat.le_add_right _ _

theorem isBoundary_end (source : String) : IsBoundary source source.utf8ByteSize :=
  isBoundary_iff.2 ⟨source.toList, [], (List.append_nil _).symm, (String.utf8Len_toList source).symm⟩

/-- Characters without the first `n` bytes. -/
def dropBytes (n : Nat) : List Char → List Char
  | [] => []
  | c :: rest => if n = 0 then c :: rest else dropBytes (n - c.utf8Size) rest

theorem dropBytes_append (before cs : List Char) : dropBytes (String.utf8Len before) (before ++ cs) = cs := by
  induction before with
  | nil => cases cs <;> rfl
  | cons c before ih =>
      have hpos := utf8Len_pos (List.cons_ne_nil c before)
      rw [List.cons_append, dropBytes, if_neg (Nat.ne_of_gt hpos), String.utf8Len_cons, Nat.add_sub_cancel, ih]

/-- The text from a byte on.  There is none inside a character, where a text cannot be cut. -/
def slice? (source : String) (n : Nat) : Option (List Char) :=
  if IsBoundary source n then some (dropBytes n source.toList) else none

/-! ## Characters by their index -/

def indicesFrom (offset : Nat) : List Char → List (Nat × Char)
  | [] => []
  | c :: rest => (offset, c) :: indicesFrom (offset + c.utf8Size) rest

/-- The characters of a text with the bytes at which they begin. -/
def charIndices (source : String) : List (Nat × Char) := indicesFrom 0 source.toList

theorem indicesFrom_append (offset : Nat) (before cs : List Char) : indicesFrom offset (before ++ cs) =
    indicesFrom offset before ++ indicesFrom (offset + String.utf8Len before) cs := by
  induction before generalizing offset with
  | nil => rfl
  | cons c before ih =>
      rw [List.cons_append, indicesFrom, indicesFrom, ih, String.utf8Len_cons, List.cons_append]
      congr 3
      omega

@[simp]
theorem length_indicesFrom (offset : Nat) (cs : List Char) : (indicesFrom offset cs).length = cs.length := by
  induction cs generalizing offset with
  | nil => rfl
  | cons c rest ih => rw [indicesFrom, List.length_cons, List.length_cons, ih]

theorem map_indicesFrom (offset : Nat) (cs : List Char) : (indicesFrom offset cs).map (·.2) = cs := by
  induction cs generalizing offset with
  | nil => rfl
  | cons c rest ih => rw [indicesFrom, List.map_cons, ih]

/-- The characters `cs` are those of a text from an index on, and the first begins at the byte `offset`. -/
structure Stands (source : String) (i offset : Nat) (cs : List Char) : Prop where
  split : ∃ before, source.toList = before ++ cs ∧ i = before.length ∧ offset = String.utf8Len before

theorem stands_start (source : String) : Stands source 0 0 source.toList := ⟨⟨[], rfl, rfl, rfl⟩⟩

namespace Stands

theorem move {passed : List Char} (h : Stands source i offset (passed ++ rest)) :
    Stands source (i + passed.length) (offset + String.utf8Len passed) rest := by
  obtain ⟨before, hsource, rfl, rfl⟩ := h.split
  exact ⟨before ++ passed, by rw [hsource, List.append_assoc], by rw [List.length_append],
    by rw [String.utf8Len_append]⟩

theorem next (h : Stands source i offset (c :: rest)) : Stands source (i + 1) (offset + c.utf8Size) rest := by
  have hmove := @Stands.move source i offset rest [c] h
  rwa [String.utf8Len_cons, String.utf8Len_nil, Nat.zero_add] at hmove

theorem isBoundary (h : Stands source i offset cs) : IsBoundary source offset := by
  obtain ⟨before, hsource, -, hoffset⟩ := h.split
  exact isBoundary_iff.2 ⟨before, cs, hsource, hoffset⟩

theorem slice? (h : Stands source i offset cs) : slice? source offset = some cs := by
  rw [Token.slice?, if_pos h.isBoundary]
  obtain ⟨before, hsource, -, rfl⟩ := h.split
  rw [hsource, dropBytes_append]

theorem drop (h : Stands source i offset cs) : (charIndices source).drop i = indicesFrom offset cs := by
  obtain ⟨before, hsource, rfl, rfl⟩ := h.split
  rw [charIndices, hsource, indicesFrom_append, List.drop_left' (length_indicesFrom _ _), Nat.zero_add]

theorem getElem?_cons (h : Stands source i offset (c :: rest)) : (charIndices source)[i]? = some (offset, c) := by
  rw [← List.head?_drop, h.drop]
  rfl

theorem getElem?_nil (h : Stands source i offset []) : (charIndices source)[i]? = none := by
  rw [← List.head?_drop, h.drop]
  rfl

end Stands

/-! ## Operators -/

/-- The operators in the order in which the scanner tries them. -/
def operators : List Symbol :=
  [.eqEq, .bangEq, .ltGt, .ltEq, .gtEq, .andAnd, .orOr, .eq, .lt, .gt, .bang, .plus, .minus]

/-- Whether a text begins with an operator. -/
def beginsWith (cs : List Char) (s : Symbol) : Bool := s.text.toList.isPrefixOf cs

/-- Characters after an operator that they begin with. -/
def behind (cs : List Char) (s : Symbol) : List Char := cs.drop s.text.toList.length

/-- The operator that is found first in the table is the longest that fits. -/
theorem ofChars?_eq_find? (cs : List Char) :
    Symbol.ofChars? cs = (operators.find? (beginsWith cs)).map fun s => (s, behind cs s) := by
  unfold Symbol.ofChars?
  split
  case h_8 rest h | h_10 rest h | h_11 rest h =>
    cases rest with
    | nil => decide
    | cons d after =>
        have hd : '=' ≠ d := fun hd => h after (hd ▸ rfl)
        simp [operators, beginsWith, Symbol.text, behind, List.isPrefixOf, hd]
  case h_9 rest hgt heq =>
    cases rest with
    | nil => decide
    | cons d after =>
        have hd : '>' ≠ d ∧ '=' ≠ d := ⟨fun hd => hgt after (hd ▸ rfl), fun hd => heq after (hd ▸ rfl)⟩
        simp [operators, beginsWith, Symbol.text, behind, List.isPrefixOf, hd]
  case h_14 hand hor heq hlt hgt hbang hplus hminus =>
    refine (Option.map_eq_none_iff.2 (List.find?_eq_none.2 fun s _ hs => ?_)).symm
    obtain ⟨rest, rfl⟩ := List.isPrefixOf_iff_prefix.1 hs
    cases s with
    | eqEq | eq => exact heq _ rfl
    | bangEq | bang => exact hbang _ rfl
    | ltGt | ltEq | lt => exact hlt _ rfl
    | gtEq | gt => exact hgt _ rfl
    | andAnd => exact hand _ rfl
    | orOr => exact hor _ rfl
    | plus => exact hplus _ rfl
    | minus => exact hminus _ rfl
  all_goals simp [operators, beginsWith, Symbol.text, behind, List.isPrefixOf]

/-- Operators stand in the table by their length, so no other that fits is longer than the first. -/
theorem ofChars?_longest {s : Symbol} (h : Symbol.ofChars? cs = some (s, rest)) :
    cs = s.text.toList ++ rest ∧ ∀ other : Symbol, other.text.toList <+: cs → other.text.length ≤ s.text.length := by
  rw [ofChars?_eq_find?, Option.map_eq_some_iff] at h
  obtain ⟨first, hfind, heq⟩ := h
  cases heq
  obtain ⟨hfirst, before, after, htable, hbefore⟩ := List.find?_eq_some_iff_append.1 hfind
  have hprefix : s.text.toList <+: cs := List.isPrefixOf_iff_prefix.1 hfirst
  refine ⟨(List.prefix_iff_eq_append.1 hprefix).symm, fun other hother => ?_⟩
  have hsorted : operators.Pairwise fun a b => b.text.length ≤ a.text.length := by decide
  have hmem : other ∈ operators := by cases other <;> decide
  rw [htable] at hsorted hmem
  rcases List.mem_append.1 hmem with hmem | hmem
  · have hnot := hbefore other hmem
    rw [beginsWith, List.isPrefixOf_iff_prefix.2 hother] at hnot
    cases hnot
  · rcases List.mem_cons.1 hmem with rfl | hmem
    · exact Nat.le_refl _
    · exact List.rel_of_pairwise_cons (List.pairwise_append.1 hsorted).2.1 hmem

/-! ## Scanning by index -/

/-- The first index from `i` on at which a character is not of a class, or the end. -/
def passWhile (chars : List (Nat × Char)) (p : Char → Bool) (i : Nat) : Nat :=
  if h : i < chars.length then if p chars[i].2 then passWhile chars p (i + 1) else i else i
termination_by chars.length - i

/-- The characters from one index to another. -/
def between (chars : List (Nat × Char)) (i j : Nat) : List Char := ((chars.drop i).take (j - i)).map (·.2)

/-- Reads a quoted text from the index behind its opening quote on: its characters and the index behind the closing
quote. -/
def quotedAt? (chars : List (Nat × Char)) (quote : Char) (i : Nat) : Option (List Char × Nat) :=
  if h : i < chars.length then
    if chars[i].2 = quote then some ([], i + 1)
    else if chars[i].2 = '\\' then
      if h' : i + 1 < chars.length then
        (quotedAt? chars quote (i + 2)).map fun p => (chars[i + 1].2 :: p.1, p.2)
      else (quotedAt? chars quote (i + 1)).map fun p => (chars[i].2 :: p.1, p.2)
    else (quotedAt? chars quote (i + 1)).map fun p => (chars[i].2 :: p.1, p.2)
  else none
termination_by chars.length - i

/-- What a round of the scanner comes to: it goes on at an index, with a token or without, or it finds a fault. -/
inductive Round where
  | skip (next : Nat)
  | take (token : Token) (next : Nat)
  | fault (fault : SyntaxFault)

/-- The round at an index, where a character stands that begins at a byte.  There is none if the text is cut inside a
character. -/
def round? (source : String) (i position : Nat) (c : Char) : Option Round :=
  let chars := charIndices source
  if Text.isBlank c then some (.skip (i + 1))
  else if c = '(' then some (.take .openParen (i + 1))
  else if c = ')' then some (.take .closeParen (i + 1))
  else if c = ',' then some (.take .comma (i + 1))
  else if c = '\'' ∨ c = '"' then
    match quotedAt? chars c (i + 1) with
    | none => some (.fault .unterminatedText)
    | some (body, next) => some (.take (.text (String.ofList body)) next)
  else if c.isDigit then
    let next := passWhile chars isNumberChar i
    let literal := String.ofList (between chars i next)
    match Decimal.readFloat? literal with
    | none => some (.fault (.invalidNumber literal))
    | some value => some (.take (.number value) next)
  else if Text.isAlphabetic c ∨ c = '_' then
    let next := passWhile chars isNameChar i
    some (.take (.name (String.ofList (between chars i next))) next)
  else if c = '@' then
    let next := passWhile chars isAttributeChar (i + 1)
    some (.take (.name (String.ofList (between chars i next))) next)
  else
    (slice? source position).map fun cs =>
      match operators.find? (beginsWith cs) with
      | none => .fault (.unexpectedChar c)
      | some s => .take (.symbol s) (i + s.text.length)

/-- The scanner by index, with so many rounds at most.  There is no result if the rounds are not enough or a text is cut
inside a character. -/
def scanIndexed? (source : String) : (rounds i : Nat) → Option (Except SyntaxError (List Located))
  | 0, _ => none
  | rounds + 1, i =>
    match (charIndices source)[i]? with
    | none => some (.ok [])
    | some (position, c) =>
      match round? source i position c with
      | none => none
      | some (.skip next) => scanIndexed? source rounds next
      | some (.take token next) => (scanIndexed? source rounds next).map fun r => r.map (⟨token, position⟩ :: ·)
      | some (.fault fault) => some (.error ⟨fault, position⟩)

/-- In a round the scanner passes over characters, at least one, and goes on behind them. -/
inductive Advances (i offset : Nat) (cs : List Char) : Round → Prop where
  | skip {passed rest : List Char} (hcs : cs = passed ++ rest) (hne : passed ≠ [])
      (hscan : scanFrom offset cs = scanFrom (offset + String.utf8Len passed) rest) :
      Advances i offset cs (.skip (i + passed.length))
  | take {passed rest : List Char} {token : Token} (hcs : cs = passed ++ rest) (hne : passed ≠ [])
      (hscan : scanFrom offset cs =
        (scanFrom (offset + String.utf8Len passed) rest).map (⟨token, offset⟩ :: ·))
      (hsymbol : ∀ s, token = .symbol s → Symbol.ofChars? cs = some (s, rest)) :
      Advances i offset cs (.take token (i + passed.length))
  | fault {fault : SyntaxFault} (hscan : scanFrom offset cs = .error ⟨fault, offset⟩) :
      Advances i offset cs (.fault fault)

theorem passWhile_eq (h : Stands source i offset cs) (p : Char → Bool) :
    passWhile (charIndices source) p i = i + (cs.takeWhile p).length := by
  induction cs generalizing i offset with
  | nil =>
      have hend := h.getElem?_nil
      rw [List.getElem?_eq_none_iff] at hend
      rw [passWhile, dif_neg (Nat.not_lt.2 hend)]
      rfl
  | cons c rest ih =>
      obtain ⟨hi, hc⟩ := List.getElem?_eq_some_iff.1 h.getElem?_cons
      rw [passWhile, dif_pos hi, hc, List.takeWhile_cons]
      split
      · rw [ih h.next, List.length_cons]
        omega
      · rfl

theorem between_eq {passed : List Char} (h : Stands source i offset (passed ++ rest)) :
    between (charIndices source) i (i + passed.length) = passed := by
  rw [between, h.drop, Nat.add_sub_cancel_left, indicesFrom_append, List.take_left' (length_indicesFrom _ _)]
  exact map_indicesFrom _ _

theorem quoted?_split {quote : Char} {body : List Char} (h : quoted? quote cs = some (body, rest)) :
    ∃ passed, cs = passed ++ rest := by
  fun_induction quoted? quote cs generalizing body with
  | case1 => cases h
  | case2 after =>
      cases h
      exact ⟨[quote], rfl⟩
  | case3 => cases h
  | case4 escaped after _ ih =>
      obtain ⟨⟨text, left⟩, hafter, heq⟩ := Option.map_eq_some_iff.1 h
      cases heq
      obtain ⟨passed, rfl⟩ := ih hafter
      exact ⟨'\\' :: escaped :: passed, rfl⟩
  | case5 c after _ _ ih =>
      obtain ⟨⟨text, left⟩, hafter, heq⟩ := Option.map_eq_some_iff.1 h
      cases heq
      obtain ⟨passed, rfl⟩ := ih hafter
      exact ⟨c :: passed, rfl⟩

/-- A character more that is kept, and `k` characters more that are passed over. -/
theorem map_quoted? (quote c : Char) (cs : List Char) (i k : Nat) :
    ((quoted? quote cs).map fun p => (p.1, i + k + (cs.length - p.2.length))).map (fun p => (c :: p.1, p.2)) =
      ((quoted? quote cs).map fun p => (c :: p.1, p.2)).map fun p => (p.1, i + (cs.length + k - p.2.length)) := by
  cases hquoted : quoted? quote cs with
  | none => rfl
  | some p =>
      have hshorter := length_lt_of_quoted? hquoted
      simp only [Option.map_some, Option.some.injEq, Prod.mk.injEq, true_and]
      omega

theorem quotedAt?_eq (h : Stands source i offset cs) (quote : Char) :
    quotedAt? (charIndices source) quote i =
      (quoted? quote cs).map fun p => (p.1, i + (cs.length - p.2.length)) := by
  fun_induction quoted? quote cs generalizing i offset with
  | case1 =>
      have hend := h.getElem?_nil
      rw [List.getElem?_eq_none_iff] at hend
      rw [quotedAt?, dif_neg (Nat.not_lt.2 hend)]
      rfl
  | case2 after =>
      obtain ⟨hi, hc⟩ := List.getElem?_eq_some_iff.1 h.getElem?_cons
      rw [quotedAt?, dif_pos hi, hc, if_pos rfl]
      simp
  | case3 hquote =>
      obtain ⟨hi, hc⟩ := List.getElem?_eq_some_iff.1 h.getElem?_cons
      have hend := h.next.getElem?_nil
      rw [List.getElem?_eq_none_iff] at hend
      rw [quotedAt?, dif_pos hi, hc, if_neg hquote, if_pos rfl, dif_neg (Nat.not_lt.2 hend), quotedAt?,
        dif_neg (Nat.not_lt.2 hend)]
      rfl
  | case4 escaped after hquote ih =>
      obtain ⟨hi, hc⟩ := List.getElem?_eq_some_iff.1 h.getElem?_cons
      obtain ⟨hi', hc'⟩ := List.getElem?_eq_some_iff.1 h.next.getElem?_cons
      rw [quotedAt?, dif_pos hi, hc, if_neg hquote, if_pos rfl, dif_pos hi', hc', ih h.next.next]
      exact map_quoted? quote escaped after i 2
  | case5 c after hquote hbackslash ih =>
      obtain ⟨hi, hc⟩ := List.getElem?_eq_some_iff.1 h.getElem?_cons
      rw [quotedAt?, dif_pos hi, hc, if_neg hquote, if_neg hbackslash, ih h.next]
      exact map_quoted? quote c after i 1

/-! ## One round -/

theorem isNumberChar_of_isDigit (h : c.isDigit = true) : isNumberChar c = true := by
  rw [isNumberChar, h, Bool.true_or]

theorem isNameChar_of_start (h : Text.isAlphabetic c = true ∨ c = '_') : isNameChar c = true := by
  rcases h with h | rfl
  · rw [isNameChar, Text.isAlphanumeric, h]
    rfl
  · decide

theorem append_dropWhile (p : Char → Bool) (c : Char) (rest : List Char) :
    c :: rest = c :: rest.takeWhile p ++ rest.dropWhile p := by
  rw [List.cons_append, List.takeWhile_append_dropWhile]

/-- The index up to which characters of a class stand, and these characters, with a first of them. -/
theorem pass_eq {p : Char → Bool} (h : Stands source i offset (c :: rest)) (hp : p c = true) :
    passWhile (charIndices source) p i = i + (c :: rest.takeWhile p).length ∧
      between (charIndices source) i (passWhile (charIndices source) p i) = c :: rest.takeWhile p := by
  have hpass := passWhile_eq h p
  rw [List.takeWhile_cons, if_pos hp] at hpass
  rw [append_dropWhile p] at h
  exact ⟨hpass, by rw [hpass, between_eq h]⟩

/-- Characters of a class and one in front of them. -/
theorem pass_behind_eq (p : Char → Bool) (h : Stands source i offset (c :: rest)) :
    passWhile (charIndices source) p (i + 1) = i + (c :: rest.takeWhile p).length ∧
      between (charIndices source) i (passWhile (charIndices source) p (i + 1)) = c :: rest.takeWhile p := by
  have hpass := passWhile_eq h.next p
  rw [Nat.add_assoc, Nat.add_comm 1, ← List.length_cons (a := c)] at hpass
  rw [append_dropWhile p] at h
  exact ⟨hpass, by rw [hpass, between_eq h]⟩

theorem Advances.single {token : Token} (hsize : c.utf8Size = 1)
    (hscan : scanFrom offset (c :: rest) = (scanFrom (offset + 1) rest).map (⟨token, offset⟩ :: ·))
    (hsymbol : ∀ s, token ≠ .symbol s) : Advances i offset (c :: rest) (.take token (i + 1)) := by
  refine @Advances.take i offset _ [c] rest token rfl (List.cons_ne_nil _ _) ?_ fun s hs => absurd hs (hsymbol s)
  rw [String.utf8Len_cons, String.utf8Len_nil, Nat.zero_add, hsize, hscan]

/-- A quoted text is passed over with both its quotes. -/
theorem advances_quoted {body after : List Char} (hquoted : quoted? c rest = some (body, after))
    (hscan : scanFrom offset (c :: rest) =
      (scanFrom (offset + byteLength (c :: rest) - byteLength after) after).map
        (⟨.text (String.ofList body), offset⟩ :: ·)) :
    Advances i offset (c :: rest) (.take (.text (String.ofList body)) (i + 1 + (rest.length - after.length))) := by
  obtain ⟨passed, rfl⟩ := quoted?_split hquoted
  have hindex : i + 1 + ((passed ++ after).length - after.length) = i + (c :: passed).length := by
    rw [List.length_append, List.length_cons]
    omega
  have hbytes : offset + byteLength (c :: (passed ++ after)) - byteLength after =
      offset + String.utf8Len (c :: passed) := by
    rw [byteLength_eq, byteLength_eq, ← List.cons_append, String.utf8Len_append]
    omega
  rw [hindex]
  rw [hbytes] at hscan
  exact .take (List.cons_append ..).symm (List.cons_ne_nil _ _) hscan fun _ => Token.noConfusion

/-- An operator is passed over as it is written. -/
theorem advances_symbol {s : Symbol} {after : List Char} (hsymbol : Symbol.ofChars? (c :: rest) = some (s, after))
    (hscan : scanFrom offset (c :: rest) =
      (scanFrom (offset + (rest.length + 1 - after.length)) after).map (⟨.symbol s, offset⟩ :: ·)) :
    Advances i offset (c :: rest) (.take (.symbol s) (i + s.text.length)) := by
  obtain ⟨hwritten, -⟩ := ofChars?_longest hsymbol
  have hlength := congrArg List.length hwritten
  rw [List.length_cons, List.length_append] at hlength
  have hbytes : offset + (rest.length + 1 - after.length) = offset + String.utf8Len s.text.toList := by
    have hascii : String.utf8Len s.text.toList = s.text.toList.length := by cases s <;> rfl
    omega
  have hne : s.text.toList ≠ [] := by cases s <;> decide
  rw [hbytes] at hscan
  rw [← String.length_toList]
  refine .take hwritten hne hscan fun other hother => ?_
  cases hother
  exact hsymbol

section Rounds

variable (h : Stands source i offset (c :: rest)) (hblank : ¬ Text.isBlank c = true) (hopen : ¬ c = '(')
  (hclose : ¬ c = ')') (hcomma : ¬ c = ',')

include h hblank hopen hclose hcomma

theorem round?_quoted (hquote : c = '\'' ∨ c = '"') :
    ∃ r, round? source i offset c = some r ∧ Advances i offset (c :: rest) r := by
  have hscan := scanFrom.eq_def offset (c :: rest)
  dsimp only at hscan
  rw [if_neg hblank, if_neg hopen, if_neg hclose, if_neg hcomma, if_pos hquote] at hscan
  unfold round?
  rw [if_neg hblank, if_neg hopen, if_neg hclose, if_neg hcomma, if_pos hquote, quotedAt?_eq h.next]
  split at hscan
  · rename_i hnone
    rw [hnone]
    exact ⟨_, rfl, .fault hscan⟩
  · rename_i body after hsome
    rw [hsome]
    exact ⟨_, rfl, advances_quoted hsome hscan⟩

variable (hquote : ¬ (c = '\'' ∨ c = '"'))

include hquote

theorem round?_number (hdigit : c.isDigit = true) :
    ∃ r, round? source i offset c = some r ∧ Advances i offset (c :: rest) r := by
  obtain ⟨hnext, hbetween⟩ := pass_eq h (isNumberChar_of_isDigit hdigit)
  have hscan := scanFrom.eq_def offset (c :: rest)
  dsimp only at hscan
  rw [if_neg hblank, if_neg hopen, if_neg hclose, if_neg hcomma, if_neg hquote, if_pos hdigit, byteLength_eq] at hscan
  unfold round?
  rw [if_neg hblank, if_neg hopen, if_neg hclose, if_neg hcomma, if_neg hquote, if_pos hdigit]
  dsimp only
  rw [hbetween, hnext]
  cases hvalue : Decimal.readFloat? (String.ofList (c :: rest.takeWhile isNumberChar)) with
  | none =>
      rw [hvalue] at hscan
      exact ⟨_, rfl, .fault hscan⟩
  | some value =>
      rw [hvalue] at hscan
      exact ⟨_, rfl, .take (append_dropWhile _ _ _) (List.cons_ne_nil _ _) hscan fun _ => Token.noConfusion⟩

variable (hdigit : ¬ c.isDigit = true)

include hdigit

theorem round?_name (hletter : Text.isAlphabetic c = true ∨ c = '_') :
    ∃ r, round? source i offset c = some r ∧ Advances i offset (c :: rest) r := by
  obtain ⟨hnext, hbetween⟩ := pass_eq h (isNameChar_of_start hletter)
  unfold round?
  rw [if_neg hblank, if_neg hopen, if_neg hclose, if_neg hcomma, if_neg hquote, if_neg hdigit, if_pos hletter]
  dsimp only
  rw [hbetween, hnext]
  refine ⟨_, rfl, .take (append_dropWhile _ _ _) (List.cons_ne_nil _ _) ?_ fun _ => Token.noConfusion⟩
  rw [← byteLength_eq, scanFrom, if_neg hblank, if_neg hopen, if_neg hclose, if_neg hcomma, if_neg hquote,
    if_neg hdigit, if_pos hletter]

variable (hletter : ¬ (Text.isAlphabetic c = true ∨ c = '_'))

include hletter

theorem round?_mark (hmark : c = '@') :
    ∃ r, round? source i offset c = some r ∧ Advances i offset (c :: rest) r := by
  obtain ⟨hnext, hbetween⟩ := pass_behind_eq isAttributeChar h
  unfold round?
  rw [if_neg hblank, if_neg hopen, if_neg hclose, if_neg hcomma, if_neg hquote, if_neg hdigit, if_neg hletter,
    if_pos hmark]
  dsimp only
  rw [hbetween, hnext]
  refine ⟨_, rfl, .take (append_dropWhile _ _ _) (List.cons_ne_nil _ _) ?_ fun _ => Token.noConfusion⟩
  rw [← byteLength_eq, scanFrom, if_neg hblank, if_neg hopen, if_neg hclose, if_neg hcomma, if_neg hquote,
    if_neg hdigit, if_neg hletter, if_pos hmark]

/-- Here the text is cut, at the byte at which the character begins. -/
theorem round?_symbol (hmark : ¬ c = '@') :
    ∃ r, round? source i offset c = some r ∧ Advances i offset (c :: rest) r := by
  have hfind := ofChars?_eq_find? (c :: rest)
  have hscan := scanFrom.eq_def offset (c :: rest)
  dsimp only at hscan
  rw [if_neg hblank, if_neg hopen, if_neg hclose, if_neg hcomma, if_neg hquote, if_neg hdigit, if_neg hletter,
    if_neg hmark] at hscan
  unfold round?
  rw [if_neg hblank, if_neg hopen, if_neg hclose, if_neg hcomma, if_neg hquote, if_neg hdigit, if_neg hletter,
    if_neg hmark, h.slice?]
  split at hscan
  · rename_i hnone
    rw [hnone, eq_comm, Option.map_eq_none_iff] at hfind
    exact ⟨_, by rw [Option.map_some, hfind], .fault hscan⟩
  · rename_i s after hsome
    rw [hsome, eq_comm, Option.map_eq_some_iff] at hfind
    obtain ⟨found, hfound, heq⟩ := hfind
    cases heq
    exact ⟨_, by rw [Option.map_some, hfound], advances_symbol hsome hscan⟩

end Rounds

/-- Every round goes on behind characters of the text, where the scanner goes on, too. -/
theorem round?_advances (h : Stands source i offset (c :: rest)) :
    ∃ r, round? source i offset c = some r ∧ Advances i offset (c :: rest) r := by
  by_cases hblank : Text.isBlank c = true
  · have hround : round? source i offset c = some (.skip (i + 1)) := by rw [round?, if_pos hblank]
    refine ⟨_, hround, @Advances.skip i offset _ [c] rest rfl (List.cons_ne_nil _ _) ?_⟩
    rw [scanFrom, if_pos hblank, String.utf8Len_cons, String.utf8Len_nil, Nat.zero_add]
  by_cases hopen : c = '('
  · subst hopen
    exact ⟨_, rfl, .single rfl scanFrom_openParen fun _ => Token.noConfusion⟩
  by_cases hclose : c = ')'
  · subst hclose
    exact ⟨_, rfl, .single rfl scanFrom_closeParen fun _ => Token.noConfusion⟩
  by_cases hcomma : c = ','
  · subst hcomma
    exact ⟨_, rfl, .single rfl scanFrom_comma fun _ => Token.noConfusion⟩
  by_cases hquote : c = '\'' ∨ c = '"'
  · exact round?_quoted h hblank hopen hclose hcomma hquote
  by_cases hdigit : c.isDigit = true
  · exact round?_number h hblank hopen hclose hcomma hquote hdigit
  by_cases hletter : Text.isAlphabetic c = true ∨ c = '_'
  · exact round?_name h hblank hopen hclose hcomma hquote hdigit hletter
  by_cases hmark : c = '@'
  · exact round?_mark h hblank hopen hclose hcomma hquote hdigit hletter hmark
  · exact round?_symbol h hblank hopen hclose hcomma hquote hdigit hletter hmark

/-! ## A whole run -/

theorem length_lt_of_append {passed : List Char} (hcs : cs = passed ++ rest) (hne : passed ≠ []) :
    rest.length < cs.length := by
  have hpos := List.length_pos_iff.2 hne
  rw [hcs, List.length_append]
  omega

/-- The scanner by index ends and gives the tokens of the text. -/
theorem scanIndexed?_eq {rounds : Nat} (h : Stands source i offset cs) (hrounds : cs.length < rounds) :
    scanIndexed? source rounds i = some (scanFrom offset cs) := by
  induction rounds generalizing i offset cs with
  | zero => exact absurd hrounds (Nat.not_lt_zero _)
  | succ rounds ih =>
      cases cs with
      | nil =>
          rw [scanIndexed?, h.getElem?_nil, scanFrom]
      | cons c rest =>
          obtain ⟨r, hround, hadvances⟩ := round?_advances h
          rw [scanIndexed?, h.getElem?_cons]
          dsimp only
          rw [hround]
          cases hadvances with
          | @skip passed after hcs hne hscan =>
              have hshorter := length_lt_of_append hcs hne
              rw [hcs] at h
              dsimp only
              rw [ih h.move (by omega), hscan]
          | @take passed after token hcs hne hscan hsymbol =>
              have hshorter := length_lt_of_append hcs hne
              rw [hcs] at h
              dsimp only
              rw [ih h.move (by omega), hscan]
              rfl
          | fault hscan => rw [hscan]

/-- A token that begins at a character; an operator is not the beginning of a longer one. -/
def WellPlaced (source : String) (t : Located) : Prop :=
  IsBoundary source t.position ∧ ∀ s, t.token = .symbol s → ∃ before after,
    source.toList = before ++ s.text.toList ++ after ∧ t.position = String.utf8Len before ∧
      ∀ other : Symbol, other.text.toList <+: s.text.toList ++ after → other.text.length ≤ s.text.length

/-- Tokens from a byte on, each behind the one before, or a fault where a character begins. -/
def WellCut (source : String) (offset : Nat) : Except SyntaxError (List Located) → Prop
  | .ok ts => (ts.map (·.position)).Pairwise (· < ·) ∧ ∀ t ∈ ts, offset ≤ t.position ∧ WellPlaced source t
  | .error e => IsBoundary source e.position

theorem WellCut.mono {result : Except SyntaxError (List Located)} {n : Nat} (h : WellCut source offset result)
    (hle : n ≤ offset) : WellCut source n result := by
  cases result with
  | error e => exact h
  | ok ts => exact ⟨h.1, fun t ht => ⟨Nat.le_trans hle (h.2 t ht).1, (h.2 t ht).2⟩⟩

theorem WellCut.cons {result : Except SyntaxError (List Located)} {n : Nat} {t : Located}
    (h : WellCut source n result) (hlt : t.position < n) (ht : WellPlaced source t) :
    WellCut source t.position (result.map (t :: ·)) := by
  cases result with
  | error e => exact h
  | ok ts =>
      refine ⟨List.pairwise_cons.2 ⟨?_, h.1⟩, List.forall_mem_cons.2 ⟨⟨Nat.le_refl _, ht⟩, fun u hu => ?_⟩⟩
      · intro position hposition
        obtain ⟨u, hu, rfl⟩ := List.mem_map.1 hposition
        exact Nat.lt_of_lt_of_le hlt (h.2 u hu).1
      · exact ⟨Nat.le_trans (Nat.le_of_lt hlt) (h.2 u hu).1, (h.2 u hu).2⟩

theorem Stands.wellPlaced {token : Token} (h : Stands source i offset cs)
    (hsymbol : ∀ s, token = .symbol s → Symbol.ofChars? cs = some (s, rest)) :
    WellPlaced source ⟨token, offset⟩ := by
  refine ⟨h.isBoundary, fun s hs => ?_⟩
  obtain ⟨hwritten, hlongest⟩ := ofChars?_longest (hsymbol s hs)
  obtain ⟨before, hsource, -, hoffset⟩ := h.split
  refine ⟨before, rest, ?_, hoffset, ?_⟩
  · rw [hsource, hwritten, List.append_assoc]
  · rwa [hwritten] at hlongest

/-- What is scanned from a byte on is well cut. -/
theorem scanFrom_wellCut (h : Stands source i offset cs) : WellCut source offset (scanFrom offset cs) := by
  induction hlength : cs.length using Nat.strong_induction_on generalizing i offset cs with
  | _ length ih =>
      cases cs with
      | nil =>
          rw [scanFrom]
          exact ⟨List.Pairwise.nil, List.forall_mem_nil _⟩
      | cons c rest =>
          obtain ⟨r, -, hadvances⟩ := round?_advances h
          cases hadvances with
          | @skip passed after hcs hne hscan =>
              have hshorter := length_lt_of_append hcs hne
              have hmove := hcs ▸ h
              rw [hscan]
              exact (ih _ (by omega) hmove.move rfl).mono (Nat.le_add_right _ _)
          | @take passed after token hcs hne hscan hsymbol =>
              have hshorter := length_lt_of_append hcs hne
              have hmove := hcs ▸ h
              have hpos := utf8Len_pos hne
              rw [hscan]
              exact (ih _ (by omega) hmove.move rfl).cons (t := ⟨token, offset⟩) (by dsimp only; omega)
                (h.wellPlaced hsymbol)
          | fault hscan =>
              rw [hscan]
              exact h.isBoundary

theorem scan_wellCut (source : String) : WellCut source 0 (scan source) := scanFrom_wellCut (stands_start source)

theorem scanIndexed?_eq_scan (source : String) :
    scanIndexed? source (source.length + 1) 0 = some (scan source) :=
  scanIndexed?_eq (stands_start source) (by rw [String.length_toList]; exact Nat.lt_succ_self _)

end Token
namespace Parse

variable {α β : Type} {finish fuel : Nat} {ts rest : Tokens} {n : Nat}

/-! ## Faults of the parser -/

/-- A byte at which one of the tokens begins or the text ends. -/
def AtToken (finish : Nat) (ts : Tokens) (n : Nat) : Prop := n = finish ∨ ∃ t ∈ ts, t.position = n

theorem AtToken.mono (h : AtToken finish rest n) (hrest : rest <:+ ts) : AtToken finish ts n :=
  h.imp_right fun ⟨t, ht, hposition⟩ => ⟨t, hrest.subset ht, hposition⟩

theorem atToken_position (finish : Nat) (ts : Tokens) : AtToken finish ts (position finish ts) := by
  cases ts with
  | nil => exact .inl rfl
  | cons t rest => exact .inr ⟨t, List.mem_cons_self, rfl⟩

/-- A rule leaves tokens at the end of those that it is given, or it places its fault at one of these or at the end of
the text. -/
def Placed (finish : Nat) (ts : Tokens) : Except SyntaxError (α × Tokens) → Prop
  | .ok p => p.2 <:+ ts
  | .error e => AtToken finish ts e.position

theorem Placed.mono {r : Except SyntaxError (α × Tokens)} (h : Placed finish rest r) (hrest : rest <:+ ts) :
    Placed finish ts r := by
  cases r with
  | ok p => exact List.IsSuffix.trans h hrest
  | error e => exact AtToken.mono h hrest

theorem Placed.bind_of_suffix {x : Except SyntaxError (α × Tokens)}
    {f : α × Tokens → Except SyntaxError (β × Tokens)} (h : Placed finish ts x)
    (hf : ∀ a rest, rest <:+ ts → Placed finish ts (f (a, rest))) : Placed finish ts (x.bind f) := by
  cases x with
  | ok p => exact hf p.1 p.2 h
  | error e => exact h

theorem Placed.bind {x : Except SyntaxError (α × Tokens)} {f : α × Tokens → Except SyntaxError (β × Tokens)}
    (h : Placed finish ts x) (hf : ∀ a rest, Placed finish rest (f (a, rest))) : Placed finish ts (x.bind f) :=
  h.bind_of_suffix fun a rest hrest => (hf a rest).mono hrest

/-- The functions of the parser place their faults, whatever the tokens. -/
structure Places (finish fuel : Nat) : Prop where
  run : ∀ k ts, Placed finish ts (run finish k fuel ts)
  tail : ∀ {k o}, Chains k o → ∀ l ts, Placed finish ts (tail finish k fuel l ts)
  arguments : ∀ ts, Placed finish ts (arguments finish fuel ts)
  argumentList : ∀ ts, Placed finish ts (argumentList finish fuel ts)

theorem chain_places {k o : Level} (h : Places finish fuel) (hk : Chains k o) (ts : Tokens) :
    Placed finish ts (run finish k (fuel + 1) ts) := by
  rw [run_chain_eq hk]
  exact (h.run o ts).bind fun l mid => h.tail hk l mid

theorem tail_places {k o : Level} (h : Places finish fuel) (hk : Chains k o) (l : Expr) (ts : Tokens) :
    Placed finish ts (tail finish k (fuel + 1) l ts) := by
  rw [tail_eq hk]
  cases hjoint : joint? k ts with
  | none => exact List.suffix_rfl
  | some p =>
      obtain ⟨op, mid⟩ := p
      obtain ⟨t, rfl, -⟩ := (joint?_eq_some hk).1 hjoint
      refine Placed.mono ?_ (List.suffix_cons t mid)
      exact (h.run o mid).bind fun r after => h.tail hk (.binary op l r) after

theorem not_places (h : Places finish fuel) (ts : Tokens) : Placed finish ts (run finish .not (fuel + 1) ts) := by
  rw [run_not_eq]
  cases hnot : afterConnective? "not" .bang ts with
  | none => exact h.run .comparison ts
  | some mid =>
      obtain ⟨t, rfl, -⟩ := afterNot_eq_some.1 hnot
      refine Placed.mono ?_ (List.suffix_cons t mid)
      exact (h.run .not mid).bind fun _ _ => List.suffix_rfl

theorem comparison_places (h : Places finish fuel) (ts : Tokens) :
    Placed finish ts (run finish .comparison (fuel + 1) ts) := by
  rw [run_comparison_eq]
  refine (h.run .sum ts).bind fun l mid => ?_
  dsimp only
  cases hop : comparison? mid with
  | none => exact List.suffix_rfl
  | some p =>
      obtain ⟨op, after⟩ := p
      obtain ⟨t, rfl, -⟩ := comparison?_eq_some.1 hop
      refine Placed.mono ?_ (List.suffix_cons t after)
      exact (h.run .sum after).bind fun _ _ => List.suffix_rfl

theorem sign_places (h : Places finish fuel) (ts : Tokens) : Placed finish ts (run finish .sign (fuel + 1) ts) := by
  simp only [run, negExpr]
  split
  · refine Placed.mono ?_ (List.suffix_cons _ _)
    exact (h.run .sign _).bind fun _ _ => List.suffix_rfl
  · exact h.run .primary ts

theorem primary_places (h : Places finish fuel) (ts : Tokens) :
    Placed finish ts (run finish .primary (fuel + 1) ts) := by
  simp only [run, primary]
  split
  · exact .inl rfl
  · exact List.suffix_cons _ _
  · exact List.suffix_cons _ _
  · rename_i here after
    refine Placed.mono ?_ (List.suffix_cons _ after)
    refine (h.run .or after).bind fun inner left => ?_
    dsimp only
    split
    · exact List.suffix_cons _ _
    · exact (atToken_position finish _).mono (List.drop_suffix 1 left)
  · rename_i s here after
    have hhere : AtToken finish (⟨.name s, here⟩ :: after) here := .inr ⟨_, List.mem_cons_self, rfl⟩
    split
    · exact List.suffix_cons _ _
    split
    · exact List.suffix_cons _ _
    split
    · rename_i there after
      split
      · exact hhere
      · have hcall : after <:+ ⟨.name s, here⟩ :: ⟨.openParen, there⟩ :: after := ⟨[_, _], rfl⟩
        refine ((h.arguments after).mono hcall).bind_of_suffix fun args left hleft => ?_
        dsimp only
        split
        · exact hleft
        · exact hhere
    · exact List.suffix_cons _ _
  · rename_i t after _ _ _ _
    exact .inr ⟨t, List.mem_cons_self, rfl⟩

theorem arguments_places (h : Places finish fuel) (ts : Tokens) :
    Placed finish ts (arguments finish (fuel + 1) ts) := by
  unfold arguments
  split
  · exact List.suffix_cons _ _
  · exact h.argumentList ts

theorem argumentList_places (h : Places finish fuel) (ts : Tokens) :
    Placed finish ts (argumentList finish (fuel + 1) ts) := by
  unfold argumentList
  refine (h.run .or ts).bind fun arg left => ?_
  dsimp only
  split
  · refine Placed.mono ?_ (List.suffix_cons _ _)
    exact (h.argumentList _).bind fun _ _ => List.suffix_rfl
  · exact List.suffix_cons _ _
  · exact (atToken_position finish _).mono (List.drop_suffix 1 left)

/-- Whatever the fuel, the parser places its faults. -/
theorem places (finish fuel : Nat) : Places finish fuel := by
  induction fuel with
  | zero =>
      constructor
      · intro k ts
        cases k <;> exact .inl rfl
      · intro k o hk l ts
        cases hk <;> exact .inl rfl
      · exact fun ts => .inl rfl
      · exact fun ts => .inl rfl
  | succ fuel ih =>
      constructor
      · intro k ts
        cases k with
        | or => exact chain_places ih .or ts
        | and => exact chain_places ih .and ts
        | sum => exact chain_places ih .sum ts
        | not => exact not_places ih ts
        | comparison => exact comparison_places ih ts
        | sign => exact sign_places ih ts
        | primary => exact primary_places ih ts
      · exact fun hk l ts => tail_places ih hk l ts
      · exact arguments_places ih
      · exact argumentList_places ih

end Parse
namespace Expr

theorem ofTokens_fault {finish : Nat} {ts : List Located} {e : SyntaxError} (h : ofTokens finish ts = .error e) :
    Parse.AtToken finish ts e.position := by
  have hplaced := (Parse.places finish (10 * ts.length + 10)).run .or ts
  change Parse.Placed finish ts (Parse.orExpr finish (10 * ts.length + 10) ts) at hplaced
  unfold ofTokens at h
  cases hrun : Parse.orExpr finish (10 * ts.length + 10) ts with
  | error fault =>
      rw [hrun] at hplaced h
      cases h
      exact hplaced
  | ok p =>
      obtain ⟨tree, rest⟩ := p
      rw [hrun] at hplaced h
      cases rest with
      | nil => cases h
      | cons t rest =>
          cases h
          exact .inr ⟨t, hplaced.subset List.mem_cons_self, rfl⟩

/-- A constraint can be cut into tokens, whatever its text: the scanner ends and cuts nothing inside a character.  Tokens
begin at characters, each behind the one before, and an operator is the longest that stands there.  Every fault is
placed at a character or at the end. -/
theorem positions_usable (source : String) :
    Token.scanIndexed? source (source.length + 1) 0 = some (Token.scan source) ∧
    (∀ ts, Token.scan source = .ok ts → (ts.map (·.position)).Pairwise (· < ·) ∧
      ∀ t ∈ ts, (String.Pos.Raw.mk t.position).IsValid source ∧ ∀ s, t.token = .symbol s → ∃ before after,
        source.toList = before ++ s.text.toList ++ after ∧ t.position = String.utf8Len before ∧
          ∀ other : Symbol, other.text.toList <+: s.text.toList ++ after → other.text.length ≤ s.text.length) ∧
    ∀ e, parse source = .error e →
      e.position ≤ source.utf8ByteSize ∧ (String.Pos.Raw.mk e.position).IsValid source := by
  have hcut := Token.scan_wellCut source
  refine ⟨Token.scanIndexed?_eq_scan source, fun ts hts => ?_, fun e he => ?_⟩
  · rw [hts] at hcut
    exact ⟨hcut.1, fun t ht => (hcut.2 t ht).2⟩
  · suffices hboundary : Token.IsBoundary source e.position from ⟨hboundary.le, hboundary⟩
    unfold parse at he
    cases hscan : Token.scan source with
    | error fault =>
        rw [hscan] at hcut he
        cases he
        exact hcut
    | ok ts =>
        rw [hscan] at hcut he
        rcases ofTokens_fault he with hend | ⟨t, ht, hposition⟩
        · rw [hend]
          exact Token.isBoundary_end source
        · rw [← hposition]
          exact (hcut.2 t ht).2.1

/-- Behind a bracket and a blank of three bytes an operator begins at the fourth byte, where it is out of place. -/
theorem positions_usable_blank :
    Token.scan "(\u3000!=" = .ok [⟨.openParen, 0⟩, ⟨.symbol .bangEq, 4⟩] ∧ [0, 4].Pairwise (· < ·) ∧
    parse "(\u3000!=" = .error ⟨.unexpectedToken (.symbol .bangEq), 4⟩ ∧
    4 ≤ "(\u3000!=".utf8ByteSize ∧ (String.Pos.Raw.mk 4).IsValid "(\u3000!=" := by
  obtain ⟨hcut, hplaced, hfaults⟩ := positions_usable "(\u3000!="
  have hscan : Token.scan "(\u3000!=" = .ok [⟨.openParen, 0⟩, ⟨.symbol .bangEq, 4⟩] :=
    Option.some.inj (hcut.symm.trans (by rfl))
  have hparse : parse "(\u3000!=" = .error ⟨.unexpectedToken (.symbol .bangEq), 4⟩ := by
    rw [parse, hscan]
    rfl
  exact ⟨hscan, (hplaced _ hscan).1, hparse, hfaults _ hparse⟩

end Expr
end Specimen
