import Mathlib.Data.List.TakeWhile
import Specimen.Decimal.Reader
import Specimen.Text.Hexadecimal
import Specimen.Xml.Writer

/-!
# Texts that are read back

A reader of a document first makes one character of every end of a line.  In an attribute it then makes blanks of the
white space.  Only after that it puts characters for references, so what is written by number is left as it is.

What is written of an attribute value is read as this value.  What is written of a text is read as the text with its
ends of lines, so a carriage return is not read back (`escaped_read_back_iff`).
-/

namespace Specimen
namespace Xml

/-! ## The reader -/

/-- Whether a character can occur in a document, written as it is or by number. -/
def isXmlChar (c : Char) : Bool :=
  c == '\t' || c == '\n' || c == '\r' || (' ' ≤ c && c != '\uFFFE' && c != '\uFFFF')

/-- A text with one character for every end of a line. -/
def endLines : List Char → List Char
  | '\r' :: '\n' :: rest => '\n' :: endLines rest
  | '\r' :: rest => '\n' :: endLines rest
  | c :: rest => c :: endLines rest
  | [] => []

/-- The character with a number, if it can occur in a document. -/
def numberedChar? (code : Nat) : Option Char :=
  if code.isValidChar then some (Char.ofNat code) |>.filter isXmlChar else none

/-- The names that stand for characters in every document. -/
def entities : List (List Char × Char) :=
  [("amp".toList, '&'), ("lt".toList, '<'), ("gt".toList, '>'), ("quot".toList, '"'), ("apos".toList, '\'')]

/-- The character that a reference stands for. -/
def referenced? : List Char → Option Char
  | '#' :: 'x' :: digits => (Text.hexNumber? digits).bind numberedChar?
  | '#' :: digits => (Decimal.readNat? digits).bind numberedChar?
  | name => entities.lookup name

/-- Puts characters for references; all others have to be allowed.  `name` is what has been read of a reference. -/
def expand? (allowed : Char → Bool) : (name : Option (List Char)) → List Char → Option (List Char)
  | none, [] => some []
  | some _, [] => none
  | none, c :: rest =>
    if c = '&' then expand? allowed (some []) rest
    else if allowed c then (expand? allowed none rest).map (c :: ·)
    else none
  | some name, c :: rest =>
    if c = ';' then (referenced? name).bind fun d => (expand? allowed none rest).map (d :: ·)
    else expand? allowed (some (name ++ [c])) rest

/-- Whether a text has the mark that ends a section of plain characters. -/
def hasSectionEnd : List Char → Bool
  | ']' :: ']' :: '>' :: _ => true
  | _ :: rest => hasSectionEnd rest
  | [] => false

/-- The text that an element is read to have; there is none if what is written is not well-formed. -/
def readContent? (cs : List Char) : Option (List Char) :=
  if hasSectionEnd (endLines cs) then none
  else expand? (fun c => isXmlChar c && c != '<') none (endLines cs)

/-- A blank in the place of white space. -/
def blank (c : Char) : Char := if c = '\t' ∨ c = '\n' ∨ c = '\r' then ' ' else c

/-- The value that an attribute in double quotes is read to have; there is none if what is written is not
well-formed. -/
def readAttribute? (cs : List Char) : Option (List Char) :=
  expand? (fun c => isXmlChar c && c != '<' && c != '"') none ((endLines cs).map blank)

/-! ## One character -/

section Expand

variable {allowed : Char → Bool}

/-- What is written is read as a character, whatever follows. -/
def ReadsAs (allowed : Char → Bool) (written : List Char) (c : Char) : Prop :=
  ∀ rest, expand? allowed none (written ++ rest) = (expand? allowed none rest).map (c :: ·)

theorem expand?_name {name : List Char} (hname : ';' ∉ name) (read rest : List Char) :
    expand? allowed (some read) (name ++ ';' :: rest) =
      (referenced? (read ++ name)).bind fun d => (expand? allowed none rest).map (d :: ·) := by
  induction name generalizing read with
  | nil => rw [List.append_nil, List.nil_append, expand?, if_pos rfl]
  | cons c name ih =>
      rw [List.mem_cons, not_or] at hname
      rw [List.cons_append, expand?, if_neg (Ne.symm hname.1), ih hname.2, List.append_assoc]
      rfl

theorem readsAs_reference {name : List Char} {c : Char} (hname : ';' ∉ name) (href : referenced? name = some c) :
    ReadsAs allowed ('&' :: name ++ [';']) c := by
  intro rest
  rw [List.append_assoc, List.cons_append, expand?, if_pos rfl]
  exact (expand?_name hname [] rest).trans (by rw [List.nil_append, href]; rfl)

theorem readsAs_plain {c : Char} (hmark : c ≠ '&') (hallowed : allowed c = true) : ReadsAs allowed [c] c := by
  intro rest
  rw [List.singleton_append, expand?, if_neg hmark, if_pos hallowed]

theorem expand?_refused {c : Char} (hmark : c ≠ '&') (hallowed : allowed c = false) (rest : List Char) :
    expand? allowed none ([c] ++ rest) = none := by
  rw [List.singleton_append, expand?, if_neg hmark, if_neg (by simp [hallowed])]

/-- What is written character by character is read back, as long as all characters can occur in a document. -/
theorem expand?_flatMap_eq_some_iff {written : Char → List Char}
    (hread : ∀ c, isXmlChar c = true → ReadsAs allowed (written c) c)
    (hrefuse : ∀ c, isXmlChar c = false → ∀ rest, expand? allowed none (written c ++ rest) = none)
    {s t : List Char} :
    expand? allowed none (s.flatMap written) = some t ↔ (∀ c ∈ s, isXmlChar c = true) ∧ t = s := by
  induction s generalizing t with
  | nil => exact ⟨fun h => ⟨List.forall_mem_nil _, (Option.some.inj h).symm⟩, fun h => congrArg some h.2.symm⟩
  | cons c s ih =>
      rw [List.flatMap_cons, List.forall_mem_cons]
      cases hc : isXmlChar c with
      | false => simp [hrefuse c hc]
      | true =>
          rw [hread c hc, Option.map_eq_some_iff]
          constructor
          · rintro ⟨rest, hrest, rfl⟩
            obtain ⟨hall, rfl⟩ := ih.1 hrest
            exact ⟨⟨rfl, hall⟩, rfl⟩
          · rintro ⟨⟨-, hall⟩, rfl⟩
            exact ⟨s, ih.2 ⟨hall, rfl⟩, rfl⟩

end Expand

/-- A character is written as a reference that stands for it. -/
structure ByReference (written : List Char) (c : Char) : Prop where
  char : isXmlChar c = true
  reference : ∃ name, written = '&' :: name ++ [';'] ∧ ';' ∉ name ∧ referenced? name = some c
  plain : ∀ d ∈ written, blank d = d ∧ d ≠ '>'

theorem ByReference.readsAs {allowed : Char → Bool} {written : List Char} {c : Char} (h : ByReference written c) :
    ReadsAs allowed written c := by
  obtain ⟨name, rfl, hname, href⟩ := h.reference
  exact readsAs_reference hname href

theorem textChar_cases (c : Char) :
    ByReference (textChar c) c ∨ textChar c = [c] ∧ c ≠ '&' ∧ c ≠ '<' ∧ c ≠ '>' := by
  unfold textChar
  split
  · exact .inl ⟨by decide, ⟨"amp".toList, by decide⟩, by simp [blank]⟩
  · exact .inl ⟨by decide, ⟨"lt".toList, by decide⟩, by simp [blank]⟩
  · exact .inl ⟨by decide, ⟨"gt".toList, by decide⟩, by simp [blank]⟩
  · rename_i hamp hlt hgt
    exact .inr ⟨rfl, hamp, hlt, hgt⟩

theorem attributeChar_cases (c : Char) :
    ByReference (attributeChar c) c ∨
      attributeChar c = [c] ∧ c ≠ '&' ∧ c ≠ '<' ∧ c ≠ '"' ∧ blank c = c := by
  unfold attributeChar
  split
  · exact .inl ⟨by decide, ⟨"quot".toList, by decide⟩, by simp [blank]⟩
  · exact .inl ⟨by decide, ⟨"#10".toList, by decide⟩, by simp [blank]⟩
  · exact .inl ⟨by decide, ⟨"#13".toList, by decide⟩, by simp [blank]⟩
  · exact .inl ⟨by decide, ⟨"#9".toList, by decide⟩, by simp [blank]⟩
  · rename_i hquote hfeed hreturn htab
    refine (textChar_cases c).imp_right fun ⟨hwritten, hamp, hlt, _⟩ => ⟨hwritten, hamp, hlt, hquote, ?_⟩
    exact if_neg fun h => h.elim htab fun h => h.elim hfeed hreturn

/-! ## Ends of lines -/

theorem endLines_append {xs : List Char} (hxs : '\r' ∉ xs) (ys : List Char) :
    endLines (xs ++ ys) = xs ++ endLines ys := by
  induction xs with
  | nil => rfl
  | cons x xs ih =>
      rw [List.mem_cons, not_or] at hxs
      rw [List.cons_append, endLines, ih hxs.2, List.cons_append]
      · exact fun _ h _ => hxs.1 h.symm
      · exact fun h => hxs.1 h.symm

theorem return_not_mem_endLines (s : List Char) : '\r' ∉ endLines s := by
  fun_induction endLines s with
  | case1 rest ih => simpa using ih
  | case2 rest _ ih => simpa using ih
  | case3 c rest _ hreturn ih => simpa using ⟨fun h => hreturn h.symm, ih⟩
  | case4 => exact List.not_mem_nil

/-- A text is its own only if no carriage return occurs in it. -/
theorem endLines_eq_self_iff {s : List Char} : endLines s = s ↔ '\r' ∉ s := by
  constructor
  · intro h
    rw [← h]
    exact return_not_mem_endLines s
  · intro h
    have happend := endLines_append h []
    rwa [List.append_nil, endLines, List.append_nil] at happend

theorem forall_mem_endLines_iff {s : List Char} :
    (∀ c ∈ endLines s, isXmlChar c = true) ↔ ∀ c ∈ s, isXmlChar c = true := by
  have hreturn : isXmlChar '\r' = true := by decide
  have hfeed : isXmlChar '\n' = true := by decide
  fun_induction endLines s with
  | case1 rest ih => simp [ih, hreturn, hfeed]
  | case2 rest _ ih => simp [ih, hreturn, hfeed]
  | case3 c rest _ _ ih => simp [ih]
  | case4 => rfl

/-! ## Texts -/

/-- No carriage return is written of another character. -/
theorem return_not_mem_textChar {c : Char} (hc : c ≠ '\r') : '\r' ∉ textChar c := by
  intro hmem
  rcases textChar_cases c with href | ⟨hwritten, -⟩
  · exact absurd (href.plain _ hmem).1 (by decide)
  · rw [hwritten, List.mem_singleton] at hmem
    exact hc hmem.symm

theorem bracket_not_mem_textChar (c : Char) : '>' ∉ textChar c := by
  intro hmem
  rcases textChar_cases c with href | ⟨hwritten, -, -, hgt⟩
  · exact (href.plain _ hmem).2 rfl
  · rw [hwritten, List.mem_singleton] at hmem
    exact hgt hmem.symm

/-- Ends of lines are the same before and after a text is escaped. -/
theorem endLines_flatMap_textChar (s : List Char) :
    endLines (s.flatMap textChar) = (endLines s).flatMap textChar := by
  fun_induction endLines s with
  | case1 rest ih => exact congrArg ('\n' :: ·) ih
  | case2 rest hfeed ih =>
      -- no line feed is written of a character that is none, so the return stays the end of a line
      have hnext : ∀ more, rest.flatMap textChar ≠ '\n' :: more := by
        intro more heq
        cases rest with
        | nil => cases heq
        | cons d rest =>
            rw [List.flatMap_cons] at heq
            unfold textChar at heq
            split at heq
            · cases heq
            · cases heq
            · cases heq
            · exact hfeed _ (congrArg (· :: rest) (List.cons.inj heq).1)
      change endLines ('\r' :: rest.flatMap textChar) = '\n' :: (endLines rest).flatMap textChar
      rw [endLines, ih]
      exact hnext
  | case3 c rest hfeed hreturn ih =>
      rw [List.flatMap_cons, List.flatMap_cons, ← ih]
      exact endLines_append (return_not_mem_textChar fun h => hreturn h) _
  | case4 => rfl

theorem hasSectionEnd_eq_false {cs : List Char} (h : '>' ∉ cs) : hasSectionEnd cs = false := by
  fun_induction hasSectionEnd cs with
  | case1 rest => simp at h
  | case2 c rest _ ih => exact ih fun hmem => h (List.mem_cons_of_mem c hmem)
  | case3 => rfl

theorem readContent?_escapeText_iff {s : String} {t : List Char} :
    readContent? (escapeText s).toList = some t ↔
      (∀ c ∈ s.toList, isXmlChar c = true) ∧ t = endLines s.toList := by
  have hends : '>' ∉ (endLines s.toList).flatMap textChar := by
    rw [List.mem_flatMap]
    rintro ⟨c, -, hc⟩
    exact bracket_not_mem_textChar c hc
  have hread : ∀ c, isXmlChar c = true → ReadsAs (fun c => isXmlChar c && c != '<') (textChar c) c := by
    intro c hc
    rcases textChar_cases c with href | ⟨hwritten, hamp, hlt, -⟩
    · exact href.readsAs
    · rw [hwritten]
      exact readsAs_plain hamp (by simp [hc, hlt])
  have hrefuse : ∀ c, isXmlChar c = false → ∀ rest,
      expand? (fun c => isXmlChar c && c != '<') none (textChar c ++ rest) = none := by
    intro c hc rest
    rcases textChar_cases c with href | ⟨hwritten, hamp, -, -⟩
    · rw [href.char] at hc
      cases hc
    · rw [hwritten]
      exact expand?_refused hamp (by simp [hc]) rest
  rw [escapeText, String.toList_ofList, readContent?, endLines_flatMap_textChar,
    if_neg (by rw [hasSectionEnd_eq_false hends]; decide), expand?_flatMap_eq_some_iff hread hrefuse,
    forall_mem_endLines_iff]

/-! ## Attributes -/

/-- No white space but blanks is written of an attribute value. -/
theorem blank_of_mem_attributeChar {c d : Char} (hd : d ∈ attributeChar c) : blank d = d := by
  rcases attributeChar_cases c with href | ⟨hwritten, -, -, -, hblank⟩
  · exact (href.plain d hd).1
  · rw [hwritten, List.mem_singleton] at hd
    rw [hd, hblank]

theorem readAttribute?_escapeAttribute_iff {s : String} {t : List Char} :
    readAttribute? (escapeAttribute s).toList = some t ↔
      (∀ c ∈ s.toList, isXmlChar c = true) ∧ t = s.toList := by
  have hblank : ∀ d ∈ s.toList.flatMap attributeChar, blank d = d := by
    intro d hd
    obtain ⟨c, -, hc⟩ := List.mem_flatMap.1 hd
    exact blank_of_mem_attributeChar hc
  have hreturn : '\r' ∉ s.toList.flatMap attributeChar := fun hmem => absurd (hblank _ hmem) (by decide)
  rw [escapeAttribute, String.toList_ofList, readAttribute?, endLines_eq_self_iff.2 hreturn,
    List.map_congr_left (g := id) hblank, List.map_id]
  refine expand?_flatMap_eq_some_iff (fun c hc => ?_) fun c hc rest => ?_
  · rcases attributeChar_cases c with href | ⟨hwritten, hamp, hlt, hquote, -⟩
    · exact href.readsAs
    · rw [hwritten]
      exact readsAs_plain hamp (by simp [hc, hlt, hquote])
  · rcases attributeChar_cases c with href | ⟨hwritten, hamp, -⟩
    · rw [href.char] at hc
      cases hc
    · rw [hwritten]
      exact expand?_refused hamp (by simp [hc]) rest

/-- An attribute value is read back, and a text is read with its ends of lines, when all their characters can occur in
a document; else nothing is read.  So a text is read back just when no carriage return occurs in it. -/
theorem escaped_read_back_iff (s : String) :
    (∀ t, readAttribute? (escapeAttribute s).toList = some t ↔
      (∀ c ∈ s.toList, isXmlChar c = true) ∧ t = s.toList) ∧
    (∀ t, readContent? (escapeText s).toList = some t ↔
      (∀ c ∈ s.toList, isXmlChar c = true) ∧ t = endLines s.toList) ∧
    (readContent? (escapeText s).toList = some s.toList ↔
      (∀ c ∈ s.toList, isXmlChar c = true) ∧ '\r' ∉ s.toList) := by
  refine ⟨fun t => readAttribute?_escapeAttribute_iff, fun t => readContent?_escapeText_iff, ?_⟩
  rw [readContent?_escapeText_iff, eq_comm, endLines_eq_self_iff]

/-- A carriage return in a text is read as the end of a line. -/
theorem carriage_return_lost : ¬ ∀ s : String, (∀ c ∈ s.toList, isXmlChar c = true) →
    readContent? (escapeText s).toList = some s.toList ∧
      readAttribute? (escapeAttribute s).toList = some s.toList := by
  intro h
  have hchars : ∀ c ∈ "a\rb".toList, isXmlChar c = true := by simp [isXmlChar]
  obtain ⟨-, heq⟩ := readContent?_escapeText_iff.1 (h "a\rb" hchars).1
  exact absurd heq (by decide)

end Xml
end Specimen
