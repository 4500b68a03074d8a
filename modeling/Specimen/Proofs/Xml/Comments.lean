import Specimen.Proofs.Xml.Reading

/-!
# Comments

Pairs of hyphens are replaced from left to right, and a replacement can leave a new pair behind, as the last hyphen of
one and the first of the next stand side by side.  So the replacement goes on as long as there is a pair.  Each round
leaves fewer hyphens that follow a hyphen, and it changes nothing in what the text becomes when it is spaced at once;
therefore the rounds end, and they end there (`parts_iff`).

A comment is what stands before the first two hyphens in a row, which have to be those of its end, and its characters
have to be such as can occur in a document.  What is written of a text is therefore a comment just when the characters
of the text are such (`comment_read_iff`): none of them is left out.
-/

namespace Specimen
namespace Xml

/-! ## Replacing pairs -/

/-- A round: every pair of hyphens, from left to right and without overlap, is parted by a blank. -/
def partPairs : List Char → List Char
  | '-' :: '-' :: rest => '-' :: ' ' :: '-' :: partPairs rest
  | c :: rest => c :: partPairs rest
  | [] => []

/-- The rounds from one text to another: as long as there is a pair there is a further round. -/
inductive Parts : List Char → List Char → Prop where
  | done {cs : List Char} (hnone : ¬ ['-', '-'] <:+: cs) : Parts cs cs
  | again {cs ds : List Char} (hpair : ['-', '-'] <:+: cs) (hrest : Parts (partPairs cs) ds) : Parts cs ds

/-- A blank behind a hyphen at the end. -/
def padEnd (cs : List Char) : List Char := if cs.getLast? = some '-' then cs ++ [' '] else cs

/-! ## Hyphens that follow a hyphen -/

/-- The number of hyphens that follow a hyphen. -/
def pairs : List Char → Nat
  | [] => 0
  | c :: rest => pairs rest + if c = '-' ∧ rest.head? = some '-' then 1 else 0

theorem pairs_eq_zero_iff {cs : List Char} : pairs cs = 0 ↔ ¬ ['-', '-'] <:+: cs := by
  induction cs with
  | nil => simp [pairs]
  | cons c rest ih =>
      have hstart : ['-', '-'] <+: c :: rest ↔ c = '-' ∧ rest.head? = some '-' := by
        cases rest <;> simp [List.cons_prefix_cons, eq_comm]
      rw [List.infix_cons_iff, hstart, not_or, ← ih, pairs]
      split <;> simp_all

/-- Characters with a blank between hyphens that follow each other. -/
def spaced : List Char → List Char
  | [] => []
  | c :: rest => if c = '-' ∧ rest.head? = some '-' then c :: ' ' :: spaced rest else c :: spaced rest

@[simp]
theorem head?_spaced (cs : List Char) : (spaced cs).head? = cs.head? := by
  cases cs with
  | nil => rfl
  | cons c rest => rw [spaced]; split <;> rfl

/-- Spacing leaves no hyphen that follows a hyphen. -/
theorem pairs_spaced (cs : List Char) : pairs (spaced cs) = 0 := by
  induction cs with
  | nil => rfl
  | cons c rest ih =>
      rw [spaced]
      split
      · simp [pairs, ih]
      · rename_i hpair
        rw [pairs, ih, head?_spaced, if_neg hpair]

theorem spaced_eq_self {cs : List Char} (h : pairs cs = 0) : spaced cs = cs := by
  induction cs with
  | nil => rfl
  | cons c rest ih =>
      rw [pairs, Nat.add_eq_zero_iff] at h
      have hpair : ¬ (c = '-' ∧ rest.head? = some '-') := fun hpair => by simp [hpair] at h
      rw [spaced, if_neg hpair, ih h.1]

/-- Spacing takes no character away and brings only blanks. -/
theorem filter_spaced (cs : List Char) : (spaced cs).filter (· ≠ ' ') = cs.filter (· ≠ ' ') := by
  induction cs with
  | nil => rfl
  | cons c rest ih =>
      rw [spaced]
      split
      · rw [List.filter_cons, List.filter_cons, List.filter_cons, ih]
        simp
      · rw [List.filter_cons, List.filter_cons, ih]

/-! ## One round -/

@[simp]
theorem head?_partPairs (cs : List Char) : (partPairs cs).head? = cs.head? := by
  unfold partPairs
  split <;> rfl

/-- A round leaves what the text becomes when it is spaced. -/
theorem spaced_partPairs (cs : List Char) : spaced (partPairs cs) = spaced cs := by
  induction cs using partPairs.induct with
  | case1 rest ih => simp [partPairs, spaced, ih]
  | case2 c rest _ ih => simp [partPairs, spaced, ih]
  | case3 => rfl

/-- A round of a text with pairs leaves fewer. -/
theorem pairs_partPairs_le (cs : List Char) : pairs (partPairs cs) ≤ pairs cs - 1 := by
  induction cs using partPairs.induct with
  | case1 rest ih =>
      have hround : pairs (partPairs ('-' :: '-' :: rest)) =
          pairs (partPairs rest) + if rest.head? = some '-' then 1 else 0 := by
        simp [partPairs, pairs]
      have htext : pairs ('-' :: '-' :: rest) = pairs rest + (if rest.head? = some '-' then 1 else 0) + 1 := by
        simp [pairs]
      omega
  | case2 c rest hfirst ih =>
      have hpair : ¬ (c = '-' ∧ rest.head? = some '-') := by
        rintro ⟨rfl, hhead⟩
        obtain ⟨after, rfl⟩ := List.head?_eq_some_iff.1 hhead
        exact hfirst after rfl rfl
      have hround : partPairs (c :: rest) = c :: partPairs rest := by simp [partPairs]
      rw [hround, pairs, pairs, head?_partPairs, if_neg hpair]
      exact ih
  | case3 => exact Nat.le_refl _

/-- The rounds end, and they end with the text that is spaced at once. -/
theorem parts_iff {cs ds : List Char} : Parts cs ds ↔ ds = spaced cs := by
  constructor
  · intro h
    induction h with
    | done hnone => exact (spaced_eq_self (pairs_eq_zero_iff.2 hnone)).symm
    | again _ _ ih => rw [ih, spaced_partPairs]
  · rintro rfl
    induction hcount : pairs cs using Nat.strong_induction_on generalizing cs with
    | _ count ih =>
        by_cases hpair : ['-', '-'] <:+: cs
        · have hsome : pairs cs ≠ 0 := fun hzero => pairs_eq_zero_iff.1 hzero hpair
          have hfewer : pairs (partPairs cs) < count := by have := pairs_partPairs_le cs; omega
          have hrest := ih _ hfewer rfl
          rw [spaced_partPairs] at hrest
          exact .again hpair hrest
        · rw [spaced_eq_self (pairs_eq_zero_iff.2 hpair)]
          exact .done hpair

/-! ## The text of a comment -/

theorem padEnd_cons {c : Char} {cs : List Char} (h : cs ≠ []) : padEnd (c :: cs) = c :: padEnd cs := by
  obtain ⟨d, ds, rfl⟩ := List.exists_cons_of_ne_nil h
  unfold padEnd
  rw [List.getLast?_cons_cons]
  split <;> rfl

theorem spaceHyphens_eq (cs : List Char) : spaceHyphens cs = padEnd (spaced cs) := by
  induction cs using spaceHyphens.induct with
  | case1 => rfl
  | case2 => rfl
  | case3 rest ih =>
      have hne : spaced ('-' :: rest) ≠ [] := by rw [spaced]; split <;> exact List.cons_ne_nil _ _
      have hspaced : spaced ('-' :: '-' :: rest) = '-' :: ' ' :: spaced ('-' :: rest) := rfl
      rw [spaceHyphens, ih, hspaced, padEnd_cons (List.cons_ne_nil _ _), padEnd_cons hne]
  | case4 c rest hend hpair ih =>
      have hfirst : ¬ (c = '-' ∧ rest.head? = some '-') := by
        rintro ⟨rfl, hhead⟩
        obtain ⟨after, rfl⟩ := List.head?_eq_some_iff.1 hhead
        exact hpair after rfl rfl
      rw [spaceHyphens.eq_4 c rest hend hpair, ih, spaced, if_neg hfirst]
      cases rest with
      | nil =>
          have hc : c ≠ '-' := fun hc => hend hc rfl
          simp [padEnd, spaced, hc]
      | cons d after =>
          have hne : spaced (d :: after) ≠ [] := by rw [spaced]; split <;> exact List.cons_ne_nil _ _
          rw [padEnd_cons hne]

theorem pairs_append_blank (cs : List Char) : pairs (cs ++ [' ']) = pairs cs := by
  induction cs with
  | nil => rfl
  | cons c rest ih =>
      rw [List.cons_append, pairs, pairs, ih]
      cases rest <;> simp

theorem pairs_padEnd (cs : List Char) : pairs (padEnd cs) = pairs cs := by
  unfold padEnd
  split
  · exact pairs_append_blank cs
  · rfl

theorem getLast?_padEnd (cs : List Char) : (padEnd cs).getLast? ≠ some '-' := by
  unfold padEnd
  split
  · simp
  · assumption

theorem filter_padEnd (cs : List Char) : (padEnd cs).filter (· ≠ ' ') = cs.filter (· ≠ ' ') := by
  unfold padEnd
  split
  · simp
  · rfl

/-- What holds of a blank holds of all characters if it holds of the others. -/
theorem forall_mem_iff_filter {p : Char → Bool} (hblank : p ' ' = true) (cs : List Char) :
    (∀ c ∈ cs, p c = true) ↔ ∀ c ∈ cs.filter (· ≠ ' '), p c = true := by
  simp only [List.mem_filter, decide_eq_true_eq]
  constructor
  · exact fun h c hc => h c hc.1
  · intro h c hc
    by_cases hc' : c = ' '
    · rw [hc', hblank]
    · exact h c ⟨hc, hc'⟩

/-! ## Reading a comment -/

/-- What stands in a comment up to its end, and what stands behind it.  Two hyphens that are not those of an end are
not well-formed, nor are characters that cannot occur in a document. -/
def readBody? : List Char → Option (List Char × List Char)
  | '-' :: '-' :: '>' :: rest => some ([], rest)
  | '-' :: '-' :: _ => none
  | c :: rest => if isXmlChar c then (readBody? rest).map fun read => (c :: read.1, read.2) else none
  | [] => none

/-- The comment that stands at the beginning of a text, and what stands behind it. -/
def readComment? : List Char → Option (List Char × List Char)
  | '<' :: '!' :: '-' :: '-' :: rest => readBody? rest
  | _ => none

theorem readBody?_cons {c : Char} {rest : List Char} (h : ¬ (c = '-' ∧ rest.head? = some '-')) :
    readBody? (c :: rest) =
      if isXmlChar c then (readBody? rest).map fun read => (c :: read.1, read.2) else none := by
  refine readBody?.eq_3 c rest ?_ ?_
  all_goals
    rintro after rfl rfl
    exact h ⟨rfl, rfl⟩

/-- A text without a pair is read up to the end of its comment, if all of its characters can occur in a document. -/
theorem readBody?_end {body : List Char} (hpairs : pairs body = 0) (hlast : body.getLast? ≠ some '-')
    (rest : List Char) : readBody? (body ++ '-' :: '-' :: '>' :: rest) =
      if body.all isXmlChar then some (body, rest) else none := by
  induction body with
  | nil => simp [readBody?]
  | cons c cs ih =>
      rw [pairs, Nat.add_eq_zero_iff] at hpairs
      have hcs : readBody? (cs ++ '-' :: '-' :: '>' :: rest) =
          if cs.all isXmlChar then some (cs, rest) else none := by
        refine ih hpairs.1 fun hend => hlast ?_
        rw [List.getLast?_cons, hend]
        rfl
      have hfirst : ¬ (c = '-' ∧ (cs ++ '-' :: '-' :: '>' :: rest).head? = some '-') := by
        rintro ⟨rfl, hhead⟩
        cases cs with
        | nil => exact hlast rfl
        | cons d ds =>
            simp at hhead
            simp [hhead] at hpairs
      rw [List.cons_append, readBody?_cons hfirst, hcs, List.all_cons]
      cases isXmlChar c with
      | false => simp
      | true => cases cs.all isXmlChar <;> rfl

/-- The characters of what is written can occur in a document just when those of the text can. -/
theorem forall_mem_sanitizeComment_iff {s : String}
    (hfilter : (sanitizeComment s).toList.filter (· ≠ ' ') = s.toList.filter (· ≠ ' ')) :
    (∀ c ∈ (sanitizeComment s).toList, isXmlChar c = true) ↔ ∀ c ∈ s.toList, isXmlChar c = true := by
  have hblank : isXmlChar ' ' = true := by decide
  rw [forall_mem_iff_filter hblank, hfilter, ← forall_mem_iff_filter hblank]

/-- The rounds of replacement end with every text.  What is written of it has no pair of hyphens and no hyphen at the
end, and it is the text but for blanks.  In its marks it is read as a comment, whatever follows, just when all
characters of the text can occur in a document; else it is not well-formed. -/
theorem comment_read_iff (s : String) :
    (∃ parted, (∀ cs, Parts (partPairs s.toList) cs ↔ cs = parted) ∧
      sanitizeComment s = String.ofList (padEnd parted)) ∧
    ¬ ['-', '-'] <:+: (sanitizeComment s).toList ∧
    (sanitizeComment s).toList.getLast? ≠ some '-' ∧
    (sanitizeComment s).toList.filter (· ≠ ' ') = s.toList.filter (· ≠ ' ') ∧
    ∀ rest read, readComment? (("<!-- " ++ sanitizeComment s ++ " -->").toList ++ rest) = some read ↔
      (∀ c ∈ s.toList, isXmlChar c = true) ∧ read = ((" " ++ sanitizeComment s ++ " ").toList, rest) := by
  have hwritten : sanitizeComment s = String.ofList (padEnd (spaced s.toList)) := by
    rw [sanitizeComment, spaceHyphens_eq]
  have hchars : (sanitizeComment s).toList = padEnd (spaced s.toList) := by rw [hwritten, String.toList_ofList]
  have hpairs : pairs (sanitizeComment s).toList = 0 := by rw [hchars, pairs_padEnd, pairs_spaced]
  have hfilter : (sanitizeComment s).toList.filter (· ≠ ' ') = s.toList.filter (· ≠ ' ') := by
    rw [hchars, filter_padEnd, filter_spaced]
  refine ⟨⟨spaced s.toList, fun cs => ?_, hwritten⟩, pairs_eq_zero_iff.1 hpairs, ?_, hfilter, fun rest read => ?_⟩
  · rw [parts_iff, spaced_partPairs]
  · rw [hchars]
    exact getLast?_padEnd _
  · have hbody : pairs (' ' :: (sanitizeComment s).toList ++ [' ']) = 0 := by
      rw [pairs_append_blank, pairs, hpairs]
      simp
    have hlast : (' ' :: (sanitizeComment s).toList ++ [' ']).getLast? ≠ some '-' := by
      rw [List.getLast?_concat]
      decide
    have hall : (∀ c ∈ ' ' :: (sanitizeComment s).toList ++ [' '], isXmlChar c = true) ↔
        ∀ c ∈ s.toList, isXmlChar c = true := by
      rw [← forall_mem_sanitizeComment_iff hfilter]
      have hblank : isXmlChar ' ' = true := by decide
      simp [hblank, or_imp, forall_and]
    have hread := readBody?_end hbody hlast rest
    simp only [List.all_eq_true, hall] at hread
    have hcomment : readComment? (("<!-- " ++ sanitizeComment s ++ " -->").toList ++ rest) =
        readBody? ((' ' :: (sanitizeComment s).toList ++ [' ']) ++ '-' :: '-' :: '>' :: rest) := by
      simp [readComment?]
    have hinside : (" " ++ sanitizeComment s ++ " ").toList = ' ' :: (sanitizeComment s).toList ++ [' '] := by simp
    rw [hcomment, hread, hinside, Option.ite_none_right_eq_some, Option.some_inj, eq_comm (a := read)]

/-- A control character is kept, so that what is written is no comment. -/
theorem control_character_kept : ¬ ∀ s : String,
    (readComment? ("<!-- " ++ sanitizeComment s ++ " -->").toList).isSome = true := by
  intro h
  have hnone : readComment? ("<!-- " ++ sanitizeComment "a\x01b" ++ " -->").toList = none := by decide
  have hsome := h "a\x01b"
  rw [hnone] at hsome
  cases hsome

end Xml
end Specimen
