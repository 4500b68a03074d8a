import Mathlib.Data.List.Basic
import Mathlib.Data.List.TakeWhile
import Specimen.Proofs.Decimal.Digits

/-!
# Durations

A duration has a date and a time.  In each of them designators come in order, each at most once and behind a number;
what a number is depends on the designator.  The texts that are taken for durations are those in which a number is any
digits and points.  Among them are all durations whose numbers are digits, with a point and more digits for the seconds
if need be.  Those are told apart by their points: each stands behind a digit, and before digits and the designator of
the seconds (`durations_accepted_iff`).
-/

namespace Specimen
namespace Lexical

open Decimal (IsNumeral)

/-! ## The grammar -/

/-- Designators of a list in their order, each at most once and behind a number that it can have. -/
inductive Designated (number : Char → List Char → Prop) : List Char → List Char → Prop where
  | done : Designated number [] []
  | absent {mark : Char} {order cs : List Char} (hrest : Designated number order cs) :
      Designated number (mark :: order) cs
  | present {mark : Char} {order ds cs : List Char} (hnumber : number mark ds) (hrest : Designated number order cs) :
      Designated number (mark :: order) (ds ++ mark :: cs)

/-- A date, or a date and a time behind a mark; neither the date without a time nor the time is empty. -/
inductive DateAndTime (number : Char → List Char → Prop) : List Char → Prop where
  | date {ds : List Char} (hdate : Designated number ['Y', 'M', 'D'] ds) (hsome : ds ≠ []) : DateAndTime number ds
  | time {ds ts : List Char} (hdate : Designated number ['Y', 'M', 'D'] ds)
      (htime : Designated number ['H', 'M', 'S'] ts) (hsome : ts ≠ []) : DateAndTime number (ds ++ 'T' :: ts)

/-- Durations with the numbers that each designator can have. -/
inductive Duration (number : Char → List Char → Prop) : List Char → Prop where
  | forward {body : List Char} (hbody : DateAndTime number body) : Duration number ('P' :: body)
  | backward {body : List Char} (hbody : DateAndTime number body) : Duration number ('-' :: 'P' :: body)

/-- The numbers of a duration: digits, for the seconds with a point and more digits if need be. -/
inductive IsExactNumber : Char → List Char → Prop where
  | whole {mark : Char} {ds : List Char} (hwhole : IsNumeral ds) : IsExactNumber mark ds
  | seconds {ds es : List Char} (hwhole : IsNumeral ds) (hpart : IsNumeral es) : IsExactNumber 'S' (ds ++ '.' :: es)

/-- Whether a character can stand in a number. -/
def isNumberChar (c : Char) : Bool := c.isDigit || c == '.'

/-- Digits and points, one at least. -/
structure IsLooseNumber (ds : List Char) : Prop where
  nonempty : ds ≠ []
  chars : ∀ c ∈ ds, isNumberChar c = true

theorem IsNumeral.isLooseNumber {ds : List Char} (h : IsNumeral ds) : IsLooseNumber ds where
  nonempty := h.nonempty
  chars c hc := by rw [isNumberChar, h.digits c hc, Bool.true_or]

theorem isDigit_of_isNumberChar {cs : List Char} (hchars : ∀ c ∈ cs, isNumberChar c = true) (hpoint : '.' ∉ cs) :
    ∀ c ∈ cs, c.isDigit = true := by
  intro c hc
  refine (Bool.or_eq_true_iff.1 (hchars c hc)).resolve_right fun heq => hpoint ?_
  rwa [← beq_iff_eq.1 heq]

theorem IsExactNumber.isLooseNumber {mark : Char} {ds : List Char} (h : IsExactNumber mark ds) : IsLooseNumber ds := by
  cases h with
  | whole hwhole => exact IsNumeral.isLooseNumber hwhole
  | seconds hwhole hpart =>
      refine ⟨by simp, fun c hc => ?_⟩
      rcases List.mem_append.1 hc with hc | hc
      · exact (IsNumeral.isLooseNumber hwhole).chars c hc
      · rcases List.mem_cons.1 hc with rfl | hc
        · rfl
        · exact (IsNumeral.isLooseNumber hpart).chars c hc

namespace Designated

variable {number number' : Char → List Char → Prop} {order cs : List Char}

theorem mono (h : Designated number order cs) (himp : ∀ mark ds, number mark ds → number' mark ds) :
    Designated number' order cs := by
  induction h with
  | done => exact .done
  | absent _ ih => exact .absent ih
  | present hnumber _ ih => exact .present (himp _ _ hnumber) ih

protected theorem nil (order : List Char) : Designated number order [] := by
  induction order with
  | nil => exact .done
  | cons mark order ih => exact .absent ih

/-- Designators can be left out at the beginning. -/
theorem append_left (h : Designated number order cs) (skipped : List Char) :
    Designated number (skipped ++ order) cs := by
  induction skipped with
  | nil => exact h
  | cons mark skipped ih => exact .absent ih

/-- Designators that come before the next one can be left out. -/
theorem of_dropWhile {mark : Char} {later : List Char} (hlater : order.dropWhile (· ≠ mark) = mark :: later)
    (h : Designated number (mark :: later) cs) : Designated number order cs := by
  rw [← List.takeWhile_append_dropWhile (p := (· ≠ mark)) (l := order), hlater]
  exact h.append_left _

/-- A text with designators ends with one. -/
theorem getLast?_eq (h : Designated number order cs) : cs = [] ∨ ∃ mark ∈ order, cs.getLast? = some mark := by
  induction h with
  | done => exact .inl rfl
  | absent _ ih => exact ih.imp_right fun ⟨mark, hmem, hlast⟩ => ⟨mark, List.mem_cons_of_mem _ hmem, hlast⟩
  | @present mark order ds cs _ _ ih =>
      right
      rcases ih with rfl | ⟨last, hmem, hlast⟩
      · exact ⟨mark, List.mem_cons_self, by simp⟩
      · refine ⟨last, List.mem_cons_of_mem _ hmem, ?_⟩
        rw [List.getLast?_append, List.getLast?_cons, hlast]
        rfl

/-- In a text with designators there are only these and what stands in their numbers. -/
theorem mem_or (h : Designated number order cs) {p : Char → Prop} (hp : ∀ mark ds, number mark ds → ∀ c ∈ ds, p c) :
    ∀ c ∈ cs, p c ∨ c ∈ order := by
  induction h with
  | done => exact fun c hc => nomatch hc
  | absent _ ih => exact fun c hc => (ih c hc).imp_right (List.mem_cons_of_mem _)
  | present hnumber _ ih =>
      intro c hc
      rcases List.mem_append.1 hc with hc | hc
      · exact .inl (hp _ _ hnumber c hc)
      · rcases List.mem_cons.1 hc with rfl | hc
        · exact .inr List.mem_cons_self
        · exact (ih c hc).imp_right (List.mem_cons_of_mem _)

end Designated

/-! ## What is accepted -/

/-- Two texts that go on with some characters and then with another one part at the same place. -/
theorem append_cons_inj {p : Char → Bool} {xs ys xs' ys' : List Char} {x y : Char} (hxs : ∀ c ∈ xs, p c = true)
    (hys : ∀ c ∈ ys, p c = true) (hx : p x = false) (hy : p y = false) (h : xs ++ x :: xs' = ys ++ y :: ys') :
    xs = ys ∧ x = y ∧ xs' = ys' := by
  have htake := congrArg (List.takeWhile p) h
  have hdrop := congrArg (List.dropWhile p) h
  rw [List.takeWhile_append_of_pos hxs, List.takeWhile_append_of_pos hys, List.takeWhile_cons_of_neg (by simp [hx]),
    List.takeWhile_cons_of_neg (by simp [hy]), List.append_nil, List.append_nil] at htake
  rw [List.dropWhile_append_of_pos hxs, List.dropWhile_append_of_pos hys, List.dropWhile_cons_of_neg (by simp [hx]),
    List.dropWhile_cons_of_neg (by simp [hy])] at hdrop
  exact ⟨htake, List.cons.inj hdrop⟩

/-- Digits and points before another character are the number of this designator. -/
theorem designated_append_cons_iff {order pending rest : List Char} {c : Char}
    (horder : ∀ mark ∈ order, isNumberChar mark = false) (hpending : ∀ d ∈ pending, isNumberChar d = true)
    (hc : isNumberChar c = false) :
    Designated (fun _ => IsLooseNumber) order (pending ++ c :: rest) ↔
      pending ≠ [] ∧ ∃ later, order.dropWhile (· ≠ c) = c :: later ∧
        Designated (fun _ => IsLooseNumber) later rest := by
  constructor
  · intro h
    generalize htext : pending ++ c :: rest = cs at h
    induction h with
    | done => simp at htext
    | @absent mark order _ _ ih =>
        obtain ⟨hsome, later, hlater, hdesignated⟩ := ih (fun m hm => horder m (List.mem_cons_of_mem _ hm)) htext
        refine ⟨hsome, ?_⟩
        -- a designator that is left out here can be the same one, and be given its number here instead
        by_cases heq : mark = c
        · subst heq
          exact ⟨order, List.dropWhile_cons_of_neg (by simp), .of_dropWhile hlater (.absent hdesignated)⟩
        · exact ⟨later, by rw [List.dropWhile_cons_of_pos (by simpa using heq), hlater], hdesignated⟩
    | @present mark order _ _ hnumber hrest _ =>
        have hmark := horder mark List.mem_cons_self
        obtain ⟨rfl, rfl, rfl⟩ := append_cons_inj hpending hnumber.chars hc hmark htext
        exact ⟨hnumber.nonempty, order, List.dropWhile_cons_of_neg (by simp), hrest⟩
  · rintro ⟨hsome, later, hlater, hdesignated⟩
    exact .of_dropWhile hlater (.present ⟨hsome, hpending⟩ hdesignated)

/-- Another character is the next designator that it is in the list, and a number stands before it. -/
theorem designatorsInOrder_cons_iff {hasNumber : Bool} {order rest : List Char} {c : Char}
    (hc : isNumberChar c = false) :
    designatorsInOrder hasNumber order (c :: rest) = true ↔
      hasNumber = true ∧ ∃ later, order.dropWhile (· ≠ c) = c :: later ∧
        designatorsInOrder false later rest = true := by
  rw [designatorsInOrder, show (c.isDigit || c == '.') = isNumberChar c from rfl, if_neg (by simp [hc])]
  have hhead := List.head?_dropWhile_not (· ≠ c) order
  split
  · rename_i hnone
    rw [hnone]
    exact ⟨nofun, fun ⟨_, _, hlater, _⟩ => nomatch hlater⟩
  · rename_i mark later hlater
    rw [hlater] at hhead ⊢
    obtain rfl : mark = c := by simpa using hhead
    rw [Bool.and_eq_true]
    refine and_congr_right fun _ => ⟨fun h => ⟨later, rfl, h⟩, ?_⟩
    rintro ⟨_, heq, h⟩
    obtain ⟨-, rfl⟩ := List.cons.inj heq
    exact h

/-- What is found out of a text when digits and points stand before it. -/
theorem designatorsInOrder_iff {order pending : List Char} (cs : List Char)
    (horder : ∀ mark ∈ order, isNumberChar mark = false) (hpending : ∀ d ∈ pending, isNumberChar d = true) :
    designatorsInOrder (!pending.isEmpty) order cs = true ↔
      Designated (fun _ => IsLooseNumber) order (pending ++ cs) := by
  induction cs generalizing order pending with
  | nil =>
      rw [List.append_nil, designatorsInOrder, Bool.not_not, List.isEmpty_iff]
      refine ⟨fun h => h ▸ .nil order, fun h => h.getLast?_eq.resolve_right ?_⟩
      rintro ⟨mark, hmem, hlast⟩
      have hmark := hpending mark (List.mem_of_getLast? hlast)
      rw [horder mark hmem] at hmark
      cases hmark
  | cons c rest ih =>
      cases hc : isNumberChar c with
      | true =>
          have hlonger : ∀ d ∈ pending ++ [c], isNumberChar d = true :=
            List.forall_mem_append.2 ⟨hpending, by simpa using hc⟩
          have hnext := ih horder hlonger
          rw [List.append_assoc, List.isEmpty_eq_false_iff.2 (by simp)] at hnext
          rw [designatorsInOrder, show (c.isDigit || c == '.') = isNumberChar c from rfl, if_pos hc]
          exact hnext
      | false =>
          rw [designatorsInOrder_cons_iff hc, designated_append_cons_iff horder hpending hc, Bool.not_eq_true',
            List.isEmpty_eq_false_iff]
          refine and_congr_right fun _ => exists_congr fun later => and_congr_right fun hlater => ?_
          have hlaterOrder : ∀ m ∈ later, isNumberChar m = false := fun m hm =>
            horder m ((List.dropWhile_suffix _).subset (hlater ▸ List.mem_cons_of_mem _ hm))
          exact ih hlaterOrder (List.forall_mem_nil _)

theorem designatorsInOrder_false_iff {order : List Char} (horder : ∀ mark ∈ order, isNumberChar mark = false)
    (cs : List Char) :
    designatorsInOrder false order cs = true ↔ Designated (fun _ => IsLooseNumber) order cs :=
  designatorsInOrder_iff cs horder (List.forall_mem_nil _)

theorem isNumberChar_date : ∀ mark ∈ ['Y', 'M', 'D'], isNumberChar mark = false := by simp [isNumberChar]

theorem isNumberChar_time : ∀ mark ∈ ['H', 'M', 'S'], isNumberChar mark = false := by simp [isNumberChar]

/-- The mark before a time stands in no part of a duration. -/
theorem Designated.mark_not_mem {order cs : List Char} (h : Designated (fun _ => IsLooseNumber) order cs)
    (horder : 'T' ∉ order) : 'T' ∉ cs := by
  intro hmem
  rcases h.mem_or (p := fun c => isNumberChar c = true) (fun _ _ hnumber => hnumber.chars) 'T' hmem with hchar | hin
  · exact absurd hchar (by decide)
  · exact horder hin

theorem isDuration_cons_iff {body : List Char} :
    isDuration ('P' :: body) = true ↔ (body ≠ [] ∧ body.getLast? ≠ some 'T') ∧
      Designated (fun _ => IsLooseNumber) ['Y', 'M', 'D'] ((splitOnce? 'T' body).getD (body, [])).1 ∧
        Designated (fun _ => IsLooseNumber) ['H', 'M', 'S'] ((splitOnce? 'T' body).getD (body, [])).2 := by
  rw [← designatorsInOrder_false_iff isNumberChar_date, ← designatorsInOrder_false_iff isNumberChar_time]
  change (if body.isEmpty || body.getLast? == some 'T' then false
    else designatorsInOrder false ['Y', 'M', 'D'] ((splitOnce? 'T' body).getD (body, [])).1 &&
      designatorsInOrder false ['H', 'M', 'S'] ((splitOnce? 'T' body).getD (body, [])).2) = true ↔ _
  simp

/-- What is behind the mark of a duration. -/
theorem isDuration_forward_iff {body : List Char} :
    isDuration ('P' :: body) = true ↔ DateAndTime (fun _ => IsLooseNumber) body := by
  rw [isDuration_cons_iff]
  constructor
  · rintro ⟨⟨hsome, hlast⟩, hdate, htime⟩
    cases hsplit : splitOnce? 'T' body with
    | none =>
        rw [hsplit] at hdate
        exact .date hdate hsome
    | some parts =>
        rw [hsplit] at hdate htime
        obtain ⟨rfl, -⟩ := splitOnce?_eq_some_iff.1 hsplit
        refine .time hdate htime fun hnil => hlast ?_
        rw [show parts.2 = [] from hnil, List.getLast?_concat]
  · intro h
    cases h with
    | date hdate hsome =>
        have hmark : 'T' ∉ body := hdate.mark_not_mem (by decide)
        have hsplit : splitOnce? 'T' body = none := splitOnce?_eq_none fun c hc (heq : c = 'T') => hmark (heq ▸ hc)
        rw [hsplit]
        exact ⟨⟨hsome, fun hlast => hmark (List.mem_of_getLast? hlast)⟩, hdate, .nil _⟩
    | @time ds ts hdate htime hsome =>
        have hsplit : splitOnce? 'T' (ds ++ 'T' :: ts) = some (ds, ts) :=
          splitOnce?_eq_some_iff.2 ⟨rfl, hdate.mark_not_mem (by decide)⟩
        have hlast : (ds ++ 'T' :: ts).getLast? ≠ some 'T' := by
          obtain ⟨mark, hmem, hmark⟩ := htime.getLast?_eq.resolve_left hsome
          rw [List.getLast?_append, List.getLast?_cons, hmark]
          rintro heq
          obtain rfl : mark = 'T' := Option.some.inj heq
          exact absurd hmem (by decide)
        rw [hsplit]
        exact ⟨⟨by simp, hlast⟩, hdate, htime⟩

theorem isDuration_iff {cs : List Char} : isDuration cs = true ↔ Duration (fun _ => IsLooseNumber) cs := by
  constructor
  · intro h
    have hforms : ∃ body, cs = 'P' :: body ∨ cs = '-' :: 'P' :: body := by
      unfold isDuration at h
      dsimp only at h
      split at h
      · rename_i body hbody
        split at hbody
        · exact ⟨body, .inr (congrArg _ hbody)⟩
        · exact ⟨body, .inl hbody⟩
      · cases h
    obtain ⟨body, rfl | rfl⟩ := hforms
    · exact .forward (isDuration_forward_iff.1 h)
    · exact .backward (isDuration_forward_iff.1 h)
  · intro h
    cases h with
    | forward hbody => exact isDuration_forward_iff.2 hbody
    | backward hbody => exact isDuration_forward_iff.2 hbody

/-! ## Where points stand -/

/-- Digits begin a text, and the designator of the seconds follows them. -/
def SecondsFollow (cs : List Char) : Prop :=
  cs.takeWhile Char.isDigit ≠ [] ∧ (cs.dropWhile Char.isDigit).head? = some 'S'

/-- Every point of a text stands behind a digit, and before digits and the designator of the seconds. -/
def PointsInSeconds (cs : List Char) : Prop :=
  ∀ before after, cs = before ++ '.' :: after →
    (∃ c, before.getLast? = some c ∧ c.isDigit = true) ∧ SecondsFollow after

/-- Whether seconds follow is settled at the first character that is not a digit. -/
theorem secondsFollow_append_cons {mark : Char} (hmark : mark.isDigit = false) (xs ys : List Char) :
    SecondsFollow (xs ++ mark :: ys) ↔
      xs.takeWhile Char.isDigit ≠ [] ∧ ((xs.dropWhile Char.isDigit).head?.getD mark) = 'S' := by
  have htake : (xs ++ mark :: ys).takeWhile Char.isDigit = xs.takeWhile Char.isDigit := by
    induction xs with
    | nil => exact List.takeWhile_cons_of_neg (by simp [hmark])
    | cons x xs ih => rw [List.cons_append, List.takeWhile_cons, List.takeWhile_cons, ih]
  have hdrop : ((xs ++ mark :: ys).dropWhile Char.isDigit).head? =
      some ((xs.dropWhile Char.isDigit).head?.getD mark) := by
    rw [List.dropWhile_append]
    cases xs.dropWhile Char.isDigit with
    | nil => simp [hmark]
    | cons x rest => rfl
  rw [SecondsFollow, htake, hdrop, Option.some.injEq]

/-- What follows a mark has nothing to do with it. -/
theorem secondsFollow_append_cons_iff {mark : Char} (hmark : mark.isDigit = false) (xs ys : List Char) :
    SecondsFollow (xs ++ mark :: ys) ↔ SecondsFollow (xs ++ [mark]) := by
  rw [secondsFollow_append_cons hmark, secondsFollow_append_cons hmark]

/-- Seconds follow digits and points up to a mark just when they are digits and the mark is that of the seconds. -/
theorem secondsFollow_concat_iff {mark : Char} (hmark : mark.isDigit = false) {ds : List Char}
    (hchars : ∀ c ∈ ds, isNumberChar c = true) : SecondsFollow (ds ++ [mark]) ↔ IsNumeral ds ∧ mark = 'S' := by
  rw [secondsFollow_append_cons hmark]
  constructor
  · rintro ⟨hsome, hseconds⟩
    have hend : ds.dropWhile Char.isDigit = [] := by
      cases hdrop : ds.dropWhile Char.isDigit with
      | nil => rfl
      | cons c rest =>
          rw [hdrop] at hseconds
          have hchar := hchars c ((List.dropWhile_suffix _).subset (hdrop ▸ List.mem_cons_self))
          rw [show c = 'S' from hseconds] at hchar
          cases hchar
    rw [hend] at hseconds
    exact ⟨⟨fun hnil => hsome (by rw [hnil]; rfl), List.dropWhile_eq_nil_iff.1 hend⟩, hseconds⟩
  · rintro ⟨hnumeral, rfl⟩
    rw [List.takeWhile_eq_self_iff.2 hnumeral.digits, List.dropWhile_eq_nil_iff.2 hnumeral.digits]
    exact ⟨hnumeral.nonempty, rfl⟩

/-- A point of a text with a mark stands before or behind the mark. -/
theorem point_places {mark : Char} {xs ys before after : List Char} (hmark : isNumberChar mark = false)
    (h : xs ++ mark :: ys = before ++ '.' :: after) :
    (∃ inside, xs = before ++ '.' :: inside ∧ after = inside ++ mark :: ys) ∨
      ∃ inside, before = xs ++ mark :: inside ∧ ys = inside ++ '.' :: after := by
  have hpoint : mark ≠ '.' := by
    rintro rfl
    cases hmark
  rcases List.append_eq_append_iff.1 h with ⟨inside, hbefore, hrest⟩ | ⟨inside, hxs, hrest⟩
  · right
    cases inside with
    | nil => exact absurd (List.cons.inj hrest).1 hpoint
    | cons c inside =>
        obtain ⟨rfl, hys⟩ := List.cons.inj hrest
        exact ⟨inside, hbefore, hys⟩
  · left
    cases inside with
    | nil => exact absurd (List.cons.inj hrest).1.symm hpoint
    | cons c inside =>
        obtain ⟨rfl, hafter⟩ := List.cons.inj hrest
        exact ⟨inside, hxs, hafter⟩

section Points

variable {mark : Char} (hmark : isNumberChar mark = false)

include hmark

/-- The points behind a mark have nothing to do with what is before it. -/
theorem pointsInSeconds_append_cons_iff (xs ys : List Char) :
    PointsInSeconds (xs ++ mark :: ys) ↔ PointsInSeconds (xs ++ [mark]) ∧ PointsInSeconds ys := by
  have hdigit : mark.isDigit = false := (Bool.or_eq_false_iff.1 hmark).1
  constructor
  · intro h
    refine ⟨fun before after heq => ?_, fun before after heq => ?_⟩
    · rcases point_places hmark heq with ⟨inside, rfl, rfl⟩ | ⟨inside, -, hnil⟩
      · obtain ⟨hbefore, hafter⟩ := h before (inside ++ mark :: ys) (by simp)
        exact ⟨hbefore, (secondsFollow_append_cons_iff hdigit _ _).1 hafter⟩
      · simp at hnil
    · obtain ⟨⟨c, hlast, hc⟩, hafter⟩ := h (xs ++ mark :: before) after (by simp [heq])
      refine ⟨⟨c, ?_, hc⟩, hafter⟩
      cases before with
      | nil =>
          rw [List.getLast?_concat] at hlast
          obtain rfl := Option.some.inj hlast
          rw [hdigit] at hc
          cases hc
      | cons b before =>
          rw [← hlast, List.getLast?_append, List.getLast?_cons_cons, List.getLast?_cons]
          rfl
  · rintro ⟨hxs, hys⟩ before after heq
    rcases point_places hmark heq with ⟨inside, rfl, rfl⟩ | ⟨inside, rfl, rfl⟩
    · obtain ⟨hbefore, hafter⟩ := hxs before (inside ++ [mark]) (by simp)
      exact ⟨hbefore, (secondsFollow_append_cons_iff hdigit _ _).2 hafter⟩
    · obtain ⟨⟨c, hlast, hc⟩, hafter⟩ := hys inside after rfl
      refine ⟨⟨c, ?_, hc⟩, hafter⟩
      rw [List.getLast?_append, List.getLast?_cons, hlast]
      rfl

/-- A mark other than that of the seconds makes no difference to the points before it. -/
theorem pointsInSeconds_concat_iff (hseconds : mark ≠ 'S') (xs : List Char) :
    PointsInSeconds (xs ++ [mark]) ↔ PointsInSeconds xs := by
  have hdigit : mark.isDigit = false := (Bool.or_eq_false_iff.1 hmark).1
  have hfollow : ∀ inside, SecondsFollow (inside ++ [mark]) ↔ SecondsFollow inside := by
    intro inside
    rw [secondsFollow_append_cons hdigit, SecondsFollow]
    cases (inside.dropWhile Char.isDigit).head? <;> simp [hseconds]
  constructor
  · rintro h before after rfl
    obtain ⟨hbefore, hafter⟩ := h before (after ++ [mark]) (by simp)
    exact ⟨hbefore, (hfollow after).1 hafter⟩
  · intro h before after heq
    rcases point_places hmark heq with ⟨inside, rfl, rfl⟩ | ⟨inside, -, hnil⟩
    · obtain ⟨hbefore, hafter⟩ := h before inside rfl
      exact ⟨hbefore, (hfollow inside).2 hafter⟩
    · simp at hnil

/-- Digits and points are the number of a designator when each point has its place. -/
theorem pointsInSeconds_number_iff {ds : List Char} (hnumber : IsLooseNumber ds) :
    PointsInSeconds (ds ++ [mark]) ↔ IsExactNumber mark ds := by
  have hdigit : mark.isDigit = false := (Bool.or_eq_false_iff.1 hmark).1
  constructor
  · intro h
    by_cases hpoint : '.' ∈ ds
    · obtain ⟨before, after, rfl, hfirst⟩ := List.eq_append_cons_of_mem hpoint
      obtain ⟨hbeforeChars, hafterChars⟩ := List.forall_mem_append.1 hnumber.chars
      obtain ⟨⟨c, hlast, -⟩, hafter⟩ := h before (after ++ [mark]) (by simp)
      have hbefore : IsNumeral before :=
        ⟨fun hnil => by simp [hnil] at hlast, isDigit_of_isNumberChar hbeforeChars hfirst⟩
      obtain ⟨hpart, rfl⟩ := (secondsFollow_concat_iff hdigit (List.forall_mem_cons.1 hafterChars).2).1 hafter
      exact .seconds hbefore hpart
    · exact .whole ⟨hnumber.nonempty, isDigit_of_isNumberChar hnumber.chars hpoint⟩
  · intro h before after heq
    have hpoint : ∀ {cs : List Char}, IsNumeral cs → '.' ∉ cs := fun hcs hmem => hcs.ne_of_mem (by decide) hmem rfl
    rcases point_places hmark heq with ⟨inside, hds, rfl⟩ | ⟨inside, -, hnil⟩
    · cases h with
      | whole hwhole =>
          rw [hds] at hwhole
          exact absurd (by simp) (hpoint hwhole)
      | seconds hwhole hpart =>
          obtain ⟨rfl, -, rfl⟩ := (List.append_cons_inj_of_notMem (hpoint hwhole) (hpoint hpart)).1 hds
          refine ⟨⟨_, List.getLast?_eq_some_getLast hwhole.nonempty, hwhole.digits _ (List.getLast_mem _)⟩, ?_⟩
          exact (secondsFollow_concat_iff hdigit (IsNumeral.isLooseNumber hpart).chars).2 ⟨hpart, rfl⟩
    · simp at hnil

end Points

/-! ## Exact numbers -/

/-- The numbers are exact when the points have their places. -/
theorem designated_exact_iff {order cs : List Char} (horder : ∀ mark ∈ order, isNumberChar mark = false) :
    Designated IsExactNumber order cs ↔
      Designated (fun _ => IsLooseNumber) order cs ∧ PointsInSeconds cs := by
  have hempty : PointsInSeconds [] := fun before after heq => by simp at heq
  constructor
  · intro h
    refine ⟨h.mono fun _ _ => IsExactNumber.isLooseNumber, ?_⟩
    induction h with
    | done => exact hempty
    | absent _ ih => exact ih fun m hm => horder m (List.mem_cons_of_mem _ hm)
    | present hnumber _ ih =>
        have hmark := horder _ List.mem_cons_self
        exact (pointsInSeconds_append_cons_iff hmark _ _).2
          ⟨(pointsInSeconds_number_iff hmark hnumber.isLooseNumber).2 hnumber,
            ih fun m hm => horder m (List.mem_cons_of_mem _ hm)⟩
  · rintro ⟨h, hpoints⟩
    induction h with
    | done => exact .done
    | absent _ ih => exact .absent (ih (fun m hm => horder m (List.mem_cons_of_mem _ hm)) hpoints)
    | present hnumber _ ih =>
        have hmark := horder _ List.mem_cons_self
        obtain ⟨hown, hrest⟩ := (pointsInSeconds_append_cons_iff hmark _ _).1 hpoints
        exact .present ((pointsInSeconds_number_iff hmark hnumber).1 hown)
          (ih (fun m hm => horder m (List.mem_cons_of_mem _ hm)) hrest)

theorem dateAndTime_exact_iff {body : List Char} :
    DateAndTime IsExactNumber body ↔ DateAndTime (fun _ => IsLooseNumber) body ∧ PointsInSeconds body := by
  have hdate := fun {ds} => @designated_exact_iff _ ds isNumberChar_date
  have htime := fun {ts} => @designated_exact_iff _ ts isNumberChar_time
  have hboth : ∀ ds ts, PointsInSeconds (ds ++ 'T' :: ts) ↔ PointsInSeconds ds ∧ PointsInSeconds ts := by
    intro ds ts
    rw [pointsInSeconds_append_cons_iff (by decide), pointsInSeconds_concat_iff (by decide) (by decide)]
  constructor
  · intro h
    cases h with
    | date hds hsome => exact ⟨.date (hdate.1 hds).1 hsome, (hdate.1 hds).2⟩
    | time hds hts hsome =>
        exact ⟨.time (hdate.1 hds).1 (htime.1 hts).1 hsome, (hboth _ _).2 ⟨(hdate.1 hds).2, (htime.1 hts).2⟩⟩
  · rintro ⟨h, hpoints⟩
    cases h with
    | date hds hsome => exact .date (hdate.2 ⟨hds, hpoints⟩) hsome
    | time hds hts hsome =>
        obtain ⟨hdatePoints, htimePoints⟩ := (hboth _ _).1 hpoints
        exact .time (hdate.2 ⟨hds, hdatePoints⟩) (htime.2 ⟨hts, htimePoints⟩) hsome

/-- Of the texts that are taken for durations those have exact numbers in which the points have their places. -/
theorem duration_exact_iff {cs : List Char} :
    Duration IsExactNumber cs ↔ Duration (fun _ => IsLooseNumber) cs ∧ PointsInSeconds cs := by
  have hskip : ∀ mark : Char, isNumberChar mark = false → mark ≠ 'S' → ∀ cs,
      PointsInSeconds (mark :: cs) ↔ PointsInSeconds cs := by
    intro mark hmark hseconds cs
    have hempty : PointsInSeconds [] := fun before after heq => by simp at heq
    have happend := pointsInSeconds_append_cons_iff hmark [] cs
    rw [pointsInSeconds_concat_iff hmark hseconds] at happend
    exact happend.trans (and_iff_right hempty)
  have hforward := hskip 'P' (by decide) (by decide)
  have hbackward := hskip '-' (by decide) (by decide)
  constructor
  · intro h
    cases h with
    | forward hbody =>
        obtain ⟨hloose, hpoints⟩ := dateAndTime_exact_iff.1 hbody
        exact ⟨.forward hloose, (hforward _).2 hpoints⟩
    | backward hbody =>
        obtain ⟨hloose, hpoints⟩ := dateAndTime_exact_iff.1 hbody
        exact ⟨.backward hloose, (hbackward _).2 ((hforward _).2 hpoints)⟩
  · rintro ⟨h, hpoints⟩
    cases h with
    | forward hbody => exact .forward (dateAndTime_exact_iff.2 ⟨hbody, (hforward _).1 hpoints⟩)
    | backward hbody =>
        exact .backward (dateAndTime_exact_iff.2 ⟨hbody, (hforward _).1 ((hbackward _).1 hpoints)⟩)

/-- The texts that are accepted are the durations whose numbers are any digits and points.  The durations with exact
numbers are those of them in which each point stands behind a digit, and before digits and the designator of the
seconds. -/
theorem durations_accepted_iff (s : String) :
    (isValue .duration s = true ↔ Duration (fun _ => IsLooseNumber) s.toList) ∧
      (Duration IsExactNumber s.toList ↔ isValue .duration s = true ∧ PointsInSeconds s.toList) := by
  have haccepted : isValue .duration s = true ↔ Duration (fun _ => IsLooseNumber) s.toList := isDuration_iff
  exact ⟨haccepted, by rw [haccepted, duration_exact_iff]⟩

/-- A number of years can have a fraction. -/
theorem fraction_of_years_accepted : ¬ ∀ s : String, isValue .duration s = true ↔ Duration IsExactNumber s.toList := by
  intro h
  have haccepted : isValue .duration "P1.5Y" = true := by decide
  obtain ⟨-, hpoints⟩ := duration_exact_iff.1 ((h "P1.5Y").1 haccepted)
  obtain ⟨-, -, hseconds⟩ := hpoints ['P', '1'] ['5', 'Y'] (by decide)
  exact absurd hseconds (by decide)

end Lexical
end Specimen
