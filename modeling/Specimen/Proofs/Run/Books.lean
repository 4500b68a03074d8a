import Specimen.Proofs.Dict
import Specimen.Proofs.Run.Composition
import Specimen.Run.Report

/-!
# The books of a report

A report counts values in all and by source, generators, fallbacks and attributes.  These counts belong together:
every value has one source, a generator is counted with each value that it makes, and a fallback is a value that
had to be generated after all.  Between the notice of a fallback and its value, the books owe one value.

Counting under a name adds one to the count of that name and one to the sum of all counts, and changes no other
count.  What an action does to the books is stated for runs that return.  Actions keep the books when their parts do.
-/

namespace Specimen

/-! ## Counts by name -/

/-- The sum of the values of entries. -/
def Dict.sumOf : List (String × Nat) → Nat
  | [] => 0
  | e :: rest => e.2 + sumOf rest

/-- Putting an entry into its place adds its value to the sum of all values, less that of the entry it
replaces. -/
theorem Dict.sumOf_insertEntry (key : String) (value : Nat) {entries : List (String × Nat)}
    (hsorted : entries.Pairwise fun a b => a.1 < b.1) :
    sumOf (insertEntry key value entries) + ((entries.find? fun e => e.1 == key).map (·.2)).getD 0 =
      sumOf entries + value := by
  induction entries with
  | nil => exact Nat.add_comm _ _
  | cons first rest ih =>
      obtain ⟨k, v⟩ := first
      obtain ⟨hfirst, hrest⟩ := List.pairwise_cons.1 hsorted
      unfold insertEntry
      split
      · rename_i hlt
        -- the entry comes before all others, so it replaces none of them
        have hnone : ((k, v) :: rest).find? (fun e => e.1 == key) = none := by
          refine List.find?_eq_none.2 fun e he => ?_
          have hbehind : key < e.1 := by
            rcases List.mem_cons.1 he with rfl | he
            · exact hlt
            · exact String.lt_trans hlt (hfirst e he)
          simpa using (String.ne_of_lt hbehind).symm
        rw [hnone]
        simp only [sumOf, Option.map_none, Option.getD_none]
        omega
      · split
        · rename_i heq
          subst heq
          rw [List.find?_cons_of_pos (by simp)]
          simp only [sumOf, Option.map_some, Option.getD_some]
          omega
        · rename_i hne
          rw [List.find?_cons_of_neg (by simpa using Ne.symm hne)]
          simp only [sumOf]
          have hsum := ih hrest
          omega

namespace Tally

/-- The sum of all counts. -/
def total (t : Tally) : Nat := Dict.sumOf t.entries

variable (t : Tally) (name : String)

theorem total_bump : (t.bump name).total = t.total + 1 := by
  have hsum := Dict.sumOf_insertEntry name ((t.get? name).getD 0 + 1) t.sorted
  change (t.bump name).total + (t.get? name).getD 0 = t.total + ((t.get? name).getD 0 + 1) at hsum
  omega

theorem get?_bump_of_ne {other : String} (hne : name ≠ other) : (t.bump name).get? other = t.get? other := by
  unfold bump
  rw [Dict.get?_insert, if_neg hne]

theorem count_bump_of_ne {other : String} (hne : name ≠ other) : (t.bump name).count other = t.count other := by
  rw [count, get?_bump_of_ne t name hne]
  rfl

end Tally

namespace Report

end Report

/-! ## Counts that belong together -/

/-- The counts that the books are about, and what some of them count. -/
def Report.counts (r : Report) : Nat × Nat × Nat × Tally × Tally × Tally × Array Notice × Nat × Array Notice :=
  (r.attributes, r.values, r.fallbacks, r.valueSources, r.generators, r.warningsByCode, r.warnings,
    r.truncationCount, r.truncations)

/-- The counts of a report belong together: so many attributes were counted, and so many fallbacks whose value
is not there yet. -/
structure Report.Books (attributes owed : Nat) (r : Report) : Prop where
  attributes : r.attributes = attributes
  values : r.values = r.valueSources.total
  generators : r.generators.total = r.valueSources.count "generator" + r.valueSources.count "fallback"
  fallbacks : r.fallbacks = r.valueSources.count "fallback" + owed
  warnings : r.warningsByCode = codesOf r.warnings
  truncations : r.truncationCount = r.truncations.size

namespace Report.Books

variable {attributes owed : Nat} {r : Report}

theorem warn (h : r.Books attributes owed) (n : Notice) : (r.warn n).Books attributes owed where
  __ := h
  warnings := by
    change r.warningsByCode.bump n.code = codesOf (r.warnings.push n)
    rw [codesOf_push, h.warnings]

theorem truncate (h : r.Books attributes owed) (n : Notice) : (r.truncate n).Books attributes owed where
  __ := h
  truncations := by
    change r.truncationCount + 1 = (r.truncations.push n).size
    rw [Array.size_push, h.truncations]

theorem countAttribute (h : r.Books attributes owed) : r.countAttribute.Books (attributes + 1) owed :=
  { h with attributes := congrArg (· + 1) h.attributes }

theorem countFallback (h : r.Books attributes owed) : r.countFallback.Books attributes (owed + 1) :=
  { h with fallbacks := congrArg (· + 1) h.fallbacks }

theorem values_countValue (h : r.values = r.valueSources.total) (source : String) :
    (r.countValue source).values = (r.countValue source).valueSources.total := by
  change r.values + 1 = (r.valueSources.bump source).total
  rw [Tally.total_bump, h]

/-- A value from a source that is not a generator. -/
theorem countValue (h : r.Books attributes owed) {source : String} (hsource : IsGiven source) :
    (r.countValue source).Books attributes owed where
  __ := h
  values := values_countValue h.values source
  generators := by
    change r.generators.total =
      (r.valueSources.bump source).count "generator" + (r.valueSources.bump source).count "fallback"
    rw [Tally.count_bump_of_ne _ _ hsource.1, Tally.count_bump_of_ne _ _ hsource.2]
    exact h.generators
  fallbacks := by
    change r.fallbacks = (r.valueSources.bump source).count "fallback" + owed
    rw [Tally.count_bump_of_ne _ _ hsource.2]
    exact h.fallbacks

end Report.Books

namespace Run

variable {α β : Type} {P Q : Report → Prop}

/-! ## Reports before and after -/

/-- When an action returns, its report satisfies a condition, if the report before satisfied another one. -/
def Ensures (P : Report → Prop) (m : Run α) (post : α → Report → Prop) : Prop :=
  ∀ s a t, m.exec s = (.ok a, t) → P s.report → post a t.report

/-- What the report satisfies before an action, it satisfies when the action returns. -/
abbrev Keeps (P : Report → Prop) (m : Run α) : Prop := Ensures P m fun _ => P

namespace Ensures

variable {mid : β → Report → Prop} {post : α → Report → Prop}

theorem pure {a : α} (h : ∀ r, P r → post a r) : Ensures P (pure a : Run α) post := by
  intro s b t hrun hs
  obtain ⟨rfl, rfl⟩ := exec_pure_eq_ok.1 hrun
  exact h s.report hs

theorem throw (e : RunError) : Ensures P (throw e : Run α) post := by
  intro s a t hrun
  simp at hrun

theorem bind {m : Run β} {f : β → Run α} (hm : Ensures P m mid) (hf : ∀ b, Ensures (mid b) (f b) post) :
    Ensures P (m >>= f) post := by
  intro s a t hrun hs
  obtain ⟨b, u, hfirst, hlast⟩ := exec_bind_eq_ok.1 hrun
  exact hf b u a t hlast (hm s b u hfirst hs)

theorem get_bind {f : RunState → Run α} (hf : ∀ s, Ensures P (f s) post) : Ensures P (get >>= f) post := by
  intro s a t hrun hs
  rw [exec_get_bind] at hrun
  exact hf s s a t hrun hs

theorem record {change : Report → Report} (h : ∀ r, P r → Q (change r)) :
    Ensures P (record change) fun _ => Q := by
  intro s a t hrun hs
  cases hrun
  exact h s.report hs

end Ensures

namespace Keeps

theorem pure (a : α) : Keeps P (pure a : Run α) := Ensures.pure fun _ => id

theorem modifyGet {f : RunState → α × RunState} (h : ∀ s, (f s).2.report = s.report) :
    Keeps P (modifyGet f : Run α) := by
  intro s a t hrun hs
  cases hrun
  rw [h]
  exact hs

end Keeps

/-! ## The books of composed actions -/

section Books

variable {attributes owed : Nat}

end Books

end Run

end Specimen
