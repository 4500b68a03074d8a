import Mathlib.Data.List.Basic
import Specimen.Plan.Compile
import Specimen.Proofs.Except
import Specimen.Text.Split

/-!
# The rule that stands for an element

Several rules may match an element.  The one that stands is the last of those whose keys have the most slashes,
and an element goes without a rule exactly if none matches.

A key is matched without the slashes at its start, but these are counted.  So a key with more segments stands
against one with fewer only where the other has no more slashes at its start.
-/

namespace Specimen

theorem Text.length_splitAt (mark : Char) (text : List Char) :
    (splitAt mark text).length = text.count mark + 1 := by
  induction text with
  | nil => rfl
  | cons c rest ih =>
      have hpos : 0 < (splitAt mark rest).length := by rw [ih]; exact Nat.succ_pos _
      obtain ⟨part, parts, hparts⟩ := List.exists_cons_of_length_pos hpos
      rw [hparts] at ih
      rw [splitAt, hparts, List.count_cons]
      by_cases hmark : c = mark
      · simpa [hmark] using ih
      · simpa [hmark] using ih

namespace ElementRule

/-- How many slashes stand at the start of the key of a rule. -/
def leadingSlashes (rule : ElementRule) : Nat := (rule.key.toList.takeWhile (· = '/')).length

/-- The segments of the key of a rule, without the slashes at its start. -/
def segments (rule : ElementRule) : List (List Char) := Text.splitAt '/' (trimSlashes rule.key).toList

/-- What is compared is the number of segments and, beside it, that of the slashes at the start. -/
theorem specificity_add_one (rule : ElementRule) :
    rule.specificity + 1 = rule.leadingSlashes + rule.segments.length := by
  have hleading : (rule.key.toList.takeWhile (· = '/')).count '/' = rule.leadingSlashes := by
    apply List.count_eq_length.2
    intro c hc
    have hslash := List.all_eq_true.1 List.all_takeWhile c hc
    exact (of_decide_eq_true hslash).symm
  rw [segments, Text.length_splitAt, trimSlashes, String.toList_ofList, ← hleading, ← Nat.add_assoc,
    ← List.count_append, List.takeWhile_append_dropWhile, specificity]

/-- A rule of a list than which none before it is more specific, and none behind it as specific. -/
def IsLastOfMost (rules : List ElementRule) (rule : ElementRule) : Prop :=
  ∃ before after, rules = before ++ rule :: after ∧ (∀ r ∈ before, r.specificity ≤ rule.specificity) ∧
    ∀ r ∈ after, r.specificity < rule.specificity

namespace IsLastOfMost

variable {rules : List ElementRule} {rule other : ElementRule}

theorem mem (h : IsLastOfMost rules rule) : rule ∈ rules := by
  obtain ⟨before, after, rfl, -, -⟩ := h
  exact List.mem_append_right _ List.mem_cons_self

theorem specificity_le (h : IsLastOfMost rules rule) (hother : other ∈ rules) :
    other.specificity ≤ rule.specificity := by
  obtain ⟨before, after, rfl, hbefore, hafter⟩ := h
  rcases List.mem_append.1 hother with hmem | hmem
  · exact hbefore other hmem
  · rcases List.mem_cons.1 hmem with rfl | hmem
    · exact Nat.le_refl _
    · exact Nat.le_of_lt (hafter other hmem)

/-- A rule before another one that is as specific is not the last. -/
theorem cons (first : ElementRule) (h : IsLastOfMost rules rule) (hle : first.specificity ≤ rule.specificity) :
    IsLastOfMost (first :: rules) rule := by
  obtain ⟨before, after, rfl, hbefore, hafter⟩ := h
  exact ⟨first :: before, after, rfl, List.forall_mem_cons.2 ⟨hle, hbefore⟩, hafter⟩

theorem of_cons (h : IsLastOfMost (other :: rules) rule) :
    (rule = other ∧ ∀ r ∈ rules, r.specificity < rule.specificity) ∨
      IsLastOfMost rules rule ∧ other.specificity ≤ rule.specificity := by
  obtain ⟨before, after, hsplit, hbefore, hafter⟩ := h
  cases before with
  | nil =>
      obtain ⟨rfl, rfl⟩ := List.cons.inj hsplit
      exact .inl ⟨rfl, hafter⟩
  | cons first before =>
      obtain ⟨rfl, rfl⟩ := List.cons.inj hsplit
      obtain ⟨hfirst, hbefore⟩ := List.forall_mem_cons.1 hbefore
      exact .inr ⟨⟨before, after, rfl, hbefore, hafter⟩, hfirst⟩

/-- A list has at most one such rule. -/
theorem unique (h : IsLastOfMost rules rule) (hother : IsLastOfMost rules other) : rule = other := by
  induction rules with
  | nil => exact absurd h.mem List.not_mem_nil
  | cons first rest ih =>
      rcases h.of_cons with ⟨rfl, hless⟩ | ⟨hrest, hle⟩
      · rcases hother.of_cons with ⟨rfl, -⟩ | ⟨hrest', hle'⟩
        · rfl
        · exact absurd (hless other hrest'.mem) (Nat.not_lt.2 hle')
      · rcases hother.of_cons with ⟨rfl, hless⟩ | ⟨hrest', -⟩
        · exact absurd (hless rule hrest.mem) (Nat.not_lt.2 hle)
        · exact ih hrest hrest'

end IsLastOfMost

/-- The rule that is kept while going through a list is the last of the most specific ones. -/
theorem isLastOfMost_foldl (first : ElementRule) (rules : List ElementRule) :
    IsLastOfMost (first :: rules) (rules.foldl moreSpecific first) := by
  induction rules generalizing first with
  | nil => exact ⟨[], [], rfl, List.forall_mem_nil _, List.forall_mem_nil _⟩
  | cons next rest ih =>
      rw [List.foldl_cons]
      have hkept := ih (moreSpecific first next)
      by_cases hless : next.specificity < first.specificity
      · rw [moreSpecific, if_pos hless] at hkept ⊢
        rcases hkept.of_cons with ⟨heq, hrest⟩ | ⟨hrest, hle⟩
        · rw [heq] at hrest ⊢
          exact ⟨[], next :: rest, rfl, List.forall_mem_nil _, List.forall_mem_cons.2 ⟨hless, hrest⟩⟩
        · have hnext := hrest.cons next (Nat.le_trans (Nat.le_of_lt hless) hle)
          exact hnext.cons first hle
      · rw [moreSpecific, if_neg hless] at hkept ⊢
        have hle := hkept.specificity_le List.mem_cons_self
        exact hkept.cons first (Nat.le_trans (Nat.le_of_not_lt hless) hle)

theorem mostSpecific?_eq_some_iff {rules : List ElementRule} {rule : ElementRule} :
    mostSpecific? rules = some rule ↔ IsLastOfMost rules rule := by
  cases rules with
  | nil => exact ⟨nofun, fun h => absurd h.mem List.not_mem_nil⟩
  | cons first rest =>
      have hkept := isLastOfMost_foldl first rest
      constructor
      · intro h
        exact Option.some.inj h ▸ hkept
      · intro h
        exact congrArg some (hkept.unique h)

theorem mostSpecific?_eq_none_iff {rules : List ElementRule} : mostSpecific? rules = none ↔ rules = [] := by
  cases rules with
  | nil => exact ⟨fun _ => rfl, fun _ => rfl⟩
  | cons first rest => exact ⟨nofun, nofun⟩

end ElementRule

namespace Plan

open ElementRule (IsLastOfMost)

theorem rule?_eq_some_iff {plan : Plan} {name path : String} {rule : ElementRule} :
    plan.rule? name path = some rule ↔ IsLastOfMost (plan.rules.filter (·.applies name path)) rule :=
  ElementRule.mostSpecific?_eq_some_iff

theorem mem_rules_of_rule? {plan : Plan} {name path : String} {rule : ElementRule}
    (h : plan.rule? name path = some rule) : rule ∈ plan.rules :=
  List.mem_of_mem_filter (rule?_eq_some_iff.1 h).mem

/-- An element goes without a rule exactly if none matches.  Else the last of those that match and have the most
slashes in their keys stands, and no other one has more segments, if the slashes at the start of its key are not
fewer. -/
theorem most_specific_rule (plan : Plan) (name path : String) :
    (plan.rule? name path = none ↔ ∀ rule ∈ plan.rules, rule.applies name path = false) ∧
    ∀ rule, (plan.rule? name path = some rule ↔
        IsLastOfMost (plan.rules.filter (·.applies name path)) rule) ∧
      (plan.rule? name path = some rule →
        rule ∈ plan.rules ∧ rule.applies name path = true ∧
        ∀ other ∈ plan.rules, other.applies name path = true →
          rule.leadingSlashes ≤ other.leadingSlashes → other.segments.length ≤ rule.segments.length) := by
  refine ⟨?_, fun rule => ⟨rule?_eq_some_iff, fun hrule => ?_⟩⟩
  · rw [rule?, ElementRule.mostSpecific?_eq_none_iff, List.filter_eq_nil_iff]
    simp only [Bool.not_eq_true]
  · have hmost := rule?_eq_some_iff.1 hrule
    refine ⟨mem_rules_of_rule? hrule, (List.mem_filter.1 hmost.mem).2, ?_⟩
    intro other hother hmatches hleading
    have hle := hmost.specificity_le (List.mem_filter.2 ⟨hother, hmatches⟩)
    have hrule := rule.specificity_add_one
    have hother := other.specificity_add_one
    omega

/-- Rules for an element by its name and by its path. -/
def harbourPlan : Plan where
  rules := [{ key := "Harbour/Port", nil := true }, { key := "Port" }]

theorem most_specific_rule_harbour :
    harbourPlan.rule? "Port" "Route/Harbour/Port" = some { key := "Harbour/Port", nil := true } ∧
      (∀ other ∈ harbourPlan.rules, other.applies "Port" "Route/Harbour/Port" = true →
        other.segments.length ≤ 2) ∧
      harbourPlan.rule? "Ship" "Route/Ship" = none := by
  have hrule : harbourPlan.rule? "Port" "Route/Harbour/Port" = some { key := "Harbour/Port", nil := true } := by
    decide
  obtain ⟨-, hfound⟩ := most_specific_rule harbourPlan "Port" "Route/Harbour/Port"
  obtain ⟨-, -, hmost⟩ := (hfound { key := "Harbour/Port", nil := true }).2 hrule
  refine ⟨hrule, fun other hother hmatches => ?_, ?_⟩
  · exact hmost other hother hmatches (Nat.zero_le _)
  · exact (most_specific_rule harbourPlan "Ship" "Route/Ship").1.2 (by decide)

/-- A rule whose key begins with two slashes, beside one with more segments. -/
def slashedConfig : Config where
  elements := (Dict.empty.insert "//Port" { customValues := [.string "x"] }).insert "Route/Port"
    { customValues := [.string "y"] }

/-- Where a key begins with slashes, its rule stands although another key that matches has more segments. -/
theorem less_specific_rule_found : ∃ plan, slashedConfig.compile = .ok plan ∧ ∃ rule other,
    plan.rule? "Port" "Route/Port" = some rule ∧ other ∈ plan.rules ∧
      other.applies "Port" "Route/Port" = true ∧ rule.segments.length < other.segments.length := by
  have hrules : slashedConfig.compile.toOption.map (·.rules) =
      some [{ key := "//Port", customValues := ["x"] }, { key := "Route/Port", customValues := ["y"] }] := by
    decide +kernel
  obtain ⟨plan, hplan, hrules⟩ := Option.map_eq_some_iff.1 hrules
  refine ⟨plan, toOption_eq_some.1 hplan, { key := "//Port", customValues := ["x"] },
    { key := "Route/Port", customValues := ["y"] }, ?_, ?_, by decide, by decide⟩
  · rw [rule?, hrules]
    decide
  · rw [hrules]
    decide

end Plan
end Specimen
