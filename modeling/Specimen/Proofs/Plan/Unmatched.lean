import Specimen.Proofs.Plan.Owners
import Specimen.Proofs.Xml.Declarations
import Specimen.Proofs.Schema.Sound
import Specimen.Plan.AgainstSchema

/-!
# Rules that match nothing

A configuration can do without what it says about a key when this names no relationship: it is accepted as before,
and its plan differs only in the rule of the key and in what is warned of.  When the key matches nothing in the
catalog of a schema, the plan fits the schema as before, and the same paths are needed.
-/

namespace Specimen

/-- A configuration without what it says about a key. -/
def Config.without (config : Config) (key : String) : Config :=
  { config with elements := config.elements.erase key }

/-- A plan without the rules of a key, and with other warnings. -/
def Plan.without (plan : Plan) (key : String) (warnings : List Issue) : Plan :=
  { plan with rules := plan.rules.filter fun rule => rule.key != key, warnings }

attribute [ext] Plan

/-! ## Plans without a rule -/

namespace Config

variable {c : Config} {plan : Plan} {key : String}

theorem rules_without (relationships : List Relationship) (entries : List (String × ElementConfig)) :
    ((entries.filter fun e => e.1 != key).map fun e => compileElement relationships e.1 e.2).filterMap (·.2) =
      ((entries.map fun e => compileElement relationships e.1 e.2).filterMap (·.2)).filter
        fun rule => rule.key != key := by
  induction entries with
  | nil => rfl
  | cons entry rest ih =>
      have hkey : ∀ rule, (compileElement relationships entry.1 entry.2).2 = some rule → rule.key = entry.1 :=
        fun rule hrule => (compileElement_eq_some hrule).1
      rw [List.map_cons, List.filter_cons, List.filterMap_cons]
      cases hrule : (compileElement relationships entry.1 entry.2).2 with
      | none =>
          rw [← ih]
          split
          · rw [List.map_cons, List.filterMap_cons, hrule]
          · rfl
      | some rule =>
          dsimp only
          rw [List.filter_cons, hkey rule hrule, ← ih]
          split
          · rw [List.map_cons, List.filterMap_cons, hrule]
          · rfl

/-- Rules that name no relationship give no field an owner. -/
theorem fieldOwners_filter (relationships : List Relationship) {rules : List ElementRule}
    {keep : ElementRule → Bool} (h : ∀ rule ∈ rules, keep rule = false → rule.relationship = none) :
    fieldOwners relationships (rules.filter keep) = fieldOwners relationships rules := by
  have hnamed : ∀ owners : Dict String,
      (rules.filter keep).foldl addNamedOwner owners = rules.foldl addNamedOwner owners := by
    induction rules with
    | nil => exact fun _ => rfl
    | cons rule rest ih =>
        intro owners
        have hrest := ih fun other hother => h other (List.mem_cons_of_mem _ hother)
        cases hkeep : keep rule with
        | true =>
            rw [List.filter_cons_of_pos hkeep]
            exact hrest _
        | false =>
            have hskip : addNamedOwner owners rule = owners := by
              unfold addNamedOwner
              rw [h rule List.mem_cons_self hkeep]
            rw [List.filter_cons_of_neg (by simp [hkeep]), List.foldl_cons, hskip]
            exact hrest owners
  unfold fieldOwners
  rw [hnamed]

/-- The rule of a key names the relationship that the configuration of the key names. -/
theorem relationship_of_rule {element : ElementConfig} (hkey : c.elements.get? key = some element)
    {rule : ElementRule} (hrule : rule ∈ c.draft.2.rules) (hsame : rule.key = key) :
    rule.relationship = element.relationship := by
  obtain ⟨checked, hchecked, hsome⟩ := List.mem_filterMap.1 hrule
  obtain ⟨entry, hentry, rfl⟩ := List.mem_map.1 hchecked
  obtain ⟨hrulekey, hrelationship⟩ := compileElement_eq_some hsome
  rw [hrelationship]
  have hpair : (key, entry.2) ∈ c.elements.entries := by
    rw [← hsame, hrulekey]
    exact hentry
  rw [Dict.entries_unique hpair (Dict.get?_mem hkey)]

/-- What is found in a configuration without a key is found in the whole one. -/
theorem draft_without_subset (c : Config) (key : String) : (c.without key).draft.1 ⊆ c.draft.1 := by
  let compiled := fun e : String × ElementConfig => compileElement c.draft.2.relationships e.1 e.2
  have hparts : (((c.elements.entries.filter fun e => e.1 != key).map compiled).map (·.1)).flatten ⊆
      ((c.elements.entries.map compiled).map (·.1)).flatten := by
    intro fault hfault
    obtain ⟨part, hpart, hmem⟩ := List.mem_flatten.1 hfault
    refine List.mem_flatten.2 ⟨part, ?_, hmem⟩
    exact ((List.filter_sublist.map compiled).map _).subset hpart
  intro fault hfault
  rcases List.mem_append.1 hfault with hfault | hcycle
  · rcases List.mem_append.1 hfault with hearlier | hown
    · exact List.mem_append_left _ (List.mem_append_left _ hearlier)
    · exact List.mem_append_left _ (List.mem_append_right _ (hparts hown))
  · exact List.mem_append_right _ hcycle

/-- A configuration can do without what it says about a key, when this names no relationship. -/
theorem compile_without (h : c.compile = .ok plan) {element : ElementConfig}
    (hkey : c.elements.get? key = some element) (hfree : element.relationship = none) :
    ∃ warnings, (c.without key).compile = .ok (plan.without key warnings) := by
  obtain ⟨hsound, rfl⟩ := compile_eq_ok h
  obtain ⟨warnings, hwarnings⟩ : ∃ warnings, (c.without key).draft.2.warnings = warnings := ⟨_, rfl⟩
  have hrules : (c.without key).draft.2.rules = c.draft.2.rules.filter fun rule => rule.key != key :=
    rules_without c.draft.2.relationships c.elements.entries
  have howners : (c.without key).draft.2.owners = c.draft.2.owners := by
    change fieldOwners c.draft.2.relationships (c.without key).draft.2.rules = _
    rw [hrules]
    refine fieldOwners_filter _ fun rule hrule hdropped => ?_
    have hsame : rule.key = key := by simpa using hdropped
    rw [relationship_of_rule hkey hrule hsame, hfree]
  have hdraft : (c.without key).draft.2 = c.draft.2.without key warnings :=
    Plan.ext rfl rfl rfl rfl hrules rfl howners hwarnings
  refine ⟨warnings, ?_⟩
  rw [← hdraft]
  refine compile_of_sound (List.any_eq_false.2 fun fault hfault => ?_)
  rw [hsound fault (draft_without_subset c key hfault)]
  exact Bool.false_ne_true

end Config

/-! ## Beside a schema -/

namespace Plan

variable {plan : Plan} {schema : Schema} {key : String} {catalog : List CatalogEntry}

/-- A key that is reported as unmatched matches nothing in the catalog. -/
theorem unmatched_of_faultsAgainst (h : .unmatchedElement key ∈ plan.faultsAgainst schema) :
    ∃ catalog, schema.catalog = .ok catalog ∧ ∀ e ∈ catalog, e.matchesKey key = false := by
  unfold faultsAgainst at h
  split at h
  · cases List.mem_singleton.1 h
  · rename_i catalog hcatalog
    refine ⟨catalog, hcatalog, ?_⟩
    rcases List.mem_append.1 h with h | hfield
    · rcases List.mem_append.1 h with hroot | hrule
      · unfold rootFaults at hroot
        split at hroot
        · split at hroot
          · cases List.mem_singleton.1 hroot
          · cases hroot
        · cases hroot
      · obtain ⟨rule, -, hfault⟩ := List.mem_flatMap.1 hrule
        unfold ruleFaults at hfault
        split at hfault
        · rename_i hnone
          cases List.mem_singleton.1 hfault
          exact fun e he => by simpa using List.filter_eq_nil_iff.1 hnone e he
        · split at hfault
          · cases List.mem_singleton.1 hfault
          · cases hfault
    · obtain ⟨r, -, hfault⟩ := List.mem_flatMap.1 hfield
      obtain ⟨p, -, hfault⟩ := List.mem_flatMap.1 hfault
      unfold fieldFaults at hfault
      split at hfault
      · cases List.mem_singleton.1 hfault
      · split at hfault
        · cases hfault
        · cases List.mem_singleton.1 hfault

theorem faultsAgainst_without_subset (warnings : List Issue) :
    (plan.without key warnings).faultsAgainst schema ⊆ plan.faultsAgainst schema := by
  intro fault hfault
  unfold faultsAgainst at hfault ⊢
  split at hfault
  · exact hfault
  · rcases List.mem_append.1 hfault with hfault | hfield
    · refine List.mem_append_left _ ?_
      rcases List.mem_append.1 hfault with hroot | hrule
      · exact List.mem_append_left _ hroot
      · obtain ⟨rule, hmem, hfault⟩ := List.mem_flatMap.1 hrule
        exact List.mem_append_right _ (List.mem_flatMap.2 ⟨rule, List.mem_of_mem_filter hmem, hfault⟩)
    · exact List.mem_append_right _ hfield

/-- A key that does not match is no reason to find another rule. -/
theorem rule?_without (warnings : List Issue) {name path : String} (h : keyMatches key name path = false) :
    (plan.without key warnings).rule? name path = plan.rule? name path := by
  unfold rule? without
  rw [List.filter_filter]
  congr 1
  refine List.filter_congr fun rule _ => ?_
  by_cases hkey : rule.key = key
  · have hno : rule.applies name path = false := by
      unfold ElementRule.applies
      rw [hkey]
      exact h
    rw [hno]
    rfl
  · simp [hkey]

theorem index_without (warnings : List Issue) (h : ∀ e ∈ catalog, e.matchesKey key = false) :
    Index.ofCatalog catalog (plan.without key warnings) = Index.ofCatalog catalog plan := by
  have hrules : (catalog.filter fun e => (plan.without key warnings).rules.any fun rule => e.matchesKey rule.key) =
      catalog.filter fun e => plan.rules.any fun rule => e.matchesKey rule.key := by
    refine List.filter_congr fun e he => ?_
    unfold without
    rw [List.any_filter]
    congr 1
    funext rule
    by_cases hkey : rule.key = key
    · rw [hkey, h e he, Bool.and_false]
    · simp [hkey]
  unfold Index.ofCatalog
  rw [hrules]
  rfl

end Plan
end Specimen
