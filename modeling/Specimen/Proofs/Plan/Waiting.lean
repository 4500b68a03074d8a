import Mathlib.Data.List.Perm.Subperm
import Mathlib.Logic.Relation
import Mathlib.Order.WellFounded
import Specimen.Proofs.Dict
import Specimen.Proofs.Plan.Precedence

/-!
# Fields that wait for each other

While a field is settled its owner may settle others first: fields of the relationships that come before,
and fields that it has but another relationship supplies.  A plan settles when no such chain goes on
without end, that is, when no field waits for itself.

Only a part of these waits is declared.  In an accepted configuration every cycle passes through a foreign
field that no dependency announces, so the configuration settles exactly when those waits close no cycle.
-/

open Relation (ReflTransGen TransGen)

namespace Specimen
namespace Plan

variable {plan : Plan} {field other : String}

/-- A relationship reads a field of another one while it settles a field: one that it has without
supplying it.  A field that others only depend on is settled without looking at any. -/
def ReadsForeign (plan : Plan) (r : Relationship) (field other : String) : Prop :=
  other ∈ r.fields ∧ other ≠ field ∧ plan.owns r other = false ∧
    (r.strategy = .dependentValues → field ∉ r.dependsOn)

/-- A relationship that comes before another supplies a field. -/
def SuppliedEarlier (plan : Plan) (r : Relationship) (other : String) : Prop :=
  ∃ id ∈ r.after, ∃ earlier, plan.relationship? id = some earlier ∧ other ∈ earlier.fields ∧
    plan.owns earlier other = true

/-- While a field is settled, another one may have to be settled. -/
def Waits (plan : Plan) (field other : String) : Prop :=
  ∃ r, plan.owner? field = some r ∧
    (plan.SuppliedEarlier r other ∨ plan.ReadsForeign r field other)

/-- A field waits for a foreign one although no dependency says so. -/
def WaitsUndeclared (plan : Plan) (field other : String) : Prop :=
  ∃ r, plan.owner? field = some r ∧ plan.ReadsForeign r field other ∧
    ¬ (field ∈ r.dependents ∧ other ∈ r.dependsOn)

/-- No chain of fields that wait for each other goes on without end. -/
def Settles (plan : Plan) : Prop :=
  ∀ chain : Nat → String, ¬ ∀ n, plan.Waits (chain n) (chain (n + 1))

theorem WaitsUndeclared.waits (h : plan.WaitsUndeclared field other) : plan.Waits field other := by
  obtain ⟨r, howner, hreads, -⟩ := h
  exact ⟨r, howner, .inr hreads⟩

/-! ## Chains of waiting fields -/

theorem Waits.mem_keys (h : plan.Waits field other) : field ∈ plan.owners.keys := by
  obtain ⟨r, howner, -⟩ := h
  obtain ⟨id, hid, -⟩ := Option.bind_eq_some_iff.1 howner
  obtain ⟨e, he, -⟩ := Option.map_eq_some_iff.1 hid
  have hkey := List.find?_some he
  exact List.mem_map.2 ⟨e, List.mem_of_find?_eq_some he, eq_of_beq hkey⟩

/-- Different fields that have owners are not more than there are owners. -/
theorem length_le_size {path : List String} (hnodup : path.Nodup)
    (howned : ∀ f ∈ path, f ∈ plan.owners.keys) : path.length ≤ plan.owners.size := by
  have hle := (List.Nodup.subperm hnodup howned).length_le
  rwa [Dict.keys, List.length_map] at hle

theorem settles_iff_wellFounded :
    plan.Settles ↔ WellFounded fun other field => plan.Waits field other := by
  rw [wellFounded_iff_isEmpty_descending_chain]
  constructor
  · intro h
    exact ⟨fun ⟨chain, hchain⟩ => h chain hchain⟩
  · intro h chain hchain
    exact h.false ⟨chain, hchain⟩

/-- A plan settles exactly when no field waits for itself. -/
theorem settles_iff_acyclic : plan.Settles ↔ ∀ f, ¬ TransGen plan.Waits f f := by
  constructor
  · intro hsettles f hcycle
    have hwell := settles_iff_wellFounded.1 hsettles
    exact hwell.transGen.irrefl.irrefl f (Relation.transGen_swap.2 hcycle)
  · intro hacyclic chain hchain
    have hlater : ∀ i j, i < j → TransGen plan.Waits (chain i) (chain j) := by
      intro i j hij
      induction hij with
      | refl => exact .single (hchain i)
      | step _ ih => exact ih.tail (hchain _)
    have hnodup : ((List.range (plan.owners.size + 1)).map chain).Nodup := by
      refine List.pairwise_map.2 (List.pairwise_lt_range.imp fun {i j} hij heq => ?_)
      exact hacyclic (chain i) (heq ▸ hlater i j hij)
    have howned : ∀ f ∈ (List.range (plan.owners.size + 1)).map chain, f ∈ plan.owners.keys := by
      intro f hf
      obtain ⟨n, -, rfl⟩ := List.mem_map.1 hf
      exact (hchain n).mem_keys
    have hlength := length_le_size hnodup howned
    rw [List.length_map, List.length_range] at hlength
    omega

/-- A cycle stays within one kind of edges or passes through an edge of the other kind. -/
theorem cycle_cases {r p : String → String → Prop} {x y : String} (h : TransGen r x y) :
    TransGen (fun a b => r a b ∧ p a b) x y ∨
      ∃ a b, r a b ∧ ¬ p a b ∧ ReflTransGen r x a ∧ ReflTransGen r b y := by
  induction h with
  | @single b hxb =>
      by_cases hp : p x b
      · exact .inl (.single ⟨hxb, hp⟩)
      · exact .inr ⟨x, b, hxb, hp, .refl, .refl⟩
  | @tail b c hxb hbc ih =>
      rcases ih with hin | ⟨a, a', ha, hnot, hxa, hab⟩
      · by_cases hp : p b c
        · exact .inl (hin.tail ⟨hbc, hp⟩)
        · exact .inr ⟨b, c, hbc, hp, hxb.to_reflTransGen, .refl⟩
      · exact .inr ⟨a, a', ha, hnot, hxa, hab.tail hbc⟩

end Plan

namespace Config

variable {c : Config} {plan : Plan} {field other : String}

/-- What a field waits for, without an undeclared wait, is declared by a relationship of the plan. -/
theorem declares_of_waits (h : c.compile = .ok plan) (hwaits : plan.Waits field other)
    (hdeclared : ¬ plan.WaitsUndeclared field other) :
    other ≠ field ∧ (∃ r ∈ plan.relationships, other ∈ r.fields) ∧
      ∃ r ∈ plan.relationships, r.Declares plan.relationships field other := by
  obtain ⟨r, howner, hwaits⟩ := hwaits
  obtain ⟨id, hid, hr⟩ := Option.bind_eq_some_iff.1 howner
  obtain ⟨r', hr', rfl, hfield, howner'⟩ := owner_hasField h hid
  cases howner.symm.trans howner'
  rcases hwaits with ⟨id, hafter, earlier, hearlier, hother, howns⟩ | hreads
  · have hmem := List.mem_of_find?_eq_some hearlier
    have hname := List.find?_some hearlier
    have hne : other ≠ field := by
      rintro rfl
      have hsame : r.id = earlier.id := Option.some.inj (hid.symm.trans (eq_of_beq howns))
      exact not_mem_after h hr' (hsame.trans (eq_of_beq hname) ▸ hafter)
    exact ⟨hne, ⟨earlier, hmem, hother⟩, r, hr',
      .inr ⟨id, hafter, earlier, hearlier, hfield, hother, hne⟩⟩
  · have ⟨hother, hne, _⟩ := hreads
    have hdepends : field ∈ r.dependents ∧ other ∈ r.dependsOn := by
      by_contra hnot
      exact hdeclared ⟨r, howner, hreads, hnot⟩
    exact ⟨hne, ⟨r, hr', hother⟩, r, hr', .inl hdepends⟩

/-- In an accepted configuration every cycle of waiting fields passes through an undeclared wait. -/
theorem exists_undeclared_of_cycle (h : c.compile = .ok plan) (hcycle : TransGen plan.Waits field field) :
    ∃ a b, plan.WaitsUndeclared a b ∧ ReflTransGen plan.Waits b a := by
  rcases Plan.cycle_cases (p := fun a b => ¬ plan.WaitsUndeclared a b) hcycle with
    hdeclared | ⟨a, b, -, hundeclared, hfa, hbf⟩
  · have hwell : WellFounded fun b a => plan.Waits a b ∧ ¬ plan.WaitsUndeclared a b :=
      Subrelation.wf (fun hab => declares_of_waits h hab.1 hab.2) (wellFounded_declares h)
    exact absurd (Relation.transGen_swap.2 hdeclared) (hwell.transGen.irrefl.irrefl field)
  · exact ⟨a, b, not_not.1 hundeclared, hbf.trans hfa⟩

/-- An accepted configuration settles exactly when no undeclared wait closes a cycle. -/
theorem settles_iff_of_compile (h : c.compile = .ok plan) :
    plan.Settles ↔ ∀ field other, plan.WaitsUndeclared field other →
      ¬ ReflTransGen plan.Waits other field := by
  rw [Plan.settles_iff_acyclic]
  constructor
  · intro hacyclic field other hundeclared hback
    exact hacyclic field (.head' hundeclared.waits hback)
  · intro hopen field hcycle
    obtain ⟨a, b, hundeclared, hback⟩ := exists_undeclared_of_cycle h hcycle
    exact hopen a b hundeclared hback

/-! ## Relationships that share no field -/

/-- Every field of a relationship has an owner. -/
theorem isSome_owner (h : c.compile = .ok plan) {r : Relationship} (hr : r ∈ plan.relationships)
    (hfield : field ∈ r.fields) : (plan.owners.get? field).isSome := by
  obtain ⟨-, rfl⟩ := compile_eq_ok h
  have hfound : (c.draft.2.relationships.find? (·.hasField field)).isSome :=
    List.find?_isSome.2 ⟨r, hr, List.contains_iff_mem.2 hfield⟩
  rw [get?_owners, Option.isSome_or, Option.isSome_map, hfound, Bool.or_true]

/-- When relationships share no field, every wait is declared. -/
theorem not_waitsUndeclared_of_disjoint (h : c.compile = .ok plan)
    (hdisjoint : ∀ r ∈ plan.relationships, ∀ r' ∈ plan.relationships, ∀ f ∈ r.fields,
      f ∈ r'.fields → r.id = r'.id) : ¬ plan.WaitsUndeclared field other := by
  rintro ⟨r, howner, ⟨hother, -, howns, -⟩, -⟩
  obtain ⟨_, -, hr⟩ := Option.bind_eq_some_iff.1 howner
  have hmem := List.mem_of_find?_eq_some hr
  obtain ⟨id, hid⟩ := Option.isSome_iff_exists.1 (isSome_owner h hmem hother)
  obtain ⟨r', hr', rfl, hother', -⟩ := owner_hasField h hid
  rw [Plan.owns, hid, hdisjoint r hmem r' hr' other hother hother'] at howns
  simp at howns

end Config
end Specimen
