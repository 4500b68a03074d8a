import Specimen.Plan.Contexts
import Specimen.Proofs.Plan.Precedence

/-!
# Inheritance of data contexts

Whether data contexts inherit in a cycle is asked twice: when a configuration is compiled, and when its
contexts are merged.  The first question leaves out parents that do not exist and edges from a context to
itself; the second one leaves out neither.

Missing parents are a fault of their own, so on contexts without faults both look at the same graph, up to
its loops.  A context that inherits itself passes the first question and fails the second one; without such
a context the answers agree.
-/

namespace Specimen
namespace Contexts

variable {contexts : Dict DataContext} {n t : String}

/-- No context names itself as a parent. -/
def NoneInheritsItself (contexts : Dict DataContext) : Prop :=
  ∀ e ∈ contexts.entries, e.1 ∉ e.2.inherits

instance : Decidable (NoneInheritsItself contexts) :=
  inferInstanceAs (Decidable (∀ e ∈ contexts.entries, e.1 ∉ e.2.inherits))

/-! ## The graph of parents -/

theorem leads_parents : (parents contexts).Leads n t ↔
    ∃ e ∈ contexts.entries, n = e.1 ∧ t ∈ e.2.inherits := by
  unfold parents
  refine (foldl_iff (f := fun g e => g.add e.1 e.2.inherits) (Graph.Leads · n t)
    (fun _ _ => Graph.leads_add) contexts.entries []).trans ?_
  simp [Graph.Leads]

theorem mem_nodes_parents : n ∈ (parents contexts).nodes ↔ ∃ e ∈ contexts.entries, n = e.1 := by
  unfold parents
  refine (foldl_iff (f := fun g e => g.add e.1 e.2.inherits) (n ∈ Graph.nodes ·)
    (fun _ _ => Graph.mem_nodes_add) contexts.entries []).trans ?_
  simp [Graph.nodes]

theorem orderly_parents (contexts : Dict DataContext) : (parents contexts).Orderly :=
  List.foldlRecOn contexts.entries _ .nil fun _ hg e _ => hg.add e.1 e.2.inherits

theorem increasing_parents (contexts : Dict DataContext) : (parents contexts).Increasing :=
  (orderly_parents contexts).increasing

theorem not_leads_parents_self (h : NoneInheritsItself contexts) (n : String) :
    ¬ (parents contexts).Leads n n := by
  intro hloop
  obtain ⟨e, he, rfl, hself⟩ := leads_parents.1 hloop
  exact h e he hself

/-! ## Missing parents -/

theorem missingParent?_eq_none_iff : missingParent? contexts = none ↔
    ∀ e ∈ contexts.entries, ∀ parent ∈ e.2.inherits, contexts.contains parent = true := by
  simp [missingParent?, List.findSome?_eq_none_iff, List.find?_eq_none]

/-- When every parent exists, both questions are about one graph. -/
theorem inheritance_eq_parents (h : missingParent? contexts = none) :
    Config.inheritance contexts = parents contexts := by
  have hkept : ∀ e ∈ contexts.entries, e.2.inherits.filter contexts.contains = e.2.inherits :=
    fun e he => List.filter_eq_self.2 (missingParent?_eq_none_iff.1 h e he)
  unfold Config.inheritance parents
  refine List.foldl_ext _ _ _ fun g e he => ?_
  rw [hkept e he]

/-! ## The two questions -/

/-- Compiling finds no fault with contexts exactly when every parent exists and only loops are cycles. -/
theorem contextFaults_eq_nil_iff : Config.contextFaults contexts = [] ↔
    missingParent? contexts = none ∧ (parents contexts).stuck = [] := by
  have hunknown : (contexts.entries.flatMap fun e =>
      (e.2.inherits.zipIdx.filter fun p => !contexts.contains p.1).map fun p =>
        ConfigFault.unknownParent e.1 p.2 p.1) = [] ↔ missingParent? contexts = none := by
    rw [missingParent?_eq_none_iff, List.flatMap_eq_nil_iff]
    refine forall₂_congr fun e _ => ?_
    rw [List.map_eq_nil_iff, List.filter_eq_nil_iff]
    constructor
    · intro h parent hparent
      obtain ⟨i, hi, rfl⟩ := List.mem_iff_getElem.1 hparent
      have hkept := h (e.2.inherits[i], i) (List.mk_mem_zipIdx_iff_getElem?.2 (by simp))
      simpa using hkept
    · intro h p hp
      have hparent := h p.1 (List.fst_mem_of_mem_zipIdx hp)
      simp [hparent]
  unfold Config.contextFaults
  dsimp only
  split
  · rename_i hstuck
    rw [hunknown]
    constructor
    · intro h
      exact ⟨h, inheritance_eq_parents h ▸ hstuck⟩
    · exact And.left
  · rename_i hstuck
    constructor
    · intro h
      simp at h
    · rintro ⟨h, hparents⟩
      exact absurd (inheritance_eq_parents h ▸ hparents) hstuck

/-- When every parent exists, each context waits for all of its parents, and counting them lists the contexts. -/
theorem inheritanceOrder_eq (h : missingParent? contexts = none) :
    inheritanceOrder contexts = match (parents contexts).order? with
      | some order => .ok order
      | none => .error (.cycle (parents contexts).unlisted) := by
  have hnodes : ∀ p ∈ parents contexts, ∀ t ∈ p.2, t ∈ (parents contexts).nodes := by
    intro p hp t ht
    obtain ⟨e, he, -, hparent⟩ := leads_parents.1 ⟨p.2, hp, ht⟩
    have hexists := missingParent?_eq_none_iff.1 h e he t hparent
    obtain ⟨context, hget⟩ := Option.isSome_iff_exists.1 (Dict.contains_eq_isSome_get? _ t ▸ hexists)
    exact mem_nodes_parents.2 ⟨(t, context), Dict.get?_mem hget, rfl⟩
  unfold inheritanceOrder
  rw [h]
  dsimp only
  rw [Graph.listing_all_eq_targetsFirst hnodes, Graph.targetsFirst_eq (orderly_parents contexts)]
  cases (parents contexts).order? with
  | some order => rfl
  | none => rfl

theorem merge_eq_ok_iff {merged : Contexts} : merge contexts = .ok merged ↔
    missingParent? contexts = none ∧
      ∃ order, (parents contexts).order? = some order ∧ merged = mergeInOrder contexts order := by
  unfold merge
  cases hmissing : missingParent? contexts with
  | some found => simp [inheritanceOrder, hmissing, Except.map]
  | none =>
      rw [inheritanceOrder_eq hmissing]
      cases (parents contexts).order? with
      | some order => simp [Except.map, eq_comm]
      | none => simp [Except.map]

/-- Contexts are merged exactly when every parent exists and none is left unlisted. -/
theorem exists_merge_iff : (∃ merged, merge contexts = .ok merged) ↔
    missingParent? contexts = none ∧ (parents contexts).unlisted = [] := by
  rw [← Graph.isSome_order_iff (increasing_parents contexts), Option.isSome_iff_exists]
  constructor
  · rintro ⟨merged, hmerged⟩
    obtain ⟨hdeclared, order, horder, -⟩ := merge_eq_ok_iff.1 hmerged
    exact ⟨hdeclared, order, horder⟩
  · rintro ⟨hdeclared, order, horder⟩
    exact ⟨_, merge_eq_ok_iff.2 ⟨hdeclared, order, horder, rfl⟩⟩

/-- Merging demands, beyond what compiling does, that no context inherits itself. -/
theorem exists_merge_iff_contextFaults : (∃ merged, merge contexts = .ok merged) ↔
    Config.contextFaults contexts = [] ∧ NoneInheritsItself contexts := by
  rw [exists_merge_iff, contextFaults_eq_nil_iff, and_assoc]
  refine and_congr_right fun _ => ?_
  constructor
  · intro hlisted
    have hself : NoneInheritsItself contexts := by
      intro e he hself
      have hnode := mem_nodes_parents.2 ⟨e, he, rfl⟩
      have hloop := leads_parents.2 ⟨e, he, rfl, hself⟩
      exact Graph.unlisted_ne_nil_of_loop (increasing_parents contexts) hnode hloop hlisted
    refine ⟨?_, hself⟩
    rwa [Graph.stuck_eq (orderly_parents contexts), Graph.withoutLoops_eq_self (not_leads_parents_self hself)]
  · rintro ⟨hstuck, hself⟩
    rwa [Graph.stuck_eq (orderly_parents contexts),
      Graph.withoutLoops_eq_self (not_leads_parents_self hself)] at hstuck

end Contexts

namespace Config

variable {c : Config} {plan : Plan}

theorem isError_of_mem_contextFaults {contexts : Dict DataContext} {fault : ConfigFault}
    (h : fault ∈ contextFaults contexts) : fault.isError = true := by
  have hunknown : ∀ fault ∈ contexts.entries.flatMap fun e =>
      (e.2.inherits.zipIdx.filter fun p => !contexts.contains p.1).map fun p =>
        ConfigFault.unknownParent e.1 p.2 p.1, fault.isError = true := by
    intro fault hfault
    obtain ⟨e, -, hfault⟩ := List.mem_flatMap.1 hfault
    obtain ⟨p, -, rfl⟩ := List.mem_map.1 hfault
    rfl
  unfold contextFaults at h
  dsimp only at h
  split at h
  · exact hunknown fault h
  · rcases List.mem_append.1 h with h | h
    · exact hunknown fault h
    · rw [List.mem_singleton.1 h]
      rfl

/-- The contexts of an accepted configuration have no faults, since each of these would be an error. -/
theorem contextFaults_eq_nil (h : c.compile = .ok plan) : contextFaults plan.dataContexts = [] := by
  obtain ⟨hsound, rfl⟩ := compile_eq_ok h
  refine List.eq_nil_iff_forall_not_mem.2 fun fault hfault => ?_
  have hdraft : fault ∈ c.draft.1 := by
    refine List.mem_append_left _ (List.mem_append_left _ (List.mem_append_left _ ?_))
    exact List.mem_append_right _ hfault
  have herror := isError_of_mem_contextFaults hfault
  rw [hsound fault hdraft] at herror
  cases herror

/-- Contexts are merged exactly when compiling finds no fault with them and none of them inherits itself.
For the contexts of an accepted configuration only the latter is a question. -/
theorem merge_succeeds_iff (contexts : Dict DataContext) :
    ((∃ merged, Contexts.merge contexts = .ok merged) ↔
      contextFaults contexts = [] ∧ Contexts.NoneInheritsItself contexts) ∧
    ∀ (c : Config) (plan : Plan), c.compile = .ok plan → plan.dataContexts = contexts →
      ((∃ merged, Contexts.merge contexts = .ok merged) ↔ Contexts.NoneInheritsItself contexts) := by
  refine ⟨Contexts.exists_merge_iff_contextFaults, ?_⟩
  rintro c plan h rfl
  rw [Contexts.exists_merge_iff_contextFaults]
  exact and_iff_right (contextFaults_eq_nil h)

/-- A context with a value, and one that inherits it. -/
def heir : Config where
  dataContexts := (Dict.empty.insert "base" { values := Dict.empty.insert "city" (.string "Lima") }).insert
    "trip" { inherits := ["base"] }

/-- A context that inherits itself. -/
def ownHeir : Config where
  dataContexts := Dict.empty.insert "a" { inherits := ["a"] }

theorem merge_succeeds_iff_heir : heir.compile = .ok heir.draft.2 ∧
    ∃ merged, Contexts.merge heir.draft.2.dataContexts = .ok merged := by
  have hcompile : heir.compile = .ok heir.draft.2 := compile_of_sound (by decide +kernel)
  exact ⟨hcompile, ((merge_succeeds_iff _).2 heir heir.draft.2 hcompile rfl).2 (by decide +kernel)⟩

/-- An accepted configuration whose contexts cannot be merged. -/
theorem accepted_not_merged : ¬ ∀ (c : Config) (plan : Plan), c.compile = .ok plan →
    ∃ merged, Contexts.merge plan.dataContexts = .ok merged := by
  intro hall
  have hcompile : ownHeir.compile = .ok ownHeir.draft.2 := compile_of_sound (by decide +kernel)
  obtain ⟨merged, hmerged⟩ := hall ownHeir ownHeir.draft.2 hcompile
  have hself := (Contexts.exists_merge_iff_contextFaults.1 ⟨merged, hmerged⟩).2
  exact absurd hself (by decide +kernel)

end Config
end Specimen
