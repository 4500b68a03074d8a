import Mathlib.Data.List.Perm.Subperm
import Mathlib.Order.WellFounded
import Specimen.Graph

/-!
# Graphs without cycles

The nodes of a graph are listed one at a time, each after its targets; which are ready is found by looking at all
targets again.  Along its edges a listed node is therefore accessible: no path leads on from it without end.  When
no node is left unlisted, following edges from node to node ends.

A graph has an order exactly when no node is left unlisted, and a node with an edge to itself is always
left.
-/

namespace Specimen

/-- What a step of a fold adds to a property, the whole fold adds up. -/
theorem foldl_iff {α β : Type} {f : β → α → β} (P : β → Prop) {Q : α → Prop}
    (hstep : ∀ b a, P (f b a) ↔ P b ∨ Q a) (l : List α) (b : β) :
    P (l.foldl f b) ↔ P b ∨ ∃ a ∈ l, Q a := by
  induction l generalizing b with
  | nil => simp
  | cons a rest ih => rw [List.foldl_cons, ih, hstep, or_assoc, List.exists_mem_cons_iff]

namespace Graph

variable {g : Graph} {n t x : String}

/-- There is an edge from a node to a target. -/
def Leads (g : Graph) (n t : String) : Prop := ∃ ts, (n, ts) ∈ g ∧ t ∈ ts

/-- The nodes of a graph stand in increasing order. -/
def Increasing (g : Graph) : Prop := g.Pairwise fun a b => a.1 < b.1

/-- A node has its targets in one place. -/
theorem Increasing.eq_of_mem (hg : g.Increasing) {ts ts' : List String} (h : (n, ts) ∈ g)
    (h' : (n, ts') ∈ g) : ts = ts' := by
  induction g with
  | nil => cases h
  | cons p rest ih =>
      obtain ⟨hfirst, hrest⟩ := List.pairwise_cons.1 hg
      rcases List.mem_cons.1 h with rfl | hlater
      · rcases List.mem_cons.1 h' with heq | hmem
        · exact (Prod.mk.inj heq).2.symm
        · exact absurd (hfirst (n, ts') hmem) (String.lt_irrefl n)
      · rcases List.mem_cons.1 h' with rfl | hmem
        · exact absurd (hfirst (n, ts) hlater) (String.lt_irrefl n)
        · exact ih hrest hlater hmem

/-! ## Increasing lists -/

theorem pairwise_insertSorted {s : String} {l : List String} (h : l.Pairwise (· < ·)) :
    (insertSorted s l).Pairwise (· < ·) := by
  induction l with
  | nil => exact List.pairwise_singleton _ _
  | cons t rest ih =>
      obtain ⟨hfirst, hrest⟩ := List.pairwise_cons.1 h
      unfold insertSorted
      split
      · rename_i hlt
        refine List.pairwise_cons.2 ⟨fun x hx => ?_, h⟩
        rcases List.mem_cons.1 hx with rfl | hx
        · exact hlt
        · exact String.lt_trans hlt (hfirst x hx)
      · split
        · exact h
        · rename_i hnot hne
          refine List.pairwise_cons.2 ⟨fun x hx => ?_, ih hrest⟩
          rcases mem_insertSorted.1 hx with rfl | hx
          · exact String.not_le.1 fun hle => hne (String.le_antisymm hle (String.not_lt.1 hnot))
          · exact hfirst x hx

/-- The members of a list stand in increasing order, each once. -/
theorem pairwise_sorted (names : List String) : (sorted names).Pairwise (· < ·) :=
  List.foldlRecOn names _ .nil fun _ h _ _ => pairwise_insertSorted h

/-! ## Adding targets -/

theorem leads_cons {node : String} {ts : List String} {rest : Graph} :
    Leads ((node, ts) :: rest) n t ↔ (n = node ∧ t ∈ ts) ∨ Leads rest n t := by
  constructor
  · rintro ⟨ts', hmem, ht⟩
    rcases List.mem_cons.1 hmem with heq | hmem
    · cases heq
      exact .inl ⟨rfl, ht⟩
    · exact .inr ⟨ts', hmem, ht⟩
  · rintro (⟨rfl, ht⟩ | ⟨ts', hmem, ht⟩)
    · exact ⟨ts, List.mem_cons_self, ht⟩
    · exact ⟨ts', List.mem_cons_of_mem _ hmem, ht⟩

theorem leads_add {node : String} {targets : List String} :
    (g.add node targets).Leads n t ↔ g.Leads n t ∨ (n = node ∧ t ∈ targets) := by
  induction g with
  | nil => simp [add, Leads, and_comm]
  | cons p rest ih =>
      obtain ⟨m, ts⟩ := p
      unfold add
      split
      · rw [leads_cons, mem_sorted, or_comm]
      · split
        · rename_i heq
          subst heq
          rw [leads_cons, leads_cons, mem_sorted, List.mem_append, and_or_left, or_right_comm]
        · rw [leads_cons, leads_cons, ih, or_assoc]

theorem fst_of_mem_add {node : String} {targets : List String} {p : String × List String}
    (h : p ∈ g.add node targets) : p.1 = node ∨ p.1 ∈ g.nodes := by
  induction g with
  | nil => exact .inl (by simpa [add] using congrArg Prod.fst (List.mem_singleton.1 h))
  | cons q rest ih =>
      obtain ⟨m, ts⟩ := q
      unfold add at h
      split at h
      · rcases List.mem_cons.1 h with rfl | h
        · exact .inl rfl
        · exact .inr (List.mem_map_of_mem h)
      · split at h
        · rename_i heq
          rcases List.mem_cons.1 h with rfl | h
          · exact .inl heq.symm
          · exact .inr (List.mem_cons_of_mem _ (List.mem_map_of_mem h))
        · rcases List.mem_cons.1 h with rfl | h
          · exact .inr List.mem_cons_self
          · exact (ih h).imp_right (List.mem_cons_of_mem _)

theorem mem_nodes_add {node : String} {targets : List String} :
    x ∈ (g.add node targets).nodes ↔ x ∈ g.nodes ∨ x = node := by
  induction g with
  | nil => simp [add, nodes]
  | cons p rest ih =>
      obtain ⟨m, ts⟩ := p
      unfold add
      split
      · simp [nodes, or_comm]
      · split
        · rename_i heq
          simp [nodes, heq, or_right_comm]
        · simpa [nodes, or_assoc] using or_congr_right ih

theorem Increasing.add (hg : g.Increasing) (node : String) (targets : List String) :
    (g.add node targets).Increasing := by
  induction g with
  | nil => exact List.pairwise_singleton _ _
  | cons p rest ih =>
      obtain ⟨m, ts⟩ := p
      obtain ⟨hfirst, hrest⟩ := List.pairwise_cons.1 hg
      unfold Graph.add
      split
      · rename_i hlt
        refine List.pairwise_cons.2 ⟨fun q hq => ?_, hg⟩
        rcases List.mem_cons.1 hq with rfl | hq
        · exact hlt
        · exact String.lt_trans hlt (hfirst q hq)
      · rename_i hnot
        split
        · exact List.pairwise_cons.2 ⟨hfirst, hrest⟩
        · rename_i hne
          refine List.pairwise_cons.2 ⟨fun q hq => ?_, ih hrest⟩
          rcases fst_of_mem_add hq with heq | hq
          · rw [heq]
            exact String.not_le.1 fun hle => hne (String.le_antisymm hle (String.not_lt.1 hnot))
          · obtain ⟨q', hq', heq⟩ := List.mem_map.1 hq
            exact heq ▸ hfirst q' hq'

/-! ## Listing nodes -/

/-- The nodes all of whose targets inside the graph are done. -/
def ready (g : Graph) (done : List String) : List String :=
  (g.filter fun p =>
    !done.contains p.1 && p.2.all fun t => done.contains t || !g.nodes.contains t).map (·.1)

/-- Lists nodes one at a time, always the least that is ready; `fuel` bounds their number. -/
def orderFrom (g : Graph) : Nat → List String → List String
  | 0, done => done
  | fuel + 1, done =>
    match g.ready done with
    | [] => done
    | n :: _ => orderFrom g fuel (done ++ [n])

/-- The nodes in an order in which each comes after its targets, unless there is a cycle. -/
def order? (g : Graph) : Option (List String) :=
  let order := g.orderFrom g.length []
  if order.length = g.length then some order else none

/-- The nodes that cannot be listed because a cycle can be reached from them. -/
def unlisted (g : Graph) : List String :=
  let order := g.orderFrom g.length []
  g.nodes.filter fun n => !order.contains n

theorem mem_ready {done : List String} (h : n ∈ g.ready done) :
    ∃ ts, (n, ts) ∈ g ∧ ∀ t ∈ ts, t ∈ done ∨ t ∉ g.nodes := by
  obtain ⟨p, hp, rfl⟩ := List.mem_map.1 h
  obtain ⟨hmem, hready⟩ := List.mem_filter.1 hp
  refine ⟨p.2, hmem, fun t ht => ?_⟩
  have hall := List.all_eq_true.1 (Bool.and_eq_true _ _ ▸ hready).2 t ht
  simpa using hall

/-- Every listed node is accessible along the edges between nodes. -/
theorem acc_of_mem_orderFrom (hg : g.Increasing) {fuel : Nat} {done : List String}
    (hdone : ∀ n ∈ done, Acc (fun t n => g.Leads n t ∧ t ∈ g.nodes) n) :
    ∀ n ∈ g.orderFrom fuel done, Acc (fun t n => g.Leads n t ∧ t ∈ g.nodes) n := by
  induction fuel generalizing done with
  | zero => exact hdone
  | succ fuel ih =>
      unfold orderFrom
      split
      · exact hdone
      · rename_i n rest hready
        obtain ⟨ts, hn, hts⟩ := mem_ready (hready ▸ List.mem_cons_self)
        refine ih fun x hx => ?_
        rcases List.mem_append.1 hx with hx | hx
        · exact hdone x hx
        · rw [List.mem_singleton.1 hx]
          refine .intro n fun t ⟨⟨ts', hn', ht⟩, hnode⟩ => ?_
          rw [hg.eq_of_mem hn' hn] at ht
          exact hdone t ((hts t ht).resolve_right (not_not_intro hnode))

/-- A graph whose nodes are all listed can be followed only finitely far. -/
theorem wellFounded_of_unlisted_eq_nil (hg : g.Increasing) (h : g.unlisted = []) :
    WellFounded fun t n => g.Leads n t ∧ t ∈ g.nodes := by
  refine ⟨fun n => .intro n fun t ⟨_, ht⟩ => ?_⟩
  have hlisted : t ∈ g.orderFrom g.length [] := by
    have hkept := List.filter_eq_nil_iff.1 h t ht
    simpa using hkept
  exact acc_of_mem_orderFrom hg (by simp) t hlisted

/-- A node that leads to itself is never listed. -/
theorem unlisted_ne_nil_of_loop (hg : g.Increasing) (hnode : n ∈ g.nodes) (hloop : g.Leads n n) :
    g.unlisted ≠ [] := by
  intro h
  have hwell := wellFounded_of_unlisted_eq_nil hg h
  exact hwell.irrefl.irrefl n ⟨hloop, hnode⟩

/-! ## Listing every node -/

theorem Increasing.nodup_nodes (hg : g.Increasing) : g.nodes.Nodup := by
  refine List.pairwise_map.2 (hg.imp fun {a b} hlt heq => ?_)
  exact String.lt_irrefl a.1 (heq ▸ hlt)

theorem not_mem_of_mem_ready {done : List String} (h : n ∈ g.ready done) : n ∉ done := by
  obtain ⟨p, hp, rfl⟩ := List.mem_map.1 h
  have hready := (List.mem_filter.1 hp).2
  have hfresh := (Bool.and_eq_true _ _ ▸ hready).1
  simpa using hfresh

theorem mem_nodes_of_mem_ready {done : List String} (h : n ∈ g.ready done) : n ∈ g.nodes := by
  obtain ⟨ts, hmem, -⟩ := mem_ready h
  exact List.mem_map.2 ⟨(n, ts), hmem, rfl⟩

/-- Nodes are listed once each. -/
theorem nodup_orderFrom (fuel : Nat) {done : List String} (hdone : done.Nodup)
    (hnodes : done ⊆ g.nodes) :
    (g.orderFrom fuel done).Nodup ∧ g.orderFrom fuel done ⊆ g.nodes := by
  induction fuel generalizing done with
  | zero => exact ⟨hdone, hnodes⟩
  | succ fuel ih =>
      unfold orderFrom
      split
      · exact ⟨hdone, hnodes⟩
      · rename_i n rest hready
        have hn : n ∈ g.ready done := hready ▸ List.mem_cons_self
        apply ih
        · have hfresh := not_mem_of_mem_ready hn
          refine List.nodup_append.2 ⟨hdone, List.pairwise_singleton _ n, fun x hx y hy heq => ?_⟩
          exact hfresh (List.mem_singleton.1 hy ▸ heq ▸ hx)
        · intro x hx
          rcases List.mem_append.1 hx with hx | hx
          · exact hnodes hx
          · exact List.mem_singleton.1 hx ▸ mem_nodes_of_mem_ready hn

/-- A graph has an order exactly when no node is left unlisted. -/
theorem isSome_order_iff (hg : g.Increasing) : g.order?.isSome ↔ g.unlisted = [] := by
  have hnodes : g.nodes.length = g.length := List.length_map _
  obtain ⟨hnodup, hsubset⟩ := nodup_orderFrom g.length List.nodup_nil (List.nil_subset g.nodes)
  have hsubperm := hnodup.subperm hsubset
  have hunlisted : g.unlisted = [] ↔ g.nodes ⊆ g.orderFrom g.length [] := by
    simp [unlisted, List.filter_eq_nil_iff, List.subset_def]
  rw [hunlisted]
  constructor
  · intro h
    have hlength : (g.orderFrom g.length []).length = g.length := by
      by_contra hne
      simp [order?, hne] at h
    have hperm := hsubperm.perm_of_length_le (by omega)
    exact hperm.symm.subset
  · intro h
    have hle := (hg.nodup_nodes.subperm h).length_le
    have hlength : (g.orderFrom g.length []).length = g.length := by
      have := hsubperm.length_le
      omega
    simp [order?, hlength]

/-! ## Graphs without loops -/

/-- A graph without the edges from a node to itself. -/
def withoutLoops (g : Graph) : Graph := g.map fun p => (p.1, p.2.filter (· != p.1))

theorem nodes_withoutLoops : g.withoutLoops.nodes = g.nodes := by
  simp [withoutLoops, nodes]

theorem Increasing.withoutLoops (hg : g.Increasing) : g.withoutLoops.Increasing := by
  unfold Increasing Graph.withoutLoops
  rw [List.pairwise_map]
  exact hg

theorem leads_withoutLoops : g.withoutLoops.Leads n t ↔ g.Leads n t ∧ t ≠ n := by
  constructor
  · rintro ⟨ts, hmem, ht⟩
    obtain ⟨p, hp, heq⟩ := List.mem_map.1 hmem
    cases heq
    obtain ⟨ht, hne⟩ := List.mem_filter.1 ht
    exact ⟨⟨p.2, hp, ht⟩, by simpa using hne⟩
  · rintro ⟨⟨ts, hmem, ht⟩, hne⟩
    exact ⟨_, List.mem_map_of_mem hmem, List.mem_filter.2 ⟨ht, by simpa using hne⟩⟩

/-- A graph without loops is not changed when they are taken out. -/
theorem withoutLoops_eq_self (h : ∀ n, ¬ g.Leads n n) : g.withoutLoops = g := by
  unfold withoutLoops
  refine (List.map_congr_left fun p hp => ?_).trans (List.map_id g)
  have hkept : p.2.filter (· != p.1) = p.2 := by
    refine List.filter_eq_self.2 fun t ht => ?_
    have hne : t ≠ p.1 := fun heq => h p.1 ⟨p.2, hp, heq ▸ ht⟩
    simpa using hne
  rw [hkept]
  rfl

end Graph
end Specimen
