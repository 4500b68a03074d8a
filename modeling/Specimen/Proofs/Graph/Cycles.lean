import Mathlib.Data.Fintype.Card
import Mathlib.Data.Set.Finite.Basic
import Mathlib.Logic.Relation
import Specimen.Proofs.Graph.Order

/-!
# Nodes that are left over, and nodes that reach themselves

Listing nodes stops only when no node is ready.  So a node is listed exactly when the edges from node to node
can be followed from it only finitely far.  Since there are finitely many nodes, this fails only where the
edges lead into a cycle: the nodes that are left over are those from which a cycle can be reached, and a graph
has an order exactly when it has no cycle.

In the order each node comes after its targets.

Whom a node reaches is found with a stack.  Each target of a visited node was visited as well or waits on the stack,
so when the stack runs out without the target, what was visited is closed and does not have it.  The targets of a
node are put on the stack at most once after the first ones, which bounds how often something is taken from it.  A
node is therefore called recursive exactly when a path of one or more edges leads from it back to it.
-/

open Relation (ReflTransGen TransGen)

namespace Specimen
namespace Graph

variable {g : Graph} {n t x : String} {done order names : List String}

/-! ## Cycles -/

/-- There is an edge from a node to a target that is a node as well. -/
def Links (g : Graph) (n t : String) : Prop := g.Leads n t ∧ t ∈ g.nodes

/-- The edges between nodes lead from a node into a cycle, which may pass through the node. -/
def ReachesCycle (g : Graph) (n : String) : Prop := ∃ m, ReflTransGen g.Links n m ∧ TransGen g.Links m m

theorem mem_nodes_of_leads (h : g.Leads n t) : n ∈ g.nodes := by
  obtain ⟨ts, hmem, -⟩ := h
  exact List.mem_map.2 ⟨(n, ts), hmem, rfl⟩

/-- A path that ends in a node passes through nodes only. -/
theorem transGen_links (h : TransGen g.Leads n t) (ht : t ∈ g.nodes) : TransGen g.Links n t := by
  induction h with
  | single hedge => exact .single ⟨hedge, ht⟩
  | tail _ hedge ih => exact (ih (mem_nodes_of_leads hedge)).tail ⟨hedge, ht⟩

theorem transGen_links_self : TransGen g.Links n n ↔ TransGen g.Leads n n := by
  constructor
  · exact TransGen.mono (fun _ _ => And.left) n n
  · intro h
    obtain ⟨t, hedge, -⟩ := TransGen.head'_iff.1 h
    exact transGen_links h (mem_nodes_of_leads hedge)

/-- The edges between nodes can be followed from a node only finitely far exactly when they do not lead into a
cycle. -/
theorem acc_iff : Acc (fun t n => g.Links n t) n ↔ ¬ g.ReachesCycle n := by
  constructor
  · rintro hacc ⟨m, hpath, hcycle⟩
    have hm : Acc (fun t n => g.Links n t) m := by
      clear hcycle
      induction hpath with
      | refl => exact hacc
      | tail _ hedge ih => exact ih.inv hedge
    have hnone : ∀ {m}, Acc (TransGen fun t n => g.Links n t) m → ¬ TransGen (fun t n => g.Links n t) m m :=
      fun h => h.recOn fun m _ ih hcycle => ih m hcycle hcycle
    exact hnone hm.transGen (Relation.transGen_swap.2 hcycle)
  · intro hnone
    -- there are finitely many nodes to be reached, so their order by reaching each other is well-founded
    have hfinite : Finite {m // ReflTransGen g.Links n m} := by
      refine Set.Finite.subset ((List.finite_toSet g.nodes).insert n) fun m hm => ?_
      rcases ReflTransGen.cases_tail hm with rfl | ⟨_, -, -, hnode⟩
      · exact Set.mem_insert _ _
      · exact Set.mem_insert_of_mem _ hnode
    have htrans : IsTrans {m // ReflTransGen g.Links n m} fun a b => TransGen g.Links b.1 a.1 :=
      ⟨fun _ _ _ hab hbc => hbc.trans hab⟩
    have hirrefl : Std.Irrefl fun a b : {m // ReflTransGen g.Links n m} => TransGen g.Links b.1 a.1 :=
      ⟨fun a hcycle => hnone ⟨a.1, a.2, hcycle⟩⟩
    have hwell := Finite.wellFounded_of_trans_of_irrefl
      fun a b : {m // ReflTransGen g.Links n m} => TransGen g.Links b.1 a.1
    have hacc : ∀ a : {m // ReflTransGen g.Links n m}, Acc (fun t n => g.Links n t) a.1 := by
      intro a
      induction a using hwell.induction with
      | _ a ih => exact .intro _ fun t hedge => ih ⟨t, a.2.tail hedge⟩ (.single hedge)
    exact hacc ⟨n, .refl⟩

/-! ## Listing until no node is ready -/

theorem mem_ready_of_targets {ts : List String} (hmem : (n, ts) ∈ g) (hfresh : n ∉ done)
    (hts : ∀ t ∈ ts, t ∈ done ∨ t ∉ g.nodes) : n ∈ g.ready done := by
  refine List.mem_map.2 ⟨(n, ts), List.mem_filter.2 ⟨hmem, ?_⟩, rfl⟩
  simpa [hfresh] using hts

theorem ready_or_length_orderFrom (fuel : Nat) (done : List String) :
    g.ready (g.orderFrom fuel done) = [] ∨ (g.orderFrom fuel done).length = done.length + fuel := by
  induction fuel generalizing done with
  | zero => exact .inr rfl
  | succ fuel ih =>
      unfold orderFrom
      split
      · rename_i hready
        exact .inl hready
      · rename_i n rest hready
        refine (ih (done ++ [n])).imp_right fun hlength => ?_
        rw [hlength, List.length_append, List.length_singleton]
        omega

/-- When the listing stops, no node is ready. -/
theorem ready_orderFrom_eq_nil (g : Graph) : g.ready (g.orderFrom g.length []) = [] := by
  rcases g.ready_or_length_orderFrom g.length [] with hready | hlength
  · exact hready
  · obtain ⟨hnodup, hsubset⟩ := nodup_orderFrom g.length List.nodup_nil (List.nil_subset g.nodes)
    have hall : g.nodes ⊆ g.orderFrom g.length [] := by
      have hnodes : g.nodes.length = g.length := List.length_map _
      refine ((hnodup.subperm hsubset).perm_of_length_le ?_).symm.subset
      rw [hlength, hnodes, List.length_nil, Nat.zero_add]
    refine List.eq_nil_iff_forall_not_mem.2 fun n hn => ?_
    exact not_mem_of_mem_ready hn (hall (mem_nodes_of_mem_ready hn))

/-- The nodes that are listed are those from which no cycle can be reached. -/
theorem mem_orderFrom (hg : g.Increasing) :
    n ∈ g.orderFrom g.length [] ↔ n ∈ g.nodes ∧ ¬ g.ReachesCycle n := by
  obtain ⟨-, hsubset⟩ := nodup_orderFrom g.length List.nodup_nil (List.nil_subset g.nodes)
  constructor
  · intro hn
    have hacc := acc_of_mem_orderFrom hg (by simp) n hn
    exact ⟨hsubset hn, acc_iff.1 hacc⟩
  · rintro ⟨hnode, hnone⟩
    have hacc := acc_iff.2 hnone
    clear hnone
    induction hacc with
    | intro n _ ih =>
        by_contra hleft
        obtain ⟨⟨m, ts⟩, hmem, hname⟩ := List.mem_map.1 hnode
        have hmem : (n, ts) ∈ g := hname ▸ hmem
        have hready : n ∈ g.ready (g.orderFrom g.length []) := by
          refine mem_ready_of_targets hmem hleft fun t ht => ?_
          by_cases htarget : t ∈ g.nodes
          · exact .inl (ih t ⟨⟨ts, hmem, ht⟩, htarget⟩ htarget)
          · exact .inr htarget
        rw [ready_orderFrom_eq_nil] at hready
        cases hready

/-- The nodes that are left over are those from which a cycle can be reached. -/
theorem mem_unlisted (hg : g.Increasing) : n ∈ g.unlisted ↔ n ∈ g.nodes ∧ g.ReachesCycle n := by
  have hfilter : n ∈ g.unlisted ↔ n ∈ g.nodes ∧ n ∉ g.orderFrom g.length [] := by
    simp [unlisted, List.mem_filter]
  rw [hfilter, mem_orderFrom hg]
  refine and_congr_right fun hnode => ?_
  rw [not_and, not_not]
  exact ⟨fun h => h hnode, fun h _ => h⟩

theorem unlisted_eq_nil_iff (hg : g.Increasing) : g.unlisted = [] ↔ ∀ n, ¬ TransGen g.Leads n n := by
  rw [List.eq_nil_iff_forall_not_mem]
  simp only [mem_unlisted hg, ← transGen_links_self]
  constructor
  · intro hnone n hcycle
    obtain ⟨t, hedge, -⟩ := TransGen.head'_iff.1 hcycle
    exact hnone n ⟨mem_nodes_of_leads hedge.1, n, .refl, hcycle⟩
  · rintro hnone n ⟨-, m, -, hcycle⟩
    exact hnone m hcycle

/-- A graph has an order exactly when it has no cycle. -/
theorem isSome_order_iff_acyclic (hg : g.Increasing) : g.order?.isSome ↔ ∀ n, ¬ TransGen g.Leads n n := by
  rw [isSome_order_iff hg, unlisted_eq_nil_iff hg]

/-! ## The order -/

/-- Each node of a list comes after its targets. -/
def TargetsFirst (g : Graph) (order : List String) : Prop :=
  ∀ before n after, order = before ++ n :: after → ∀ t, g.Links n t → t ∈ before

theorem TargetsFirst.snoc (h : g.TargetsFirst done) (hn : ∀ t, g.Links n t → t ∈ done) :
    g.TargetsFirst (done ++ [n]) := by
  intro before m after hsplit t hedge
  rcases List.eq_nil_or_concat' after with rfl | ⟨inner, last, rfl⟩
  · obtain ⟨rfl, hlast⟩ := List.append_inj' hsplit rfl
    cases hlast
    exact hn t hedge
  · have hsplit' : done ++ [n] = (before ++ m :: inner) ++ [last] := by
      rw [hsplit, List.append_assoc, List.cons_append]
    obtain ⟨hinner, -⟩ := List.append_inj' hsplit' rfl
    exact h before m inner hinner t hedge

theorem TargetsFirst.orderFrom (hg : g.Increasing) (fuel : Nat) (h : g.TargetsFirst done) :
    g.TargetsFirst (g.orderFrom fuel done) := by
  induction fuel generalizing done with
  | zero => exact h
  | succ fuel ih =>
      unfold Graph.orderFrom
      split
      · exact h
      · rename_i n rest hready
        obtain ⟨ts, hmem, hts⟩ := mem_ready (hready ▸ List.mem_cons_self)
        refine ih (h.snoc fun t hedge => ?_)
        obtain ⟨⟨ts', hmem', ht⟩, hnode⟩ := hedge
        rw [hg.eq_of_mem hmem' hmem] at ht
        exact (hts t ht).resolve_right (not_not_intro hnode)

/-- The order of a graph has each node once, after its targets. -/
theorem order?_eq_some (hg : g.Increasing) (h : g.order? = some order) :
    order.Perm g.nodes ∧ g.TargetsFirst order := by
  unfold order? at h
  dsimp only at h
  split at h
  · rename_i hlength
    cases h
    obtain ⟨hnodup, hsubset⟩ := nodup_orderFrom g.length List.nodup_nil (List.nil_subset g.nodes)
    have hnodes : g.nodes.length = g.length := List.length_map _
    refine ⟨(hnodup.subperm hsubset).perm_of_length_le (by omega), ?_⟩
    refine TargetsFirst.orderFrom hg _ fun before n after hsplit => ?_
    simp at hsplit
  · cases h

/-! ## Targets -/

theorem mem_targets (hg : g.Increasing) : t ∈ g.targets n ↔ g.Leads n t := by
  unfold targets
  constructor
  · intro ht
    split at ht
    · rename_i m ts hfound
      have hname : m = n := by simpa using List.find?_some hfound
      subst hname
      exact ⟨ts, List.mem_of_find?_eq_some hfound, ht⟩
    · cases ht
  · rintro ⟨ts, hmem, ht⟩
    split
    · rename_i m ts' hfound
      have hname : m = n := by simpa using List.find?_some hfound
      subst hname
      rw [hg.eq_of_mem (List.mem_of_find?_eq_some hfound) hmem]
      exact ht
    · rename_i hnone
      have hne := List.find?_eq_none.1 hnone (n, ts) hmem
      simp at hne

/-! ## Reaching

A node is taken from the stack as often as it is put there, which the targets of a node are at most once. -/

/-- How many targets the nodes that were not visited have together. -/
def pending : Graph → (visited : List String) → Nat
  | [], _ => 0
  | p :: rest, visited => (if p.1 ∈ visited then 0 else p.2.length) + pending rest visited

theorem pending_nil : g.pending [] = g.edgeCount := by
  have hfold : ∀ count, g.foldl (fun n p => n + p.2.length) count = count + g.pending [] := by
    induction g with
    | nil => exact fun count => rfl
    | cons p rest ih =>
        intro count
        rw [List.foldl_cons, ih, pending, if_neg List.not_mem_nil, Nat.add_assoc]
  rw [edgeCount, hfold, Nat.zero_add]

/-- Visiting what is not a node leaves as much pending. -/
theorem pending_of_not_mem (hn : n ∉ g.nodes) (visited : List String) :
    g.pending (n :: visited) = g.pending visited := by
  induction g with
  | nil => rfl
  | cons p rest ih =>
      obtain ⟨hne, hrest⟩ := not_or.1 (mt List.mem_cons.2 hn)
      rw [pending, pending, ih hrest]
      simp [Ne.symm hne]

/-- The targets of a node are not pending any more when it is visited. -/
theorem pending_visit (hg : g.Increasing) {visited : List String} (hfresh : n ∉ visited) :
    (g.targets n).length + g.pending (n :: visited) = g.pending visited := by
  induction g with
  | nil => rfl
  | cons p rest ih =>
      obtain ⟨hfirst, hrest⟩ := List.pairwise_cons.1 hg
      rw [pending, pending]
      by_cases hname : p.1 = n
      · have hlater : n ∉ nodes rest := by
          intro hn
          obtain ⟨q, hq, rfl⟩ := List.mem_map.1 hn
          exact String.lt_irrefl q.1 (hname ▸ hfirst q hq)
        have htargets : targets (p :: rest) n = p.2 := by simp [targets, hname]
        rw [pending_of_not_mem hlater, htargets, hname]
        simp [hfresh]
      · have htargets : targets (p :: rest) n = targets rest n := by simp [targets, hname]
        rw [htargets, ← ih hrest]
        simp [hname, Nat.add_left_comm]

/-- What the search for the targets of a node takes from the stack, if it goes on to the end. -/
theorem length_targets_add_pending_le (hg : g.Increasing) (n : String) :
    (g.targets n).reverse.length + g.pending [] ≤ 2 * g.edgeCount := by
  have hvisit := pending_visit hg (List.not_mem_nil (a := n))
  rw [pending_nil] at hvisit ⊢
  rw [List.length_reverse]
  omega

/-- What is found can be reached from a node of the stack. -/
theorem exists_of_findsFrom (hg : g.Increasing) {fuel : Nat} {stack visited : List String}
    (h : g.findsFrom t fuel stack visited = true) : ∃ n ∈ stack, ReflTransGen g.Leads n t := by
  induction fuel generalizing stack visited with
  | zero => cases h
  | succ fuel ih =>
      cases stack with
      | nil => cases h
      | cons node stack =>
          unfold findsFrom at h
          split at h
          · rename_i hfound
            exact ⟨node, List.mem_cons_self, hfound ▸ .refl⟩
          · split at h
            · obtain ⟨n, hn, hpath⟩ := ih h
              exact ⟨n, List.mem_cons_of_mem _ hn, hpath⟩
            · obtain ⟨n, hn, hpath⟩ := ih h
              rcases List.mem_append.1 hn with htarget | hn
              · have hedge := (mem_targets hg).1 (List.mem_reverse.1 htarget)
                exact ⟨node, List.mem_cons_self, hpath.head hedge⟩
              · exact ⟨n, List.mem_cons_of_mem _ hn, hpath⟩

/-- Everything one edge away from some names is among them. -/
def Closed (g : Graph) (names : List String) : Prop := ∀ n ∈ names, ∀ t ∈ g.targets n, t ∈ names

theorem Closed.mem_of_path (hg : g.Increasing) (h : g.Closed names) (hn : n ∈ names)
    (hpath : ReflTransGen g.Leads n x) : x ∈ names := by
  induction hpath with
  | refl => exact hn
  | tail _ hedge ih => exact h _ ih _ ((mem_targets hg).2 hedge)

/-- A search has come so far without its target, and has not lost sight of any node one edge away from those it
visited. -/
structure Searched (g : Graph) (t : String) (stack visited : List String) : Prop where
  missed : t ∉ visited
  seen : ∀ n ∈ visited, ∀ x ∈ g.targets n, x ∈ visited ∨ x ∈ stack

section Search

variable {stack visited : List String} {node : String}

theorem searched_nil (g : Graph) (t : String) (stack : List String) : g.Searched t stack [] :=
  ⟨List.not_mem_nil, nofun⟩

/-- A node that was visited can be taken from the stack. -/
theorem Searched.skip (h : g.Searched t (node :: stack) visited) (hvisited : node ∈ visited) :
    g.Searched t stack visited := by
  refine ⟨h.missed, fun n hn x hx => ?_⟩
  rcases h.seen n hn x hx with hx | hx
  · exact .inl hx
  · rcases List.mem_cons.1 hx with rfl | hx
    · exact .inl hvisited
    · exact .inr hx

theorem Searched.visit (h : g.Searched t (node :: stack) visited) (hother : node ≠ t) :
    g.Searched t ((g.targets node).reverse ++ stack) (node :: visited) := by
  refine ⟨fun ht => ?_, fun n hn x hx => ?_⟩
  · rcases List.mem_cons.1 ht with rfl | ht
    · exact hother rfl
    · exact h.missed ht
  · rcases List.mem_cons.1 hn with rfl | hn
    · exact .inr (List.mem_append_left _ (List.mem_reverse.2 hx))
    · rcases h.seen n hn x hx with hx | hx
      · exact .inl (List.mem_cons_of_mem _ hx)
      · rcases List.mem_cons.1 hx with rfl | hx
        · exact .inl List.mem_cons_self
        · exact .inr (List.mem_append_right _ hx)

theorem Searched.closed (h : g.Searched t [] visited) : g.Closed visited :=
  fun n hn x hx => (h.seen n hn x hx).resolve_right List.not_mem_nil

/-- Where nothing is found although the fuel is enough, everything on the stack is in a closed list without the
target. -/
theorem Searched.exists_closed (hg : g.Increasing) {fuel : Nat} (hs : g.Searched t stack visited)
    (hfuel : stack.length + g.pending visited ≤ fuel) (h : g.findsFrom t fuel stack visited = false) :
    ∃ names, g.Closed names ∧ visited ⊆ names ∧ stack ⊆ names ∧ t ∉ names := by
  induction fuel generalizing stack visited with
  | zero =>
      obtain rfl : stack = [] := List.length_eq_zero_iff.1 (by omega)
      exact ⟨visited, hs.closed, List.Subset.refl _, List.nil_subset _, hs.missed⟩
  | succ fuel ih =>
      cases stack with
      | nil => exact ⟨visited, hs.closed, List.Subset.refl _, List.nil_subset _, hs.missed⟩
      | cons node stack =>
          rw [List.length_cons] at hfuel
          unfold findsFrom at h
          split at h
          · cases h
          · rename_i hother
            split at h
            · rename_i hvisited
              have hvisited : node ∈ visited := List.contains_iff_mem.1 hvisited
              obtain ⟨names, hclosed, hvisits, hstack, hmissed⟩ := ih (hs.skip hvisited) (by omega) h
              exact ⟨names, hclosed, hvisits, List.cons_subset.2 ⟨hvisits hvisited, hstack⟩, hmissed⟩
            · rename_i hfresh
              have hvisit := pending_visit hg (mt List.contains_iff_mem.2 hfresh)
              have hfuel' : ((g.targets node).reverse ++ stack).length + g.pending (node :: visited) ≤ fuel := by
                rw [List.length_append, List.length_reverse]
                omega
              obtain ⟨names, hclosed, hvisits, hstack, hmissed⟩ := ih (hs.visit hother) hfuel' h
              obtain ⟨hnode, hvisits⟩ := List.cons_subset.1 hvisits
              exact ⟨names, hclosed, hvisits,
                List.cons_subset.2 ⟨hnode, (List.append_subset.1 hstack).2⟩, hmissed⟩

end Search

/-- A node reaches another one exactly when a path of one or more edges leads there. -/
theorem reaches_iff (hg : g.Increasing) : g.reaches n x ↔ TransGen g.Leads n x := by
  constructor
  · intro h
    obtain ⟨t, ht, hpath⟩ := exists_of_findsFrom hg h
    exact .head' ((mem_targets hg).1 (List.mem_reverse.1 ht)) hpath
  · intro hpath
    by_contra hmiss
    obtain ⟨names, hclosed, -, hstack, hmissed⟩ := (searched_nil g x _).exists_closed hg
      (length_targets_add_pending_le hg n) (Bool.eq_false_of_not_eq_true hmiss)
    obtain ⟨t, hedge, hpath⟩ := TransGen.head'_iff.1 hpath
    have ht : t ∈ names := hstack (List.mem_reverse.2 ((mem_targets hg).2 hedge))
    exact hmissed (hclosed.mem_of_path hg ht hpath)

theorem isRecursive_iff (hg : g.Increasing) : g.isRecursive n ↔ TransGen g.Leads n n := reaches_iff hg

end Graph
end Specimen
