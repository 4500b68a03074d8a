import Specimen.Proofs.Graph.Cycles

/-!
# Listing by counting

Nodes are listed by counting for each of them how many nodes it still waits for.  When a node is listed, the counts
of those that wait for it go down by one, and a node whose count comes to zero is ready.

The counts are always those of the targets that are not listed, so at each point the same nodes are ready as if all
targets were looked at again.  A listing in which no node waits for itself is that of the graph without its loops,
and one that counts all targets is no different when all of them are nodes.
-/

open Relation (ReflTransGen TransGen)

namespace Specimen
namespace Graph

variable {g : Graph} {n t : String} {done : List String}

/-- A graph whose nodes stand in increasing order and have their targets once each. -/
structure Orderly (g : Graph) : Prop where
  increasing : g.Increasing
  nodup : ∀ p ∈ g, p.2.Nodup

theorem Orderly.nil : Orderly [] := ⟨.nil, nofun⟩

theorem nodup_of_increasing {l : List String} (h : l.Pairwise (· < ·)) : l.Nodup := by
  refine h.imp ?_
  rintro a _ hlt rfl
  exact String.lt_irrefl a hlt

theorem nodup_sorted (names : List String) : (sorted names).Nodup := nodup_of_increasing (pairwise_sorted names)

theorem nodup_of_mem_add (h : ∀ p ∈ g, p.2.Nodup) {node : String} {targets : List String} :
    ∀ p ∈ g.add node targets, p.2.Nodup := by
  induction g with
  | nil =>
      intro p hp
      rw [List.mem_singleton.1 hp]
      exact nodup_sorted targets
  | cons q rest ih =>
      obtain ⟨hq, hrest⟩ := List.forall_mem_cons.1 h
      unfold add
      split
      · exact List.forall_mem_cons.2 ⟨nodup_sorted targets, h⟩
      · split
        · exact List.forall_mem_cons.2 ⟨nodup_sorted _, hrest⟩
        · exact List.forall_mem_cons.2 ⟨hq, ih hrest⟩

theorem Orderly.add (hg : g.Orderly) (node : String) (targets : List String) : (g.add node targets).Orderly :=
  ⟨hg.increasing.add node targets, nodup_of_mem_add hg.nodup⟩

/-! ## What a node still waits for -/

/-- The nodes that a node still waits for when some are listed. -/
def awaited (g : Graph) (done : List String) (p : String × List String) : List String :=
  p.2.filter fun t => g.nodes.contains t && !done.contains t

theorem mem_awaited {p : String × List String} :
    t ∈ g.awaited done p ↔ t ∈ p.2 ∧ t ∈ g.nodes ∧ t ∉ done := by
  simp [awaited]

theorem awaited_eq_nil_iff {p : String × List String} :
    g.awaited done p = [] ↔ ∀ t ∈ p.2, t ∈ done ∨ t ∉ g.nodes := by
  rw [List.eq_nil_iff_forall_not_mem]
  simp only [mem_awaited]
  grind

theorem targets_of_mem (hg : g.Increasing) {p : String × List String} (hp : p ∈ g) : g.targets p.1 = p.2 := by
  unfold targets
  cases hfind : g.find? fun q => q.1 == p.1 with
  | none =>
      have hnot := List.find?_eq_none.1 hfind p hp
      simp at hnot
  | some q =>
      obtain ⟨n, ts⟩ := q
      have hname : n = p.1 := by simpa using List.find?_some hfind
      subst hname
      exact hg.eq_of_mem (List.mem_of_find?_eq_some hfind) hp

theorem hasEdge_iff (hg : g.Increasing) {p : String × List String} (hp : p ∈ g) :
    g.hasEdge p.1 t = true ↔ t ∈ p.2 := by
  rw [hasEdge, targets_of_mem hg hp, List.contains_iff_mem]

/-- Nodes that do not wait for a node wait for the same as before when it is listed. -/
theorem awaited_snoc_of_not_mem {p : String × List String} (hnot : t ∉ p.2) :
    g.awaited (done ++ [t]) p = g.awaited done p := by
  unfold awaited
  refine List.filter_congr fun x hx => ?_
  have hne : x ≠ t := fun heq => hnot (heq ▸ hx)
  simp [hne]

/-- A node that waits for another one waits for one node less when that is listed. -/
theorem length_awaited_snoc (hg : g.Orderly) {p : String × List String} (hp : p ∈ g) (ht : t ∈ p.2)
    (hnode : t ∈ g.nodes) (hfresh : t ∉ done) :
    (g.awaited (done ++ [t]) p).length = (g.awaited done p).length - 1 := by
  have hmem : t ∈ g.awaited done p := mem_awaited.2 ⟨ht, hnode, hfresh⟩
  have hnodup : (g.awaited done p).Nodup := (hg.nodup p hp).filter _
  have herase : g.awaited (done ++ [t]) p = (g.awaited done p).erase t := by
    rw [hnodup.erase_eq_filter]
    unfold awaited
    rw [List.filter_filter]
    refine List.filter_congr fun x _ => ?_
    by_cases hxt : x = t
    · simp [hxt]
    · simp [hxt]
  rw [herase, List.length_erase_of_mem hmem]

/-! ## Ready nodes -/

theorem mem_ready_iff : n ∈ g.ready done ↔ ∃ ts, (n, ts) ∈ g ∧ n ∉ done ∧ g.awaited done (n, ts) = [] := by
  simp only [awaited_eq_nil_iff]
  constructor
  · intro hn
    obtain ⟨ts, hmem, hts⟩ := mem_ready hn
    exact ⟨ts, hmem, not_mem_of_mem_ready hn, hts⟩
  · rintro ⟨ts, hmem, hfresh, hts⟩
    exact mem_ready_of_targets hmem hfresh hts

theorem increasing_ready (hg : g.Increasing) (done : List String) : (g.ready done).Pairwise (· < ·) :=
  List.pairwise_map.2 (hg.sublist List.filter_sublist)

/-- Increasing lists with the same members are equal. -/
theorem eq_of_increasing {l l' : List String} (h : l.Pairwise (· < ·)) (h' : l'.Pairwise (· < ·))
    (hmem : ∀ x, x ∈ l ↔ x ∈ l') : l = l' := by
  have hperm : l.Perm l' :=
    (List.perm_ext_iff_of_nodup (nodup_of_increasing h) (nodup_of_increasing h')).2 hmem
  refine hperm.eq_of_pairwise (fun a b _ _ hab hba => ?_) h h'
  exact absurd (String.lt_trans hab hba) (String.lt_irrefl a)

theorem increasing_foldl_insertSorted (names : List String) {l : List String} (h : l.Pairwise (· < ·)) :
    (names.foldl (fun done s => insertSorted s done) l).Pairwise (· < ·) :=
  List.foldlRecOn names _ h fun _ h _ _ => pairwise_insertSorted h

/-! ## The listing -/

/-- What a listing keeps is what it would find if it looked at all targets again. -/
structure Listing.Reflects (g : Graph) (l : Listing) : Prop where
  waiting : l.waiting = g.map fun p => (p.1, (g.awaited l.listed p).length)
  ready : l.ready = g.ready l.listed
  /-- A node that is listed waits for nothing. -/
  settled : ∀ p ∈ g, p.1 ∈ l.listed → g.awaited l.listed p = []

/-- A node that still waits for something is not listed. -/
theorem Listing.Reflects.not_mem_listed {l : Listing} (h : l.Reflects g) {p : String × List String} (hp : p ∈ g)
    (ht : t ∈ g.awaited l.listed p) : p.1 ∉ l.listed := by
  intro hlisted
  rw [h.settled p hp hlisted] at ht
  cases ht

/-- The names of what is counted in a certain way. -/
theorem mem_names {P : String × Nat → Bool} :
    n ∈ ((g.map fun p => (p.1, (g.awaited done p).length)).filter P).map (·.1) ↔
      ∃ ts, (n, ts) ∈ g ∧ P (n, (g.awaited done (n, ts)).length) = true := by
  constructor
  · intro hn
    obtain ⟨q, hq, rfl⟩ := List.mem_map.1 hn
    obtain ⟨hmem, hP⟩ := List.mem_filter.1 hq
    obtain ⟨p, hp, rfl⟩ := List.mem_map.1 hmem
    exact ⟨p.2, hp, hP⟩
  · rintro ⟨ts, hmem, hP⟩
    exact List.mem_map.2 ⟨_, List.mem_filter.2 ⟨List.mem_map_of_mem hmem, hP⟩, rfl⟩

theorem increasing_names (hg : g.Increasing) (P : String × Nat → Bool) :
    (((g.map fun p => (p.1, (g.awaited done p).length)).filter P).map (·.1)).Pairwise (· < ·) := by
  have hcounts : (g.map fun p => (p.1, (g.awaited done p).length)).Pairwise fun a b => a.1 < b.1 :=
    List.pairwise_map.2 hg
  exact List.pairwise_map.2 (hcounts.sublist List.filter_sublist)

theorem Listing.reflects_start (hg : g.Increasing) :
    (Listing.start (g.waiting fun _ t => g.nodes.contains t)).Reflects g := by
  have hwaiting : (g.waiting fun _ t => g.nodes.contains t) =
      g.map fun p => (p.1, (g.awaited [] p).length) := by
    unfold Graph.waiting awaited
    simp
  refine ⟨hwaiting, ?_, fun p _ hp => nomatch hp⟩
  unfold Listing.start
  dsimp only
  rw [hwaiting]
  refine eq_of_increasing (increasing_names hg _) (increasing_ready hg []) fun x => ?_
  rw [mem_names, mem_ready_iff]
  simp

/-- What waits for nothing still waits for nothing when another node is listed. -/
theorem awaited_snoc_eq_nil {p : String × List String} (h : g.awaited done p = []) (t : String) :
    g.awaited (done ++ [t]) p = [] := by
  rw [awaited_eq_nil_iff] at h ⊢
  intro x hx
  exact (h x hx).imp_left (List.mem_append_left _)

/-- The counts go down as targets are listed. -/
theorem waiting_list (hg : g.Orderly) {l : Listing} (h : l.Reflects g) (others : List String)
    (hnode : n ∈ g.nodes) (hfresh : n ∉ l.listed) :
    (l.list g.hasEdge n others).waiting = g.map fun p => (p.1, (g.awaited (l.listed ++ [n]) p).length) := by
  unfold Listing.list
  dsimp only
  rw [h.waiting, List.map_map]
  refine List.map_congr_left fun p hp => ?_
  dsimp only [Function.comp]
  split
  · rename_i hedge
    rw [length_awaited_snoc hg hp ((hasEdge_iff hg.increasing hp).1 hedge) hnode hfresh]
  · rename_i hnot
    rw [awaited_snoc_of_not_mem (mt (hasEdge_iff hg.increasing hp).2 hnot)]

/-- What is ready after a node is listed: what was ready, and what was waiting for just this node. -/
theorem ready_list (hg : g.Orderly) {l : Listing} (h : l.Reflects g) {others : List String}
    (hready : l.ready = n :: others) :
    (l.list g.hasEdge n others).ready = g.ready (l.listed ++ [n]) := by
  have hincreasing := increasing_ready hg.increasing l.listed
  rw [← h.ready, hready] at hincreasing
  obtain ⟨hleast, hothers⟩ := List.pairwise_cons.1 hincreasing
  have hmem : ∀ x, x ∈ n :: others ↔ ∃ ts, (x, ts) ∈ g ∧ x ∉ l.listed ∧ g.awaited l.listed (x, ts) = [] := by
    intro x
    rw [← hready, h.ready, mem_ready_iff]
  obtain ⟨ns, hn, hfresh, hnone⟩ := (hmem n).1 List.mem_cons_self
  have hnode : n ∈ g.nodes := List.mem_map.2 ⟨(n, ns), hn, rfl⟩
  have hwaiting := waiting_list hg h others hnode hfresh
  refine eq_of_increasing (increasing_foldl_insertSorted _ hothers)
    (increasing_ready hg.increasing _) fun x => ?_
  change x ∈ (((l.list g.hasEdge n others).waiting.filter fun p => g.hasEdge p.1 n && p.2 == 0).map (·.1)).foldl
    (fun ready s => insertSorted s ready) others ↔ _
  rw [mem_foldl_insertSorted, mem_ready_iff, hwaiting, mem_names]
  constructor
  · rintro (⟨ts, hx, hcount⟩ | hx)
    · rw [Bool.and_eq_true, beq_iff_eq, List.length_eq_zero_iff] at hcount
      have hawaits : n ∈ g.awaited l.listed (x, ts) :=
        mem_awaited.2 ⟨(hasEdge_iff hg.increasing hx).1 hcount.1, hnode, hfresh⟩
      have hnot : x ∉ l.listed := h.not_mem_listed hx hawaits
      have hne : x ≠ n := by
        rintro rfl
        rw [hg.increasing.eq_of_mem hx hn, hnone] at hawaits
        cases hawaits
      exact ⟨ts, hx, by simpa using ⟨hnot, hne⟩, hcount.2⟩
    · obtain ⟨ts, hxg, hnot, hnone⟩ := (hmem x).1 (List.mem_cons_of_mem n hx)
      have hne : x ≠ n := by
        rintro rfl
        exact String.lt_irrefl x (hleast x hx)
      exact ⟨ts, hxg, by simpa using ⟨hnot, hne⟩, awaited_snoc_eq_nil hnone n⟩
  · rintro ⟨ts, hx, hnot, hnone⟩
    have hnot : x ∉ l.listed ∧ x ≠ n := by simpa using hnot
    cases hedge : g.hasEdge x n with
    | true => exact .inl ⟨ts, hx, by simp [hnone, hedge]⟩
    | false =>
        have htarget : n ∉ ts := fun hn => Bool.false_ne_true (hedge ▸ (hasEdge_iff hg.increasing hx).2 hn)
        rw [awaited_snoc_of_not_mem htarget] at hnone
        have hx' := (hmem x).2 ⟨ts, hx, hnot.1, hnone⟩
        exact .inr ((List.mem_cons.1 hx').resolve_left hnot.2)

theorem Listing.Reflects.list (hg : g.Orderly) {l : Listing} (h : l.Reflects g) {others : List String}
    (hready : l.ready = n :: others) : (l.list g.hasEdge n others).Reflects g := by
  obtain ⟨ns, hn, hfresh, hnone⟩ : ∃ ts, (n, ts) ∈ g ∧ n ∉ l.listed ∧ g.awaited l.listed (n, ts) = [] := by
    rw [← mem_ready_iff, ← h.ready, hready]
    exact List.mem_cons_self
  refine ⟨waiting_list hg h others (List.mem_map.2 ⟨(n, ns), hn, rfl⟩) hfresh, ready_list hg h hready, ?_⟩
  intro p hp hlisted
  rcases List.mem_append.1 hlisted with hearlier | hlast
  · exact awaited_snoc_eq_nil (h.settled p hp hearlier) n
  · obtain ⟨m, ts⟩ := p
    obtain rfl : m = n := List.mem_singleton.1 hlast
    rw [hg.increasing.eq_of_mem hp hn]
    exact awaited_snoc_eq_nil hnone m

section Rounds

variable {waitsFor : String → String → Bool}

theorem Listing.advance_of_ready_eq_nil {l : Listing} (hready : l.ready = []) (fuel : Nat) :
    l.advance waitsFor fuel = l := by
  cases fuel with
  | zero => rfl
  | succ fuel =>
      unfold Listing.advance
      rw [hready]

theorem Listing.advance_of_ready_eq_cons {l : Listing} {others : List String} (hready : l.ready = n :: others)
    (fuel : Nat) : l.advance waitsFor (fuel + 1) = (l.list waitsFor n others).advance waitsFor fuel := by
  rw [advance, hready]

end Rounds

theorem Listing.Reflects.advance (hg : g.Orderly) (fuel : Nat) {l : Listing} (h : l.Reflects g) :
    (l.advance g.hasEdge fuel).Reflects g ∧ (l.advance g.hasEdge fuel).listed = g.orderFrom fuel l.listed := by
  induction fuel generalizing l with
  | zero => exact ⟨h, rfl⟩
  | succ fuel ih =>
      unfold orderFrom
      rw [← h.ready]
      cases hready : l.ready with
      | nil =>
          rw [advance_of_ready_eq_nil hready]
          exact ⟨h, rfl⟩
      | cons n others =>
          rw [advance_of_ready_eq_cons hready]
          exact ih (h.list hg hready)

/-! ## The result -/

/-- What waits for something to the end are the nodes that are left unlisted. -/
theorem waiting_eq_unlisted (hg : g.Increasing) {l : Listing} (h : l.Reflects g)
    (hlisted : l.listed = g.orderFrom g.length []) :
    (l.waiting.filter fun p => decide (0 < p.2)).map (·.1) = g.unlisted := by
  have hstopped := ready_orderFrom_eq_nil g
  rw [← hlisted] at hstopped
  have hunlisted : g.unlisted = g.nodes.filter fun n => !l.listed.contains n := by
    unfold unlisted
    rw [hlisted]
  have hnodes : g.nodes.Pairwise (· < ·) := List.pairwise_map.2 hg
  rw [h.waiting, hunlisted]
  refine eq_of_increasing (increasing_names hg _) (hnodes.sublist List.filter_sublist) fun x => ?_
  rw [mem_names, List.mem_filter, Bool.not_eq_true', ← Bool.not_eq_true, List.contains_iff_mem]
  constructor
  · rintro ⟨ts, hx, hcount⟩
    refine ⟨List.mem_map.2 ⟨(x, ts), hx, rfl⟩, fun hdone => ?_⟩
    rw [h.settled (x, ts) hx hdone] at hcount
    cases hcount
  · rintro ⟨hx, hleft⟩
    obtain ⟨⟨m, ts⟩, hmem, rfl⟩ := List.mem_map.1 hx
    refine ⟨ts, hmem, decide_eq_true (List.length_pos_iff.2 fun hnone => ?_)⟩
    have hready := mem_ready_iff.2 ⟨ts, hmem, hleft, hnone⟩
    rw [hstopped] at hready
    cases hready

/-- Counting comes to the same as looking at all targets again. -/
theorem targetsFirst_eq (hg : g.Orderly) :
    g.targetsFirst = match g.order? with
      | some order => .ok order
      | none => .error g.unlisted := by
  obtain ⟨hreflects, hlisted⟩ := (Listing.reflects_start hg.increasing).advance hg g.length
  change _ = g.orderFrom g.length [] at hlisted
  have hleft := waiting_eq_unlisted hg.increasing hreflects hlisted
  unfold targetsFirst listing order?
  dsimp only
  rw [hleft, hlisted]
  split
  · rfl
  · rfl

theorem toOption_targetsFirst (hg : g.Orderly) : g.targetsFirst.toOption = g.order? := by
  rw [targetsFirst_eq hg]
  cases g.order? with
  | some order => rfl
  | none => rfl

/-- When all targets are nodes, it makes no difference whether the others are counted. -/
theorem listing_all_eq_targetsFirst (h : ∀ p ∈ g, ∀ t ∈ p.2, t ∈ g.nodes) :
    g.listing (fun _ _ => true) g.hasEdge = g.targetsFirst := by
  have hcounts : (g.waiting fun _ _ => true) = g.waiting fun _ t => g.nodes.contains t := by
    refine List.map_congr_left fun p hp => ?_
    have hsame : (p.2.filter fun _ => true) = p.2.filter fun t => g.nodes.contains t :=
      List.filter_congr fun t ht => (List.contains_iff_mem.2 (h p hp t ht)).symm
    rw [hsame]
  unfold targetsFirst listing
  rw [hcounts]

/-! ## No node waits for itself -/

theorem Orderly.withoutLoops (hg : g.Orderly) : g.withoutLoops.Orderly := by
  refine ⟨hg.increasing.withoutLoops, fun p hp => ?_⟩
  obtain ⟨q, hq, rfl⟩ := List.mem_map.1 hp
  exact (hg.nodup q hq).filter _

theorem targets_withoutLoops (g : Graph) (n : String) :
    g.withoutLoops.targets n = (g.targets n).filter (· != n) := by
  induction g with
  | nil => rfl
  | cons p rest ih =>
      unfold withoutLoops targets at ih ⊢
      by_cases hname : p.1 = n
      · simp [hname]
      · simpa [hname] using ih

theorem hasEdge_withoutLoops (g : Graph) : g.withoutLoops.hasEdge = fun n t => n != t && g.hasEdge n t := by
  funext n t
  rw [hasEdge, hasEdge, targets_withoutLoops, bne_comm, Bool.eq_iff_iff, Bool.and_eq_true, List.contains_iff_mem,
    List.contains_iff_mem, List.mem_filter, and_comm]

/-- A listing in which no node waits for itself is that of the graph without its loops. -/
theorem toposort_eq_withoutLoops (g : Graph) : g.toposort = g.withoutLoops.targetsFirst := by
  have hlength : g.withoutLoops.length = g.length := List.length_map _
  have hcounts : (g.waiting fun n t => g.nodes.contains t && t != n) =
      g.withoutLoops.waiting fun _ t => g.withoutLoops.nodes.contains t := by
    rw [nodes_withoutLoops]
    unfold waiting withoutLoops
    rw [List.map_map]
    refine List.map_congr_left fun p _ => ?_
    dsimp only [Function.comp]
    rw [List.filter_filter]
  unfold toposort targetsFirst listing
  rw [hcounts, hasEdge_withoutLoops, hlength]

theorem toposort_eq (hg : g.Orderly) :
    g.toposort = match g.withoutLoops.order? with
      | some order => .ok order
      | none => .error g.withoutLoops.unlisted := by
  rw [toposort_eq_withoutLoops, targetsFirst_eq hg.withoutLoops]

theorem stuck_eq (hg : g.Orderly) : g.stuck = g.withoutLoops.unlisted := by
  unfold stuck
  rw [toposort_eq hg]
  have hiff := isSome_order_iff hg.increasing.withoutLoops
  cases horder : g.withoutLoops.order? with
  | some order => exact (hiff.1 (horder ▸ rfl)).symm
  | none => rfl

/-- When no node is stuck, only loops can be followed without end. -/
theorem wellFounded_of_stuck_eq_nil (hg : g.Orderly) (h : g.stuck = []) :
    WellFounded fun t n => g.Leads n t ∧ t ≠ n ∧ t ∈ g.nodes := by
  have hwell := wellFounded_of_unlisted_eq_nil hg.increasing.withoutLoops (stuck_eq hg ▸ h)
  simpa only [leads_withoutLoops, nodes_withoutLoops, and_assoc] using hwell

/-! ## Cycles through different nodes -/

section Relations

variable {α : Type} {r : α → α → Prop} {a b : α}

/-- Something is on a cycle that passes through something else. -/
def OnCycle (r : α → α → Prop) (a : α) : Prop := ∃ b, b ≠ a ∧ TransGen r a b ∧ TransGen r b a

/-- A path need not take steps that lead nowhere. -/
theorem reflTransGen_ne : ReflTransGen (fun a b => r a b ∧ b ≠ a) a b ↔ ReflTransGen r a b := by
  constructor
  · exact ReflTransGen.mono (fun _ _ => And.left) _ _
  · intro h
    induction h with
    | refl => exact .refl
    | @tail b c _ hstep ih =>
        by_cases hsame : c = b
        · exact hsame ▸ ih
        · exact ih.tail ⟨hstep, hsame⟩

theorem transGen_ne_self : TransGen (fun a b => r a b ∧ b ≠ a) a a ↔ OnCycle r a := by
  constructor
  · intro h
    obtain ⟨b, ⟨hstep, hne⟩, hback⟩ := TransGen.head'_iff.1 h
    have hback' : ReflTransGen r b a := reflTransGen_ne.1 hback
    exact ⟨b, hne, .single hstep, (Relation.reflTransGen_iff_eq_or_transGen.1 hback').resolve_left hne.symm⟩
  · rintro ⟨b, hne, hthere, hback⟩
    have hthere' := (Relation.reflTransGen_iff_eq_or_transGen.1 (reflTransGen_ne.2 hthere.to_reflTransGen))
    exact TransGen.trans_left (hthere'.resolve_left hne) (reflTransGen_ne.2 hback.to_reflTransGen)

end Relations

theorem links_withoutLoops : g.withoutLoops.Links = fun n t => g.Links n t ∧ t ≠ n := by
  funext n t
  unfold Links
  rw [leads_withoutLoops, nodes_withoutLoops]
  exact propext and_right_comm

/-- Whatever is on a cycle is a node, and the cycle passes through nodes. -/
theorem onCycle_links : OnCycle g.Links n ↔ OnCycle g.Leads n := by
  constructor
  · rintro ⟨t, hne, hthere, hback⟩
    exact ⟨t, hne, TransGen.mono (fun _ _ => And.left) _ _ hthere, TransGen.mono (fun _ _ => And.left) _ _ hback⟩
  · rintro ⟨t, hne, hthere, hback⟩
    have hnode : ∀ {x y}, TransGen g.Leads x y → x ∈ g.nodes := fun h => by
      obtain ⟨_, hstep, -⟩ := TransGen.head'_iff.1 h
      exact mem_nodes_of_leads hstep
    exact ⟨t, hne, transGen_links hthere (hnode hback), transGen_links hback (hnode hthere)⟩

/-- What reaches a cycle without loops reaches a cycle through different nodes. -/
theorem reachesCycle_withoutLoops :
    g.withoutLoops.ReachesCycle n ↔ ∃ m, ReflTransGen g.Leads n m ∧ OnCycle g.Leads m := by
  unfold ReachesCycle
  simp only [links_withoutLoops, reflTransGen_ne, transGen_ne_self, onCycle_links]
  refine exists_congr fun m => and_congr_left fun hcycle => ?_
  constructor
  · exact ReflTransGen.mono (fun _ _ => And.left) _ _
  · intro hpath
    obtain ⟨_, -, hthere, -⟩ := hcycle
    obtain ⟨_, hstep, -⟩ := TransGen.head'_iff.1 hthere
    rcases Relation.reflTransGen_iff_eq_or_transGen.1 hpath with rfl | hpath
    · exact .refl
    · exact (transGen_links hpath (mem_nodes_of_leads hstep)).to_reflTransGen

/-- The nodes that are stuck are those from which a cycle through different nodes can be reached. -/
theorem mem_stuck (hg : g.Orderly) :
    n ∈ g.stuck ↔ n ∈ g.nodes ∧ ∃ m, ReflTransGen g.Leads n m ∧ OnCycle g.Leads m := by
  rw [stuck_eq hg, mem_unlisted hg.increasing.withoutLoops, nodes_withoutLoops, reachesCycle_withoutLoops]

theorem stuck_eq_nil_iff (hg : g.Orderly) : g.stuck = [] ↔ ∀ n, ¬ OnCycle g.Leads n := by
  rw [List.eq_nil_iff_forall_not_mem]
  simp only [mem_stuck hg, not_and, not_exists]
  constructor
  · intro hnone n hcycle
    obtain ⟨_, -, hthere, -⟩ := id hcycle
    obtain ⟨_, hstep, -⟩ := TransGen.head'_iff.1 hthere
    exact hnone n (mem_nodes_of_leads hstep) n .refl hcycle
  · exact fun hnone _ _ m _ => hnone m

/-! ## What a listing says -/

variable {order left : List String}

/-- A complete listing has each node once, after the other nodes that it leads to. -/
theorem toposort_eq_ok (hg : g.Orderly) (h : g.toposort = .ok order) :
    order.Perm g.nodes ∧ order.Nodup ∧ ∀ before n after, order = before ++ n :: after →
      ∀ t, g.Leads n t → t ∈ g.nodes → t ≠ n → t ∈ before := by
  rw [toposort_eq hg] at h
  split at h
  · rename_i order' horder
    obtain rfl : order' = order := Except.ok.inj h
    obtain ⟨hperm, hfirst⟩ := order?_eq_some hg.increasing.withoutLoops horder
    rw [nodes_withoutLoops] at hperm
    refine ⟨hperm, hperm.nodup_iff.2 hg.increasing.nodup_nodes, fun before n after hsplit t ht hnode hne => ?_⟩
    refine hfirst before n after hsplit t ?_
    rw [links_withoutLoops]
    exact ⟨⟨ht, hnode⟩, hne⟩
  · cases h

/-- A listing is incomplete only if something is left, and these are the nodes that are stuck. -/
theorem toposort_eq_error (hg : g.Orderly) (h : g.toposort = .error left) : left = g.stuck ∧ left ≠ [] := by
  have hstuck : left = g.stuck := by
    unfold stuck
    rw [h]
  refine ⟨hstuck, ?_⟩
  rw [toposort_eq hg] at h
  split at h
  · cases h
  · rename_i hnone
    intro hempty
    have hsome := (isSome_order_iff hg.increasing.withoutLoops).2 (Except.error.inj h ▸ hempty)
    rw [hnone] at hsome
    cases hsome

end Graph
end Specimen
