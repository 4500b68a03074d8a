import Specimen.Proofs.Dict
import Specimen.Proofs.Graph.Cycles
import Specimen.Proofs.Plan.Inheritance

/-!
# What merged contexts show

Contexts are merged one at a time, in some order that has parents before their children.  What a context shows
is then settled by an equation: its own values, laid over what its parents show.  Whatever the order, the merged
contexts solve this equation for every context; and since contexts do not inherit in a cycle, only one family of
views solves it.
-/

open Relation (TransGen)

namespace Specimen
namespace Contexts

variable {contexts : Dict DataContext} {context : DataContext} {merged : Contexts}
  {views views' : Dict (Dict Json)} {order done : List String} {child parent name last key : String}

/-- A context names another one as a parent. -/
def Inherits (contexts : Dict DataContext) (child parent : String) : Prop :=
  ∃ context, contexts.get? child = some context ∧ parent ∈ context.inherits

/-- The value that a context shows under a key. -/
def value? (c : Contexts) (name key : String) : Option Json := (c.views.get? name).bind (·.get? key)

/-- Each context of a list comes after its parents. -/
def AfterParents (contexts : Dict DataContext) (order : List String) : Prop :=
  ∀ before name after, order = before ++ name :: after → ∀ parent, Inherits contexts name parent → parent ∈ before

/-- An order in which contexts can be merged: each of them once, after its parents. -/
structure MergeOrder (contexts : Dict DataContext) (order : List String) : Prop where
  perm : order.Perm contexts.keys
  afterParents : AfterParents contexts order

/-! ## Who inherits -/

theorem leads_parents_iff : (parents contexts).Leads child parent ↔ Inherits contexts child parent := by
  rw [leads_parents]
  constructor
  · rintro ⟨e, he, rfl, hparent⟩
    exact ⟨e.2, Dict.get?_eq_some_iff.2 he, hparent⟩
  · rintro ⟨context, hget, hparent⟩
    exact ⟨(child, context), Dict.get?_mem hget, rfl, hparent⟩

theorem perm_nodes_parents (contexts : Dict DataContext) : (parents contexts).nodes.Perm contexts.keys := by
  refine (List.perm_ext_iff_of_nodup (increasing_parents contexts).nodup_nodes contexts.nodup_keys).2 fun name => ?_
  rw [mem_nodes_parents, Dict.keys, List.mem_map]
  exact exists_congr fun e => and_congr_right fun _ => eq_comm

theorem missingParent?_eq_none_iff_inherits : missingParent? contexts = none ↔
    ∀ child parent, Inherits contexts child parent → parent ∈ contexts.keys := by
  rw [missingParent?_eq_none_iff]
  simp only [Dict.contains_eq_isSome_get?, ← Dict.mem_keys_iff]
  constructor
  · rintro hall child parent ⟨context, hget, hparent⟩
    exact hall (child, context) (Dict.get?_mem hget) parent hparent
  · intro hall e he parent hparent
    exact hall e.1 parent ⟨e.2, Dict.get?_eq_some_iff.2 he, hparent⟩

/-- Contexts are merged exactly when every parent exists and no context is its own ancestor. -/
theorem exists_merge_iff_acyclic : (∃ merged, merge contexts = .ok merged) ↔
    (∀ child parent, Inherits contexts child parent → parent ∈ contexts.keys) ∧
      ∀ name, ¬ TransGen (Inherits contexts) name name := by
  have hleads : (parents contexts).Leads = Inherits contexts := by
    funext child parent
    exact propext leads_parents_iff
  rw [exists_merge_iff, missingParent?_eq_none_iff_inherits, Graph.unlisted_eq_nil_iff (increasing_parents contexts),
    hleads]

theorem merge_eq_ok (h : merge contexts = .ok merged) :
    ∃ order, MergeOrder contexts order ∧ merged = mergeInOrder contexts order := by
  obtain ⟨hdeclared, order, horder, rfl⟩ := merge_eq_ok_iff.1 h
  obtain ⟨hperm, hfirst⟩ := Graph.order?_eq_some (increasing_parents contexts) horder
  refine ⟨order, ⟨hperm.trans (perm_nodes_parents contexts), ?_⟩, rfl⟩
  intro before name after hsplit parent hparent
  have hnode := missingParent?_eq_none_iff_inherits.1 hdeclared name parent hparent
  exact hfirst before name after hsplit parent
    ⟨leads_parents_iff.2 hparent, (perm_nodes_parents contexts).mem_iff.2 hnode⟩

/-! ## One view -/

/-- Lays what a parent shows over what has been inherited so far. -/
def layOver (views : Dict (Dict Json)) (done : Dict Json) (parent : String) : Dict Json :=
  match views.get? parent with
  | some shown => done.merge shown
  | none => done

theorem view_eq_merge (views : Dict (Dict Json)) (context : DataContext) :
    view views context = (context.inherits.foldl (layOver views) Dict.empty).merge context.values := rfl

theorem get?_layOver (views : Dict (Dict Json)) (inherited : Dict Json) (parent key : String) :
    (layOver views inherited parent).get? key =
      ((views.get? parent).bind (·.get? key)).or (inherited.get? key) := by
  unfold layOver
  cases views.get? parent with
  | none => rfl
  | some shown => exact Dict.get?_merge inherited shown key

theorem get?_foldl_layOver (views : Dict (Dict Json)) (parents : List String) (inherited : Dict Json)
    (key : String) : (parents.foldl (layOver views) inherited).get? key =
      (parents.reverse.findSome? fun parent => (views.get? parent).bind (·.get? key)).or
        (inherited.get? key) := by
  induction parents generalizing inherited with
  | nil => rfl
  | cons parent rest ih =>
      rw [List.foldl_cons, ih, get?_layOver, List.reverse_cons, List.findSome?_append, Option.or_assoc,
        List.findSome?_singleton]

/-- What a context shows under a key is its own value, or else what its last parent shows that has the key. -/
theorem get?_view (views : Dict (Dict Json)) (context : DataContext) (key : String) :
    (view views context).get? key = (context.values.get? key).or
      (context.inherits.reverse.findSome? fun parent => (views.get? parent).bind (·.get? key)) := by
  rw [view_eq_merge, Dict.get?_merge, get?_foldl_layOver, Dict.get?_empty, Option.or_none]

/-- A view depends on nothing but the views of the parents. -/
theorem view_congr (h : ∀ parent ∈ context.inherits, views.get? parent = views'.get? parent) :
    view views context = view views' context := by
  rw [view_eq_merge, view_eq_merge]
  refine congrArg (Dict.merge · context.values) (List.foldl_ext _ _ _ fun inherited parent hparent => ?_)
  rw [layOver, layOver, h parent hparent]

/-! ## Merging in an order -/

/-- Each context shows its own values laid over what its parents show. -/
def Solves (contexts : Dict DataContext) (views : Dict (Dict Json)) : Prop :=
  ∀ name, views.get? name = (contexts.get? name).map (view views)

theorem AfterParents.of_append {done rest : List String} (h : AfterParents contexts (done ++ rest)) :
    AfterParents contexts done := by
  intro before name after hsplit
  refine h before name (after ++ rest) ?_
  rw [hsplit, List.append_assoc, List.cons_append]

/-- The parents of a context were merged before the last one. -/
theorem AfterParents.mem_of_snoc (h : AfterParents contexts (done ++ [last])) (hchild : child ∈ done ++ [last])
    (hparent : Inherits contexts child parent) : parent ∈ done := by
  obtain ⟨before, after, hsplit⟩ := List.append_of_mem hchild
  have hlength : before.length ≤ done.length := by
    have := congrArg List.length hsplit
    simp only [List.length_append, List.length_cons, List.length_nil] at this
    omega
  have hprefix : before <+: done :=
    List.prefix_of_prefix_length_le ⟨child :: after, hsplit.symm⟩ (List.prefix_append done [last]) hlength
  exact hprefix.subset (h before child after hsplit parent hparent)

theorem get?_mergeInOrder_snoc (contexts : Dict DataContext) (done : List String) (last name : String) :
    (mergeInOrder contexts (done ++ [last])).views.get? name =
      if last = name ∧ (contexts.get? last).isSome
      then (contexts.get? last).map (view (mergeInOrder contexts done).views)
      else (mergeInOrder contexts done).views.get? name := by
  simp only [mergeInOrder, List.foldl_append, List.foldl_cons, List.foldl_nil]
  cases contexts.get? last with
  | none => simp
  | some context => simp

/-- Once some contexts have been merged, each of them shows its own values laid over what its parents show. -/
theorem get?_mergeInOrder (hnodup : order.Nodup) (horder : AfterParents contexts order) (name : String) :
    (mergeInOrder contexts order).views.get? name =
      if name ∈ order then (contexts.get? name).map (view (mergeInOrder contexts order).views) else none := by
  induction order using List.reverseRecOn generalizing name with
  | nil => rfl
  | append_singleton done last ih =>
      obtain ⟨hdone, -, hfresh⟩ := List.nodup_append.1 hnodup
      have hlast : last ∉ done := fun hmem => hfresh last hmem last List.mem_cons_self rfl
      have ih := ih hdone horder.of_append
      -- the parents of a context were merged before, so the last step leaves their views as they are
      have hview : ∀ child ∈ done ++ [last], (contexts.get? child).map (view (mergeInOrder contexts done).views) =
          (contexts.get? child).map (view (mergeInOrder contexts (done ++ [last])).views) := by
        intro child hchild
        refine Option.map_congr fun context hget => view_congr fun parent hparent => ?_
        have hmem := horder.mem_of_snoc hchild ⟨context, hget, hparent⟩
        have hne : last ≠ parent := fun heq => hlast (heq ▸ hmem)
        rw [get?_mergeInOrder_snoc, if_neg fun h => hne h.1]
      rw [get?_mergeInOrder_snoc]
      by_cases hname : last = name
      · subst hname
        have hmem : last ∈ done ++ [last] := List.mem_append_right _ List.mem_cons_self
        rw [if_pos hmem, ← hview last hmem, ih, if_neg hlast]
        cases contexts.get? last <;> simp
      · rw [if_neg fun h => hname h.1, ih]
        by_cases hold : name ∈ done
        · rw [if_pos hold, if_pos (List.mem_append_left _ hold), hview name (List.mem_append_left _ hold)]
        · have hnew : name ∉ done ++ [last] := by
            rw [List.mem_append, List.mem_singleton]
            exact fun h => h.elim hold fun heq => hname heq.symm
          rw [if_neg hold, if_neg hnew]

theorem MergeOrder.solves (h : MergeOrder contexts order) : Solves contexts (mergeInOrder contexts order).views := by
  intro name
  rw [get?_mergeInOrder (h.perm.nodup_iff.2 contexts.nodup_keys) h.afterParents]
  split
  · rfl
  · rename_i hnone
    rw [h.perm.mem_iff, Dict.mem_keys_iff, Option.not_isSome_iff_eq_none] at hnone
    rw [hnone, Option.map_none]

/-! ## One solution -/

theorem wellFounded_inherits (h : ∃ merged, merge contexts = .ok merged) :
    WellFounded fun parent child => Inherits contexts child parent := by
  have hdeclared := (exists_merge_iff_acyclic.1 h).1
  have hwell := Graph.wellFounded_of_unlisted_eq_nil (increasing_parents contexts) (exists_merge_iff.1 h).2
  refine Subrelation.wf (fun {parent child} hparent => ⟨leads_parents_iff.2 hparent, ?_⟩) hwell
  exact (perm_nodes_parents contexts).mem_iff.2 (hdeclared child parent hparent)

/-- The views of contexts that do not inherit in a cycle are settled by what each context shows of its parents. -/
theorem Solves.unique (hwell : WellFounded fun parent child => Inherits contexts child parent)
    (h : Solves contexts views) (h' : Solves contexts views') : views = views' := by
  refine Dict.ext_get? fun name => ?_
  induction name using hwell.induction with
  | _ name ih =>
      rw [h name, h' name]
      exact Option.map_congr fun context hget => view_congr fun parent hparent => ih parent ⟨context, hget, hparent⟩

theorem value?_of_solves {c : Contexts} (h : Solves contexts c.views) (hget : contexts.get? name = some context)
    (key : String) : c.value? name key =
      (context.values.get? key).or (context.inherits.reverse.findSome? (c.value? · key)) := by
  rw [value?, h name, hget]
  exact get?_view c.views context key

/-- Contexts are merged exactly when every parent exists and no context is its own ancestor.  A merged context
shows under a key its own value, or else what the last of its parents shows that shows something; and this is so
in whatever order contexts are merged, as long as parents come first. -/
theorem merged_contexts_inherit (contexts : Dict DataContext) :
    ((∃ merged, merge contexts = .ok merged) ↔
      (∀ child parent, Inherits contexts child parent → parent ∈ contexts.keys) ∧
        ∀ name, ¬ TransGen (Inherits contexts) name name) ∧
    ∀ merged, merge contexts = .ok merged →
      (∀ name, (merged.views.get? name).isSome ↔ name ∈ contexts.keys) ∧
      (∀ name context, contexts.get? name = some context → ∀ key, merged.value? name key =
        (context.values.get? key).or (context.inherits.reverse.findSome? (merged.value? · key))) ∧
      (∃ order, MergeOrder contexts order) ∧
      ∀ order, MergeOrder contexts order → mergeInOrder contexts order = merged := by
  refine ⟨exists_merge_iff_acyclic, fun merged h => ?_⟩
  obtain ⟨order, horder, rfl⟩ := merge_eq_ok h
  have hsolves := horder.solves
  refine ⟨fun name => ?_, fun name context hget key => value?_of_solves hsolves hget key, ⟨order, horder⟩, ?_⟩
  · rw [hsolves name, Option.isSome_map, Dict.mem_keys_iff]
  · intro order' horder'
    exact congrArg Contexts.mk (Solves.unique (wellFounded_inherits ⟨_, h⟩) horder'.solves hsolves)

-- what a later parent inherits covers what an earlier one says itself
example : ((merge (.ofList [("a", { values := .ofList [("k", .string "of a")] }),
    ("b", { inherits := ["a"], values := .ofList [("k", .string "of b")] }), ("c", { inherits := ["a"] }),
    ("d", { inherits := ["b", "c", "b", "c"] })])).toOption.bind (·.value? "d" "k")).bind (·.plainText?) =
      some "of a" := by
  decide +kernel

end Contexts
end Specimen
