import Mathlib.Data.List.Nodup
import Mathlib.Data.List.Perm.Subperm
import Mathlib.Data.List.Sort
import Specimen.Dict

/-!
# Looking things up

A dictionary holds under a key the value of the only entry with the key.  So two dictionaries in which everything
that is looked up is the same are equal, and a dictionary that others are laid over shows the value of the last
one that has the key.
-/

namespace Specimen
namespace Dict

variable {α : Type} {d e : Dict α} {key : String} {v w : α}

theorem get?_mem (h : d.get? key = some v) : (key, v) ∈ d.entries := by
  obtain ⟨e, hfound, rfl⟩ := Option.map_eq_some_iff.1 h
  have hkey : e.1 = key := by simpa using List.find?_some hfound
  rw [← hkey]
  exact List.mem_of_find?_eq_some hfound

theorem nodup_keys (d : Dict α) : d.keys.Nodup := by
  rw [keys, List.Nodup, List.pairwise_map]
  exact d.sorted.imp fun {a b} hlt => String.ne_of_lt hlt

theorem entries_unique (hv : (key, v) ∈ d.entries) (hw : (key, w) ∈ d.entries) : v = w := by
  have hentry := List.inj_on_of_nodup_map d.nodup_keys hv hw rfl
  exact (Prod.mk.inj hentry).2

theorem get?_eq_some_iff : d.get? key = some v ↔ (key, v) ∈ d.entries := by
  refine ⟨get?_mem, fun h => ?_⟩
  cases hget : d.get? key with
  | none =>
      have hkey := List.find?_eq_none.1 (Option.map_eq_none_iff.1 hget) (key, v) h
      simp at hkey
  | some w => rw [entries_unique (get?_mem hget) h]

theorem contains_eq_isSome_get? (d : Dict α) (key : String) : d.contains key = (d.get? key).isSome := by
  rw [contains, get?, Option.isSome_map, List.isSome_find?]

theorem mem_keys_iff : key ∈ d.keys ↔ (d.get? key).isSome := by
  rw [← contains_eq_isSome_get?, contains, List.any_eq_true, keys, List.mem_map]
  simp

/-- Dictionaries that hold the same values under all keys are equal. -/
theorem ext_get? (h : ∀ key, d.get? key = e.get? key) : d = e := by
  have hirrefl : Std.Irrefl fun a b : String × α => a.1 < b.1 := ⟨fun a => String.lt_irrefl a.1⟩
  have hantisymm : Std.Antisymm fun a b : String × α => a.1 < b.1 :=
    ⟨fun a b hab hba => absurd (String.lt_trans hab hba) (String.lt_irrefl a.1)⟩
  refine ext (d.sorted.eq_of_mem_iff e.sorted fun entry => ?_)
  rw [← get?_eq_some_iff, ← get?_eq_some_iff, h]

theorem mem_entries_foldl_insert {list : List (String × α)} {entry : String × α}
    (h : entry ∈ (list.foldl (fun d e => d.insert e.1 e.2) d).entries) : entry ∈ d.entries ∨ entry ∈ list := by
  induction list generalizing d with
  | nil => exact .inl h
  | cons first rest ih =>
      rcases ih h with hmem | hmem
      · rcases mem_insertEntry hmem with rfl | hold
        · exact .inr List.mem_cons_self
        · exact .inl hold
      · exact .inr (List.mem_cons_of_mem _ hmem)

/-- Where both dictionaries have a key, the value of the one that is laid over the other stands. -/
@[simp] theorem get?_merge (d e : Dict α) (key : String) : (d.merge e).get? key = (e.get? key).or (d.get? key) := by
  obtain ⟨entries, hsorted⟩ := e
  change (entries.foldl (fun d p => d.insert p.1 p.2) d).get? key =
    ((entries.find? fun p => p.1 == key).map (·.2)).or (d.get? key)
  induction entries generalizing d with
  | nil => rfl
  | cons first rest ih =>
      obtain ⟨hfirst, hrest⟩ := List.pairwise_cons.1 hsorted
      rw [List.foldl_cons, ih (d.insert first.1 first.2) hrest, get?_insert]
      by_cases hkey : first.1 = key
      · have hnone : rest.find? (fun p => p.1 == key) = none := by
          refine List.find?_eq_none.2 fun p hp => ?_
          have hne := String.ne_of_lt (hfirst p hp)
          simpa [← hkey] using hne.symm
        rw [hnone, if_pos hkey, List.find?_cons_of_pos (by simpa using hkey)]
        rfl
      · rw [if_neg hkey, List.find?_cons_of_neg (by simpa using hkey)]

@[simp] theorem get?_erase (d : Dict α) (key k : String) :
    (d.erase key).get? k = if key = k then none else d.get? k := by
  have hentries : ((d.entries.filter fun e => e.1 != key).find? fun e => e.1 == k) =
      if key = k then none else d.entries.find? fun e => e.1 == k := by
    rw [List.find?_filter]
    split
    · rename_i hkey
      subst hkey
      exact List.find?_eq_none.2 fun e _ => by simp
    · rename_i hkey
      congr 1
      funext e
      by_cases he : e.1 = k
      · simp [he, Ne.symm hkey]
      · simp [he]
  unfold erase get?
  rw [hentries]
  split <;> rfl

/-- When values are given to several keys, each of these keys has its value, if it was given one. -/
theorem get?_foldl_insert {step : Dict α → String → Dict α} (value? : String → Option α)
    (hstep : ∀ d k, step d k = (value? k).elim d (d.insert k)) (keys : List String) (d : Dict α) (key : String) :
    (keys.foldl step d).get? key = if key ∈ keys then (value? key).or (d.get? key) else d.get? key := by
  induction keys generalizing d with
  | nil => rfl
  | cons k rest ih =>
      have hfirst : (step d k).get? key = if key = k then (value? key).or (d.get? key) else d.get? key := by
        rw [hstep]
        by_cases hkey : key = k
        · subst hkey
          cases value? key <;> simp
        · cases value? k <;> simp [hkey, Ne.symm hkey]
      rw [List.foldl_cons, ih, hfirst]
      by_cases hrest : key ∈ rest
      · rw [if_pos hrest, if_pos (List.mem_cons_of_mem k hrest)]
        split
        · rw [← Option.or_assoc, Option.or_self]
        · rfl
      · simp only [List.mem_cons, hrest, or_false, if_false]

/-- A dictionary that is put together from the entries of another is that dictionary. -/
theorem ofList_entries (d : Dict α) : ofList d.entries = d := by
  refine ext_get? fun key => ?_
  change (empty.merge d).get? key = d.get? key
  rw [get?_merge, get?_empty, Option.or_none]

theorem mem_of_mem_ofList {list : List (String × α)} {entry : String × α} (h : entry ∈ (ofList list).entries) :
    entry ∈ list := by
  rcases mem_entries_foldl_insert h with hempty | hmem
  · cases hempty
  · exact hmem

theorem isSome_get?_foldl_insert {list : List (String × α)} :
    ((list.foldl (fun d e => d.insert e.1 e.2) d).get? key).isSome ↔
      (d.get? key).isSome ∨ key ∈ list.map (·.1) := by
  induction list generalizing d with
  | nil => simp
  | cons first rest ih =>
      rw [List.foldl_cons, ih, get?_insert, List.map_cons, List.mem_cons]
      by_cases hkey : first.1 = key
      · simp [hkey]
      · simp [hkey, Ne.symm hkey]

/-- A dictionary that is put together from a list has the keys of the list. -/
theorem isSome_get?_ofList_iff {list : List (String × α)} :
    ((ofList list).get? key).isSome ↔ key ∈ list.map (·.1) := by
  rw [ofList, isSome_get?_foldl_insert, get?_empty]
  simp

end Dict
end Specimen
