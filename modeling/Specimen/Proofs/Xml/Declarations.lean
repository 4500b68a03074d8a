import Specimen.Proofs.Dict
import Specimen.Xml.Namespaces

/-!
# Declared namespaces

What the namespaces of a document are once they are collected.  Every namespace that an element or an
attribute needs has a prefix, no two namespaces have the same prefix, and a prefix is either configured or
numbered.  A configured prefix stands for one namespace only, because the configuration lists its
namespaces by prefix; a numbered one is looked for until it is new.
-/

namespace Specimen
namespace Xml

/-! ## Numbered prefixes -/

/-- The prefix with a number. -/
def numbered (number : Nat) : String := "ns" ++ toString number

theorem numbered_injective : Function.Injective numbered := by
  intro m n h
  have hdigits := congrArg String.toList ((String.append_right_inj "ns").1 h)
  rw [Nat.toString_eq_repr, Nat.toString_eq_repr, Nat.toList_repr, Nat.toList_repr] at hdigits
  have hvalues := congrArg (Nat.ofDigitChars 10 · 0) hdigits
  simpa [Nat.ofDigitChars_toDigits] using hvalues

theorem colon_not_mem_numbered (number : Nat) : ':' ∉ (numbered number).toList := by
  intro hmem
  rw [numbered, String.toList_append, List.mem_append] at hmem
  rcases hmem with hmem | hmem
  · simp at hmem
  · rw [Nat.toString_eq_repr, Nat.toList_repr] at hmem
    have hdigit := Nat.isDigit_of_mem_toDigits (by decide) (by decide) hmem
    simp [Char.isDigit] at hdigit

theorem numbered_ne {name : String} (hname : name.toList.head? ≠ some 'n') (number : Nat) :
    numbered number ≠ name := by
  rintro rfl
  simp [numbered] at hname

theorem freePrefix_numbered (taken : List String) (tries number : Nat) :
    ∃ k, (freePrefix taken tries number).1 = numbered k := by
  induction tries generalizing number with
  | zero => exact ⟨number + 1, rfl⟩
  | succ tries ih =>
      unfold freePrefix
      dsimp only
      split
      · exact ih (number + 1)
      · exact ⟨number + 1, rfl⟩

/-- A search that ends at a prefix that is taken has met only such prefixes. -/
theorem numbered_mem_of_freePrefix_mem {taken : List String} {tries number : Nat}
    (h : (freePrefix taken tries number).1 ∈ taken) :
    ∀ i ≤ tries, numbered (number + 1 + i) ∈ taken := by
  induction tries generalizing number with
  | zero =>
      intro i hi
      obtain rfl := Nat.le_zero.1 hi
      exact h
  | succ tries ih =>
      unfold freePrefix at h
      dsimp only at h
      split at h
      · rename_i hfirst
        intro i hi
        cases i with
        | zero => exact List.contains_iff_mem.1 hfirst
        | succ i =>
            have hnext := ih h i (Nat.le_of_succ_le_succ hi)
            rwa [show number + 1 + (i + 1) = number + 1 + 1 + i by omega]
      · rename_i hfree
        exact absurd (List.contains_iff_mem.2 h) hfree

/-- With as many tries as there are prefixes taken, the search finds a new one. -/
theorem freePrefix_not_mem (taken : List String) (number : Nat) :
    (freePrefix taken taken.length number).1 ∉ taken := by
  intro h
  have hall := numbered_mem_of_freePrefix_mem h
  have hnodup : ((List.range (taken.length + 1)).map fun i => numbered (number + 1 + i)).Nodup := by
    refine List.nodup_range.map fun i j hij => ?_
    have hsum := numbered_injective hij
    omega
  have hsubset : ((List.range (taken.length + 1)).map fun i => numbered (number + 1 + i)) ⊆ taken := by
    intro name hname
    obtain ⟨i, hi, rfl⟩ := List.mem_map.1 hname
    exact hall i (Nat.le_of_lt_succ (List.mem_range.1 hi))
  have hlength := (hnodup.subperm hsubset).length_le
  rw [List.length_map, List.length_range] at hlength
  omega

/-! ## Prefixes of a document -/

/-- A prefix that a configuration may name. -/
structure ValidPrefix (name : String) : Prop where
  nonempty : name ≠ ""
  plain : ':' ∉ name.toList
  free : name ≠ "xml" ∧ name ≠ "xmlns" ∧ name ≠ "xsi"

/-- No prefix of a format stands for two namespaces. -/
def Format.Single (format : Format) : Prop :=
  ∀ u v name, format.prefixes.get? u = some name → format.prefixes.get? v = some name → u = v

/-- The prefixes of a format are usable: each is valid and stands for one namespace. -/
structure Format.Usable (format : Format) : Prop where
  valid : ∀ uri name, format.prefixes.get? uri = some name → ValidPrefix name
  single : ∀ u v name, format.prefixes.get? u = some name → format.prefixes.get? v = some name → u = v

/-- A prefix that stands for a namespace is one that the overrides name for it. -/
theorem Format.mem_entries_of_get? {o : Overrides} {uri name : String}
    (hget : (Format.ofOverrides o).prefixes.get? uri = some name) : (name, uri) ∈ o.prefixes.entries := by
  obtain ⟨e, he, heq⟩ := List.mem_map.1 (Dict.mem_of_mem_ofList (Dict.get?_mem hget))
  cases heq
  exact he

theorem Format.single_ofOverrides (o : Overrides) : (Format.ofOverrides o).Single := fun _ _ _ hu hv =>
  Dict.entries_unique (mem_entries_of_get? hu) (mem_entries_of_get? hv)

theorem Format.usable_ofOverrides {o : Overrides} (h : ∀ p ∈ o.prefixes.keys, ValidPrefix p) :
    (Format.ofOverrides o).Usable where
  valid _ name hget := h name (List.mem_map.2 ⟨_, mem_entries_of_get? hget, rfl⟩)
  single := single_ofOverrides o

namespace Namespaces

/-- The prefixes given so far: each is configured for its namespace, or numbered and configured for
none; and no prefix and no namespace is declared twice. -/
structure Sound (format : Format) (ns : Namespaces) : Prop where
  origin : ∀ d ∈ ns.declared, format.prefixes.get? d.2 = some d.1 ∨
    d.1 ∉ format.prefixes.values ∧ ∃ k, d.1 = numbered k
  prefixes : (ns.declared.map (·.1)).Nodup
  uris : (ns.declared.map (·.2)).Nodup

theorem prefixOf?_eq_some {ns : Namespaces} {uri name : String}
    (h : ns.prefixOf? uri = some name) : (name, uri) ∈ ns.declared := by
  obtain ⟨d, hfound, rfl⟩ := Option.map_eq_some_iff.1 h
  have huri : d.2 = uri := by simpa using List.find?_some hfound
  rw [← huri]
  exact List.mem_of_find?_eq_some hfound

theorem prefixOf?_isSome {ns : Namespaces} {uri : String} :
    (ns.prefixOf? uri).isSome ↔ uri ∈ ns.declared.map (·.2) := by
  simp [prefixOf?]

section Assign

variable {format : Format} {ns : Namespaces} {uri : String}

theorem assign_eq_self (number : Nat) (h : (ns.prefixOf? uri).isSome) :
    assign format (ns, number) uri = (ns, number) := by
  simp [assign, h]

/-- A namespace without a prefix is declared with one that is configured, or else with a new one. -/
theorem assign_declares (format : Format) (number : Nat) (h : ¬ (ns.prefixOf? uri).isSome) :
    ∃ name, (assign format (ns, number) uri).1 = { ns with declared := ns.declared ++ [(name, uri)] } ∧
      (format.prefixes.get? uri = some name ∨ format.prefixes.get? uri = none ∧
        name ∉ format.prefixes.values ∧ name ∉ ns.declared.map (·.1) ∧ ∃ k, name = numbered k) := by
  unfold assign
  dsimp only
  rw [if_neg h]
  cases hconfigured : format.prefixes.get? uri with
  | some name => exact ⟨name, rfl, .inl rfl⟩
  | none =>
      have hnew := freePrefix_not_mem (format.prefixes.values ++ ns.declared.map (·.1)) number
      rw [List.mem_append, not_or] at hnew
      exact ⟨_, rfl, .inr ⟨rfl, hnew.1, hnew.2, freePrefix_numbered _ _ _⟩⟩

theorem assign_sound (number : Nat) (uri : String) (hsingle : format.Single) (hns : ns.Sound format) :
    (assign format (ns, number) uri).1.Sound format := by
  by_cases hhas : (ns.prefixOf? uri).isSome
  · rw [assign_eq_self _ hhas]
    exact hns
  · obtain ⟨name, heq, horigin⟩ := assign_declares format number hhas
    have hold : uri ∉ ns.declared.map (·.2) := fun hmem => hhas (prefixOf?_isSome.2 hmem)
    have hfresh : name ∉ ns.declared.map (·.1) := by
      intro hmem
      rcases horigin with hconfigured | ⟨-, -, hnew, -⟩
      -- it was declared as configured, but stands for one namespace only, or as a numbered one, but is configured
      · obtain ⟨d, hd, rfl⟩ := List.mem_map.1 hmem
        rcases hns.origin d hd with hother | ⟨hfree, -⟩
        · have huri := hsingle _ _ _ hother hconfigured
          exact hold (huri ▸ List.mem_map_of_mem hd)
        · exact hfree (List.mem_map.2 ⟨_, Dict.get?_mem hconfigured, rfl⟩)
      · exact hnew hmem
    rw [heq]
    constructor
    · intro d hd
      rcases List.mem_append.1 hd with hd | hd
      · exact hns.origin d hd
      · obtain rfl := List.mem_singleton.1 hd
        exact horigin.imp_right fun h => ⟨h.2.1, h.2.2.2⟩
    · rw [List.map_append]
      exact hns.prefixes.append (List.nodup_singleton name) (by simpa using hfresh)
    · rw [List.map_append]
      exact hns.uris.append (List.nodup_singleton uri) (by simpa using hold)

/-- The namespaces that have a prefix behind a namespace are those before it, and this one. -/
theorem mem_assign_uris_iff {number : Nat} {v : String} :
    v ∈ (assign format (ns, number) uri).1.declared.map (·.2) ↔ v ∈ ns.declared.map (·.2) ∨ v = uri := by
  by_cases hhas : (ns.prefixOf? uri).isSome
  · rw [assign_eq_self _ hhas, or_iff_left_of_imp]
    rintro rfl
    exact prefixOf?_isSome.1 hhas
  · obtain ⟨name, heq, -⟩ := assign_declares format number hhas
    rw [heq, List.map_append, List.mem_append]
    exact or_congr_right List.mem_singleton

variable (format ns uri) in
theorem assign_rest (number : Nat) : (assign format (ns, number) uri).1.default = ns.default ∧
    (assign format (ns, number) uri).1.usesNil = ns.usesNil := by
  by_cases hhas : (ns.prefixOf? uri).isSome
  · rw [assign_eq_self _ hhas]
    exact ⟨rfl, rfl⟩
  · obtain ⟨name, heq, -⟩ := assign_declares format number hhas
    rw [heq]
    exact ⟨rfl, rfl⟩

end Assign

section AssignAll

variable {format : Format}

/-- What one namespace after the other keeps is kept by all. -/
theorem foldl_assign_induction {P : Namespaces → Prop}
    (hstep : ∀ ns number uri, P ns → P (assign format (ns, number) uri).1) (uris : List String) {ns : Namespaces}
    (number : Nat) (hns : P ns) : P (uris.foldl (assign format) (ns, number)).1 := by
  induction uris generalizing ns number with
  | nil => exact hns
  | cons uri rest ih => exact ih _ (hstep ns number uri hns)

theorem mem_foldl_assign_uris_iff {v : String} (uris : List String) {ns : Namespaces} (number : Nat) :
    v ∈ (uris.foldl (assign format) (ns, number)).1.declared.map (·.2) ↔
      v ∈ ns.declared.map (·.2) ∨ v ∈ uris := by
  induction uris generalizing ns number with
  | nil => simp only [List.foldl_nil, List.not_mem_nil, or_false]
  | cons uri rest ih =>
      rw [List.foldl_cons, List.mem_cons, ← or_assoc]
      exact (ih _).trans (or_congr_left mem_assign_uris_iff)

end AssignAll

/-- The namespaces that need a prefix: those of elements other than the default one, and those of attributes. -/
def needed (root : Node) (format : Format) : List String :=
  (elementUris [] root).filter (fun uri => defaultOf root format != some uri) ++ attributeUris [] root

section Collect

variable (root : Node) (format : Format)

theorem collect_rest : (collect root format).default = defaultOf root format ∧
    (collect root format).usesNil = Xml.usesNil root :=
  foldl_assign_induction (P := fun ns => ns.default = defaultOf root format ∧ ns.usesNil = Xml.usesNil root)
    (fun ns number uri hns => by
      have hrest := assign_rest format ns uri number
      exact ⟨hrest.1.trans hns.1, hrest.2.trans hns.2⟩)
    (needed root format) 0 ⟨rfl, rfl⟩

theorem mem_collect_uris_iff {uri : String} :
    uri ∈ (collect root format).declared.map (·.2) ↔ uri ∈ needed root format := by
  exact (mem_foldl_assign_uris_iff (needed root format) 0).trans (or_iff_right List.not_mem_nil)

variable {format}

theorem collect_sound (hsingle : format.Single) : (collect root format).Sound format :=
  foldl_assign_induction (fun _ number uri => assign_sound number uri hsingle) (needed root format) 0
    ⟨nofun, List.nodup_nil, List.nodup_nil⟩

theorem collect_spec (hformat : format.Usable) :
    let ns := collect root format
    ns.Sound format ∧ ns.default = defaultOf root format ∧ ns.usesNil = Xml.usesNil root ∧
      (∀ u ∈ elementUris [] root, ns.default ≠ some u → (ns.prefixOf? u).isSome) ∧
      ∀ u ∈ attributeUris [] root, (ns.prefixOf? u).isSome := by
  obtain ⟨hdefault, hnil⟩ := collect_rest root format
  have hhas : ∀ u ∈ needed root format, ((collect root format).prefixOf? u).isSome := fun u hu =>
    prefixOf?_isSome.2 ((mem_collect_uris_iff root format).2 hu)
  refine ⟨collect_sound root hformat.single, hdefault, hnil, fun u hu hne => hhas u ?_, fun u hu => hhas u ?_⟩
  · rw [hdefault] at hne
    exact List.mem_append_left _ (List.mem_filter.2 ⟨hu, by simpa using hne⟩)
  · exact List.mem_append_right _ hu

end Collect

end Namespaces
end Xml
end Specimen
