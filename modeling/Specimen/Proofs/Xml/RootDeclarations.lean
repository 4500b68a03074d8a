import Specimen.Proofs.Xml.Names

/-!
# The declarations on the root

Prefixes are looked for without a bound until one is free.  As only finitely many are taken the search ends, and it
ends at the prefix that is found with as many tries as there are prefixes taken.

Every namespace that needs a prefix is declared once with one, and no prefix is declared twice.  The prefix of the mark
for nil is the exception: it is declared on its own, so a document with such a mark has it twice if it is configured
for another namespace that the document needs (`root_declarations`).
-/

namespace Specimen
namespace Xml

/-! ## Searching without a bound -/

/-- The search for a prefix behind a number, which goes on as long as prefixes are taken. -/
inductive Searches (taken : List String) : Nat → String × Nat → Prop where
  | found {number : Nat} (hfree : numbered (number + 1) ∉ taken) :
      Searches taken number (numbered (number + 1), number + 1)
  | next {number : Nat} {result : String × Nat} (htaken : numbered (number + 1) ∈ taken)
      (hrest : Searches taken (number + 1) result) : Searches taken number result

theorem searches_of_not_mem {taken : List String} {tries number : Nat}
    (h : (freePrefix taken tries number).1 ∉ taken) : Searches taken number (freePrefix taken tries number) := by
  induction tries generalizing number with
  | zero => exact .found h
  | succ tries ih =>
      unfold freePrefix at h ⊢
      dsimp only at h ⊢
      split at h
      · rename_i htaken
        rw [if_pos htaken]
        exact .next (List.contains_iff_mem.1 htaken) (ih h)
      · rename_i hfree
        rw [if_neg hfree]
        exact .found h

theorem Searches.unique {taken : List String} {number : Nat} {result other : String × Nat}
    (h : Searches taken number result) (hother : Searches taken number other) : result = other := by
  induction h with
  | found hfree =>
      cases hother with
      | found _ => rfl
      | next htaken _ => exact absurd htaken hfree
  | next htaken _ ih =>
      cases hother with
      | found hfree => exact absurd htaken hfree
      | next _ hrest => exact ih hrest

/-- The search always ends, at the prefix that is found with a bound. -/
theorem searches_iff {taken : List String} {number : Nat} {result : String × Nat} :
    Searches taken number result ↔ result = freePrefix taken taken.length number := by
  have hends := searches_of_not_mem (freePrefix_not_mem taken number)
  exact ⟨fun h => h.unique hends, fun h => h ▸ hends⟩

/-- A namespace is given a prefix, unless it has one, by a search without a bound if none is configured for it. -/
inductive Assigns (format : Format) (uri : String) : Namespaces × Nat → Namespaces × Nat → Prop where
  | known {ns : Namespaces} {number : Nat} (hhas : (ns.prefixOf? uri).isSome) :
      Assigns format uri (ns, number) (ns, number)
  | configured {ns : Namespaces} {number : Nat} {name : String} (hnew : ¬ (ns.prefixOf? uri).isSome)
      (hname : format.prefixes.get? uri = some name) :
      Assigns format uri (ns, number) ({ ns with declared := ns.declared ++ [(name, uri)] }, number)
  | searched {ns : Namespaces} {number last : Nat} {name : String} (hnew : ¬ (ns.prefixOf? uri).isSome)
      (hnone : format.prefixes.get? uri = none)
      (hsearch : Searches (format.prefixes.values ++ ns.declared.map (·.1)) number (name, last)) :
      Assigns format uri (ns, number) ({ ns with declared := ns.declared ++ [(name, uri)] }, last)

theorem assigns_iff {format : Format} {uri : String} {state next : Namespaces × Nat} :
    Assigns format uri state next ↔ next = Namespaces.assign format state uri := by
  obtain ⟨ns, number⟩ := state
  constructor
  · intro h
    cases h with
    | known hhas => exact (Namespaces.assign_eq_self number hhas).symm
    | configured hnew hname => simp [Namespaces.assign, hnew, hname]
    | searched hnew hnone hsearch =>
        have hresult := searches_iff.1 hsearch
        simp only [Namespaces.assign, if_neg hnew, hnone, ← hresult]
  · rintro rfl
    by_cases hhas : (ns.prefixOf? uri).isSome
    · rw [Namespaces.assign_eq_self number hhas]
      exact .known hhas
    · unfold Namespaces.assign
      dsimp only
      rw [if_neg hhas]
      cases hname : format.prefixes.get? uri with
      | some name => exact .configured hhas hname
      | none => exact .searched hhas hname (searches_iff.2 rfl)

/-- Namespaces are given prefixes one after the other. -/
inductive AssignsAll (format : Format) : List String → Namespaces × Nat → Namespaces × Nat → Prop where
  | done {state : Namespaces × Nat} : AssignsAll format [] state state
  | step {uri : String} {rest : List String} {state next last : Namespaces × Nat}
      (hfirst : Assigns format uri state next) (hrest : AssignsAll format rest next last) :
      AssignsAll format (uri :: rest) state last

theorem assignsAll_iff {format : Format} {uris : List String} {state last : Namespaces × Nat} :
    AssignsAll format uris state last ↔ last = uris.foldl (Namespaces.assign format) state := by
  induction uris generalizing state with
  | nil =>
      refine ⟨fun h => ?_, fun h => h ▸ .done⟩
      cases h
      rfl
  | cons uri rest ih =>
      rw [List.foldl_cons, ← ih]
      constructor
      · intro h
        cases h with
        | step hfirst hrest => exact assigns_iff.1 hfirst ▸ hrest
      · exact fun h => .step (assigns_iff.2 rfl) h

/-- The namespaces of a document are collected with searches that have no bound. -/
def Collects (format : Format) (root : Node) (ns : Namespaces) : Prop :=
  ∃ number, AssignsAll format (Namespaces.needed root format)
    ({ default := Namespaces.defaultOf root format, usesNil := usesNil root }, 0) (ns, number)

/-- The namespaces of every document are collected in the end. -/
theorem collects_iff {format : Format} {root : Node} {ns : Namespaces} :
    Collects format root ns ↔ ns = Namespaces.collect root format := by
  constructor
  · rintro ⟨number, h⟩
    exact congrArg Prod.fst (assignsAll_iff.1 h)
  · rintro rfl
    exact ⟨_, assignsAll_iff.2 rfl⟩

/-! ## What is declared -/

/-- A namespace needs a prefix if an attribute is in it, or an element and it is not the default. -/
def NeedsPrefix (format : Format) (root : Node) (uri : String) : Prop :=
  ∃ h ∈ root.heads, h.uri = some uri ∧ Namespaces.defaultOf root format ≠ some uri ∨
    ∃ a ∈ h.attributes, a.uri = some uri

/-- A prefix with its namespace may follow those that are declared before: it is configured, or it is numbered and
new. -/
def Follows (format : Format) (before : List (String × String)) (d : String × String) : Prop :=
  format.prefixes.get? d.2 = some d.1 ∨ format.prefixes.get? d.2 = none ∧
    d.1 ∉ format.prefixes.values ∧ d.1 ∉ before.map (·.1) ∧ ∃ k, d.1 = numbered k

/-- Every prefix may follow those that are declared before it. -/
def Ordered (format : Format) (ns : Namespaces) : Prop :=
  ∀ before d after, ns.declared = before ++ d :: after → Follows format before d

namespace Namespaces

theorem mem_needed_iff {root : Node} {format : Format} {uri : String} :
    uri ∈ needed root format ↔ NeedsPrefix format root uri := by
  rw [needed, List.mem_append, List.mem_filter, elementUris_eq, attributeUris_eq, mem_foldl_addNew,
    mem_foldl_addNew, bne_iff_ne, NeedsPrefix]
  simp only [List.not_mem_nil, false_or, List.mem_flatMap, Option.mem_toList, List.mem_filterMap]
  constructor
  · rintro (⟨⟨h, hh, huri⟩, hother⟩ | ⟨h, hh, hattribute⟩)
    · exact ⟨h, hh, .inl ⟨huri, hother⟩⟩
    · exact ⟨h, hh, .inr hattribute⟩
  · rintro ⟨h, hh, ⟨huri, hother⟩ | hattribute⟩
    · exact .inl ⟨⟨h, hh, huri⟩, hother⟩
    · exact .inr ⟨h, hh, hattribute⟩

theorem assign_ordered {format : Format} {ns : Namespaces} (number : Nat) (uri : String)
    (hns : Ordered format ns) : Ordered format (assign format (ns, number) uri).1 := by
  by_cases hhas : (ns.prefixOf? uri).isSome
  · rw [assign_eq_self _ hhas]
    exact hns
  · obtain ⟨name, heq, hfollows⟩ := assign_declares format number hhas
    intro before d after hsplit
    rw [heq] at hsplit
    -- the declaration that is looked at is the new one, or the new one comes after it
    rcases after.eq_nil_or_concat with rfl | ⟨after, last, rfl⟩
    · obtain ⟨rfl, hd⟩ := List.append_inj' hsplit rfl
      obtain rfl := List.singleton_inj.1 hd
      exact hfollows
    · rw [List.concat_eq_append, ← List.cons_append, ← List.append_assoc] at hsplit
      exact hns before d after (List.append_inj_left' hsplit rfl)

theorem collect_ordered (root : Node) (format : Format) : Ordered format (collect root format) :=
  foldl_assign_induction (fun _ number uri => assign_ordered number uri) (needed root format) 0
    (by simp [Ordered])

section Declared

variable {root : Node} {format : Format}

/-- The prefix of a namespace is the configured one, if there is one. -/
theorem prefix_eq_of_configured {d : String × String} {name : String}
    (hd : d ∈ (collect root format).declared) (hname : format.prefixes.get? d.2 = some name) : d.1 = name := by
  obtain ⟨before, after, hsplit⟩ := List.append_of_mem hd
  rcases collect_ordered root format before d after hsplit with hconfigured | ⟨hnone, -⟩
  · exact Option.some_inj.1 (hconfigured.symm.trans hname)
  · rw [hname] at hnone
    cases hnone

/-- A prefix that is not numbered is declared exactly if it is configured for a namespace that needs one. -/
theorem mem_prefixes_iff (hsingle : format.Single) {name : String} (hname : ∀ k, name ≠ numbered k) :
    name ∈ (collect root format).declared.map (·.1) ↔
      ∃ u, NeedsPrefix format root u ∧ format.prefixes.get? u = some name := by
  constructor
  · intro hmem
    obtain ⟨d, hd, rfl⟩ := List.mem_map.1 hmem
    rcases (collect_sound root hsingle).origin d hd with hconfigured | ⟨-, k, hk⟩
    · have huri := (mem_collect_uris_iff root format).1 (List.mem_map_of_mem hd)
      exact ⟨d.2, mem_needed_iff.1 huri, hconfigured⟩
    · exact absurd hk (hname k)
  · rintro ⟨u, hneeds, hconfigured⟩
    obtain ⟨d, hd, rfl⟩ := List.mem_map.1 ((mem_collect_uris_iff root format).2 (mem_needed_iff.2 hneeds))
    exact List.mem_map.2 ⟨d, hd, prefix_eq_of_configured hd hconfigured⟩

end Declared

end Namespaces

section RootTag

variable {ns : Namespaces}

theorem xmlns_colon_injective : Function.Injective fun name : String => "xmlns:" ++ name :=
  fun _ _ h => (String.append_right_inj "xmlns:").1 h

theorem xmlns_colon_ne (name : String) : "xmlns:" ++ name ≠ "xmlns" := by
  intro h
  have hcolon : ':' ∈ ("xmlns:" ++ name).toList := by simp
  rw [h] at hcolon
  exact absurd hcolon (by decide)

theorem rootDeclared_names : (rootDeclared ns).map (·.1) = ns.default.toList.map (fun _ => "xmlns") ++
    (ns.declared.map (·.1) ++ if ns.usesNil then ["xsi"] else []).map fun name => "xmlns:" ++ name := by
  rw [rootDeclared, List.append_assoc, List.map_append, List.map_append, List.map_append, List.map_map,
    List.map_map, List.map_map]
  congr 2
  split <;> rfl

/-- The names of the declarations differ exactly if the prefixes do, that of the mark for nil among them. -/
theorem nodup_rootDeclared_iff (hprefixes : (ns.declared.map (·.1)).Nodup) :
    ((rootDeclared ns).map (·.1)).Nodup ↔ (ns.usesNil = true → "xsi" ∉ ns.declared.map (·.1)) := by
  have hdefault : (ns.default.toList.map fun _ => "xmlns").Nodup := by
    cases ns.default with
    | none => exact List.nodup_nil
    | some uri => exact List.nodup_singleton "xmlns"
  have hapart : (ns.default.toList.map fun _ => "xmlns").Disjoint
      ((ns.declared.map (·.1) ++ if ns.usesNil then ["xsi"] else []).map fun name => "xmlns:" ++ name) := by
    intro text hxmlns hprefixed
    obtain ⟨-, -, rfl⟩ := List.mem_map.1 hxmlns
    obtain ⟨name, -, hname⟩ := List.mem_map.1 hprefixed
    exact xmlns_colon_ne name hname
  rw [rootDeclared_names, List.nodup_append', List.nodup_map_iff xmlns_colon_injective, List.nodup_append',
    and_iff_right hdefault, and_iff_left hapart, and_iff_right hprefixes]
  cases ns.usesNil <;> simp

/-- How often a namespace is declared with a prefix. -/
def prefixDeclarations (ns : Namespaces) (uri : String) : Nat :=
  (rootDeclared ns).countP fun d => d.1 != "xmlns" && d.2 == uri

/-- A namespace is declared with its prefix, and that of the mark for nil once more if there is such a mark. -/
theorem prefixDeclarations_eq (huris : (ns.declared.map (·.2)).Nodup) {uri : String}
    (hmem : uri ∈ ns.declared.map (·.2)) :
    prefixDeclarations ns uri = if ns.usesNil = true ∧ uri = instanceUri then 2 else 1 := by
  have hdefault : (ns.default.toList.map fun u => ("xmlns", u)).countP
      (fun d => d.1 != "xmlns" && d.2 == uri) = 0 := by
    cases ns.default <;> rfl
  have hdeclared : (ns.declared.map fun d => ("xmlns:" ++ d.1, d.2)).countP
      (fun d => d.1 != "xmlns" && d.2 == uri) = 1 := by
    rw [← List.count_eq_one_of_mem huris hmem, List.count_eq_countP, List.countP_map, List.countP_map]
    refine List.countP_congr fun d _ => ?_
    simp [xmlns_colon_ne d.1]
  rw [prefixDeclarations, rootDeclared, List.countP_append, List.countP_append, hdefault, hdeclared]
  cases ns.usesNil with
  | false => simp
  | true =>
      by_cases huri : uri = instanceUri
      · simp [huri]
      · simp [huri, Ne.symm huri]

end RootTag

/-! ## The declarations of a document -/

theorem isSome_get?_ofOverrides {o : Overrides} {name uri : String} (h : o.prefixes.get? name = some uri) :
    ((Format.ofOverrides o).prefixes.get? uri).isSome := by
  refine Dict.isSome_get?_ofList_iff.2 ?_
  rw [List.map_map]
  exact List.mem_map.2 ⟨(name, uri), Dict.get?_mem h, rfl⟩

/-- The namespaces of a document are collected in the end.  No prefix is declared twice, unless an element is marked
as nil and the prefix of the mark is configured for a namespace that needs one.  A namespace that needs a prefix is
declared once with one; that of the mark is declared once more if an element is marked.  A prefix that is not
configured is numbered, configured for no other namespace and new.  The overrides may still name it, but only for a
namespace that they name another prefix for, and that one stands. -/
theorem root_declarations (o : Overrides) (root : Node) :
    (∀ ns, Collects (.ofOverrides o) root ns ↔ ns = Namespaces.collect root (.ofOverrides o)) ∧
      rootDeclarations (Namespaces.collect root (.ofOverrides o)) =
        attributesText (rootDeclared (Namespaces.collect root (.ofOverrides o))) ∧
      (((rootDeclared (Namespaces.collect root (.ofOverrides o))).map (·.1)).Nodup ↔
        (usesNil root = true → ∀ uri, NeedsPrefix (.ofOverrides o) root uri →
          (Format.ofOverrides o).prefixes.get? uri ≠ some "xsi")) ∧
      (∀ uri, NeedsPrefix (.ofOverrides o) root uri →
        prefixDeclarations (Namespaces.collect root (.ofOverrides o)) uri =
          if usesNil root = true ∧ uri = instanceUri then 2 else 1) ∧
      ∀ before name uri after,
        (Namespaces.collect root (.ofOverrides o)).declared = before ++ (name, uri) :: after →
        (Format.ofOverrides o).prefixes.get? uri = none →
        (∃ k, name = numbered k) ∧ name ∉ (Format.ofOverrides o).prefixes.values ∧ name ∉ before.map (·.1) ∧
          ∀ other, o.prefixes.get? name = some other →
            ∃ shown, shown ≠ name ∧ (Format.ofOverrides o).prefixes.get? other = some shown := by
  have hsingle := Format.single_ofOverrides o
  have hsound := Namespaces.collect_sound root hsingle
  have hnil := (Namespaces.collect_rest root (.ofOverrides o)).2
  refine ⟨fun ns => collects_iff, attributesText_rootDeclared.symm, ?_, fun uri hneeds => ?_,
    fun before name uri after hsplit hnone => ?_⟩
  · have hnumbered : ∀ k, "xsi" ≠ numbered k := fun k => (numbered_ne (by decide) k).symm
    rw [nodup_rootDeclared_iff hsound.prefixes, hnil, Namespaces.mem_prefixes_iff hsingle hnumbered]
    simp only [not_exists, not_and, ne_eq]
  · rw [← hnil]
    have hmem := (Namespaces.mem_collect_uris_iff root (.ofOverrides o)).2 (Namespaces.mem_needed_iff.2 hneeds)
    exact prefixDeclarations_eq hsound.uris hmem
  · rcases Namespaces.collect_ordered root _ before _ after hsplit with hconfigured | ⟨-, hvalues, hnew, hnumbered⟩
    · rw [hnone] at hconfigured
      cases hconfigured
    · refine ⟨hnumbered, hvalues, hnew, fun other hother => ?_⟩
      obtain ⟨shown, hshown⟩ := Option.isSome_iff_exists.1 (isSome_get?_ofOverrides hother)
      refine ⟨shown, ?_, hshown⟩
      rintro rfl
      exact hvalues (List.mem_map.2 ⟨_, Dict.get?_mem hshown, rfl⟩)

/-- Overrides that name the prefix of the mark for nil for a namespace. -/
def instanceOverrides : Overrides := { prefixes := Dict.empty.insert "xsi" "urn:x" }

/-- A root without a namespace, and below it an element in the namespace that is marked as nil. -/
def nilDocument : Node :=
  .mk { name := "Root" } [.element (.mk { name := "Other", uri := some "urn:x", nil := true } [])]

/-- The prefix of the mark for nil is declared twice if it is configured for a namespace. -/
theorem instance_prefix_repeated : ¬ ∀ (o : Overrides) (root : Node),
    ((rootDeclared (Namespaces.collect root (.ofOverrides o))).map (·.1)).Nodup := by
  intro h
  exact absurd (h instanceOverrides nilDocument) (by decide +kernel)

end Xml
end Specimen
