import Specimen.Proofs.Run.Recursion
import Specimen.Proofs.Schema.Leaves

/-!
# What a minimal document keeps

In the minimalistic mode something optional is kept when its path is above that of a leaf of the catalog that a
field of a relationship stands for.  The catalog stops where a named type is entered a second time, and the walk
goes on there.  So an optional element is kept exactly if it holds such a leaf and no named type is entered twice
on the way to the leaf.  Deeper in a recursive type, what belongs to a relationship is left out all the same.
-/

namespace Specimen

/-- A field of a relationship stands for a leaf with a name and a path. -/
def Plan.Participates (plan : Plan) (name path : String) : Prop :=
  ∃ field ∈ plan.owners.keys, keyMatches field name path = true

namespace Index

theorem contains_closedPaths {entries : List CatalogEntry} {p : String} :
    (closedPaths entries).contains p = true ↔ ∃ entry ∈ entries, p ∈ pathsAbove entry.path := by
  unfold closedPaths
  rw [Std.HashSet.contains_ofList, List.contains_iff_mem, List.mem_flatMap]

theorem contains_relationshipPaths {catalog : List CatalogEntry} {plan : Plan} {p : String} :
    (ofCatalog catalog plan).relationshipPaths.contains p = true ↔
      ∃ entry ∈ catalog, entry.isLeaf = true ∧ plan.Participates entry.name entry.path ∧
        p ∈ pathsAbove entry.path := by
  unfold ofCatalog
  rw [contains_closedPaths]
  simp only [List.mem_filter, Bool.and_eq_true, List.any_eq_true, CatalogEntry.matchesKey, and_assoc]
  exact Iff.rfl

end Index

namespace Generation

variable {schema : Schema} {config : Config} {options : Options} {setup : Setup} {root : Element}

theorem Prepared.index_eq (h : Prepared schema config options setup root) :
    ∃ entries, schema.ListsAll [] "" schema.elements entries ∧
      setup.index = Index.ofCatalog entries setup.plan := by
  obtain ⟨entries, hcatalog, hentries⟩ := Schema.catalog_lists h.valid
  obtain ⟨catalog, hcatalog', hindex⟩ := h.index_eq_ofCatalog
  obtain rfl := Except.ok.inj (hcatalog.symm.trans hcatalog')
  exact ⟨entries, hentries, hindex⟩

theorem optionalPresent_of_minimalistic (hmode : setup.plan.settings.mode = .minimalistic)
    (name path : String) :
    Walk.optionalPresent setup name path = setup.index.relationshipPaths.contains path := by
  unfold Walk.optionalPresent Index.isForced
  rw [hmode]

/-- In the minimalistic mode the paths of what is kept are those above a leaf that belongs to a relationship and
is reached without entering a named type twice. -/
theorem Prepared.present_iff (h : Prepared schema config options setup root)
    (hmode : setup.plan.settings.mode = .minimalistic) (name path : String) :
    Walk.optionalPresent setup name path = true ↔
      ∃ top ∈ schema.elements, ∃ leaf leafPath inner, inner.Nodup ∧
        schema.Holds (joinPath "" top.name) [] top leaf leafPath inner ∧
          setup.plan.Participates leaf leafPath ∧ path ∈ pathsAbove leafPath := by
  obtain ⟨entries, hentries, hindex⟩ := h.index_eq
  rw [optionalPresent_of_minimalistic hmode, hindex, Index.contains_relationshipPaths]
  constructor
  · rintro ⟨entry, hentry, hleaf, hparticipates, habove⟩
    obtain ⟨top, htop, inner, hnodup, hholds⟩ :=
      (Schema.exists_leaf_entry_iff hentries).1 ⟨entry, hentry, hleaf, rfl, rfl⟩
    exact ⟨top, htop, _, _, inner, hnodup, hholds, hparticipates, habove⟩
  · rintro ⟨top, htop, leaf, leafPath, inner, hnodup, hholds, hparticipates, habove⟩
    obtain ⟨entry, hentry, hleaf, rfl, rfl⟩ :=
      (Schema.exists_leaf_entry_iff hentries).2 ⟨top, htop, inner, hnodup, hholds⟩
    exact ⟨entry, hentry, hleaf, hparticipates, habove⟩

section Reached

variable (h : Prepared schema config options setup root) (hmode : setup.plan.settings.mode = .minimalistic)
  {top e : Element} {path : String} {stack : List String} (htop : top ∈ schema.elements)
  (hreaches : schema.Reaches top path stack e)

include h hmode htop hreaches

/-- An optional element is kept if it holds a leaf that belongs to a relationship, and no named type is entered
twice on the way to the leaf. -/
theorem element_present {leaf leafPath : String} {inner : List String}
    (hholds : schema.Holds path stack e leaf leafPath inner) (hnodup : inner.Nodup)
    (hparticipates : setup.plan.Participates leaf leafPath) (name : String) :
    Walk.optionalPresent setup name path = true :=
  (h.present_iff hmode name path).2 ⟨top, htop, leaf, leafPath, inner, hnodup, hreaches.holds hholds,
    hparticipates, hholds.mem_pathsAbove h.valid htop hreaches⟩

/-- An optional attribute is kept if it belongs to a relationship, and no named type is entered twice on the way to
its element. -/
theorem attribute_present {type : ResolvedType} (htype : schema.resolveType e = .ok type) {a : AttributeDecl}
    (ha : a ∈ type.attributes) (hnodup : stack.Nodup)
    (hparticipates : setup.plan.Participates ("@" ++ a.name) (path ++ "/@" ++ a.name)) :
    Walk.optionalPresent setup ("@" ++ a.name) (path ++ "/@" ++ a.name) = true :=
  (h.present_iff hmode _ _).2 ⟨top, htop, _, _, stack, hnodup, hreaches.holds (.attr htype ha), hparticipates,
    mem_pathsAbove_self _⟩

variable (hplain : schema.PlainlyNamed) (hconsistent : schema.Consistent)

include hplain hconsistent

/-- An optional element is kept exactly if it holds a leaf that belongs to a relationship, and no named type is
entered twice on the way to the leaf. -/
theorem element_present_iff :
    Walk.optionalPresent setup e.name path = true ↔ ∃ leaf leafPath inner,
      schema.Holds path stack e leaf leafPath inner ∧ inner.Nodup ∧ setup.plan.Participates leaf leafPath := by
  constructor
  · rw [h.present_iff hmode]
    rintro ⟨top', htop', leaf, leafPath, inner, hnodup, hholds, hparticipates, habove⟩
    rcases hholds.above_root h.valid htop' hplain habove with
      ⟨stack', e', hreaches', hbelow⟩ | ⟨hattribute, -⟩
    · obtain ⟨rfl, hname⟩ := hreaches.same h.valid htop hplain hconsistent htop' hreaches'
      have htype := hconsistent top htop top' htop' _ _ _ _ _ hreaches hreaches'
      exact ⟨leaf, leafPath, inner, hbelow.congr hname.symm htype.symm, hnodup, hparticipates⟩
    · exact (hreaches.not_attributeAt h.valid htop hplain htop' hattribute).elim
  · rintro ⟨leaf, leafPath, inner, hholds, hnodup, hparticipates⟩
    exact element_present h hmode htop hreaches hholds hnodup hparticipates e.name

/-- An optional attribute is kept exactly if it belongs to a relationship, and no named type is entered twice on
the way to its element. -/
theorem attribute_present_iff {type : ResolvedType} (htype : schema.resolveType e = .ok type)
    {a : AttributeDecl} (ha : a ∈ type.attributes) :
    Walk.optionalPresent setup ("@" ++ a.name) (path ++ "/@" ++ a.name) = true ↔
      stack.Nodup ∧ setup.plan.Participates ("@" ++ a.name) (path ++ "/@" ++ a.name) := by
  have hslash := hreaches.slashless_attr htop hplain htype ha
  have hattribute : schema.AttributeAt top (path ++ "/@" ++ a.name) stack ("@" ++ a.name) :=
    ⟨path, e, type, a, hreaches, htype, ha, rfl, rfl⟩
  constructor
  · rw [h.present_iff hmode]
    rintro ⟨top', htop', leaf, leafPath, inner, hnodup, hholds, hparticipates, habove⟩
    rcases hholds.above_root h.valid htop' hplain habove with
      ⟨stack', e', hreaches', -⟩ | ⟨⟨owner, e', type', a', hreaches', htype', ha', rfl, hpath⟩, rfl⟩
    · exact (hreaches'.not_attributeAt h.valid htop' hplain htop hattribute).elim
    · have hslash' := hreaches'.slashless_attr htop' hplain htype' ha'
      rw [attribute_path, attribute_path] at hpath
      obtain ⟨rfl, hname⟩ := child_inj hslash hslash' hpath
      obtain ⟨rfl, -⟩ := hreaches.same h.valid htop hplain hconsistent htop' hreaches'
      exact ⟨hnodup, hname ▸ hparticipates⟩
  · rintro ⟨hnodup, hparticipates⟩
    exact attribute_present h hmode htop hreaches htype ha hnodup hparticipates

end Reached

/-- What is kept in the minimalistic mode follows what belongs to relationships.  In every schema, what is optional
is kept exactly at the paths above a leaf that belongs to a relationship and is reached without entering a named
type twice.  So wherever the walk can come, an element that is or holds such a leaf is kept, and so is an attribute
that is one.  The converse needs that a path tells what is at it: that no name has a slash, no element a name like
an attribute, and elements at the same path the same type.  In a schema without recursive types no named type is
entered twice, and this condition falls away. -/
theorem presence_follows_participation (schema : Schema) (config : Config) (options : Options) (setup : Setup)
    (root : Element) (hprepared : prepare schema config options = .ok (setup, root))
    (hmode : setup.plan.settings.mode = .minimalistic) (path : String) (stack : List String) (e : Element)
    (hvisits : Walk.Visits setup root path stack e) (type : ResolvedType)
    (htype : schema.resolveType e = .ok type) :
    (∀ name p, Walk.optionalPresent setup name p = true ↔
      ∃ top ∈ schema.elements, ∃ leaf leafPath inner, inner.Nodup ∧
        schema.Holds (joinPath "" top.name) [] top leaf leafPath inner ∧
          setup.plan.Participates leaf leafPath ∧ p ∈ pathsAbove leafPath) ∧
    (∀ leaf leafPath inner, schema.Holds path stack e leaf leafPath inner → inner.Nodup →
      setup.plan.Participates leaf leafPath → Walk.optionalPresent setup e.name path = true) ∧
    (∀ a ∈ type.attributes, stack.Nodup →
      setup.plan.Participates ("@" ++ a.name) (path ++ "/@" ++ a.name) →
        Walk.optionalPresent setup ("@" ++ a.name) (path ++ "/@" ++ a.name) = true) ∧
    (schema.PlainlyNamed → schema.Consistent →
      (Walk.optionalPresent setup e.name path = true ↔ ∃ leaf leafPath inner,
        schema.Holds path stack e leaf leafPath inner ∧ inner.Nodup ∧
          setup.plan.Participates leaf leafPath) ∧
      (∀ a ∈ type.attributes,
        (Walk.optionalPresent setup ("@" ++ a.name) (path ++ "/@" ++ a.name) = true ↔
          stack.Nodup ∧ setup.plan.Participates ("@" ++ a.name) (path ++ "/@" ++ a.name))) ∧
      (schema.typeGraph.recursive = [] →
        (Walk.optionalPresent setup e.name path = true ↔ ∃ leaf leafPath inner,
          schema.Holds path stack e leaf leafPath inner ∧ setup.plan.Participates leaf leafPath) ∧
        ∀ a ∈ type.attributes,
          (Walk.optionalPresent setup ("@" ++ a.name) (path ++ "/@" ++ a.name) = true ↔
            setup.plan.Participates ("@" ++ a.name) (path ++ "/@" ++ a.name)))) := by
  have h := prepared_of_prepare hprepared
  have hreaches : schema.Reaches root path stack e := h.schema_eq ▸ hvisits.reaches
  refine ⟨h.present_iff hmode, fun leaf leafPath inner hholds hnodup hparticipates => ?_,
    fun a ha => attribute_present h hmode h.root_mem hreaches htype ha, fun hplain hconsistent => ?_⟩
  · exact element_present h hmode h.root_mem hreaches hholds hnodup hparticipates e.name
  · have helement := element_present_iff h hmode h.root_mem hreaches hplain hconsistent
    have hattribute : ∀ a ∈ type.attributes, _ := fun a ha =>
      attribute_present_iff h hmode h.root_mem hreaches hplain hconsistent htype ha
    refine ⟨helement, hattribute, fun hnone => ⟨helement.trans ?_, fun a ha => (hattribute a ha).trans ?_⟩⟩
    · constructor
      · rintro ⟨leaf, leafPath, inner, hholds, -, hparticipates⟩
        exact ⟨leaf, leafPath, inner, hholds, hparticipates⟩
      · rintro ⟨leaf, leafPath, inner, hholds, hparticipates⟩
        obtain ⟨innerPath, owner, howner⟩ := hholds.exists_reaches hreaches
        exact ⟨leaf, leafPath, inner, hholds, howner.nodup hnone, hparticipates⟩
    · exact and_iff_right (hreaches.nodup hnone)

/-! ## Labels of nodes -/

/-- An optional label. -/
def labelElement : Element :=
  .mk { name := "Label", typeRef := some "xs:string", minOccurs := 0, fixed := some "x" } none

/-- A node, with a name of its own. -/
def nodeElement (name : String) : Element := .mk { name, typeRef := some "NodeType" } none

/-- The content of a node: a label and another node. -/
def nodeContent : Group :=
  .mk { kind := .sequence } [.element labelElement, .element (nodeElement "Child")]

/-- A schema of nodes, each of which contains another one. -/
def nodeSchema : Schema where
  version := "1"
  elements := [nodeElement "Node"]
  types := [{ name := "NodeType", content := some nodeContent }]

/-- A configuration that keeps labels alone, since they belong to a relationship. -/
def labelConfig : Config where
  settings := { mode := "minimalistic", maxDepth := 2 }
  relationships := Dict.empty.insert "labels" { fields := ["Label"], strategy := "dependent_values" }

theorem resolveType_node (name : String) : nodeSchema.resolveType (nodeElement name) =
    .ok { identity := some "NodeType", content := .complex nodeContent, attributes := [] } := rfl

theorem resolveType_label : nodeSchema.resolveType labelElement =
    .ok { identity := none, content := .builtin .string, attributes := [] } := rfl

theorem declares_node {e : Element} (h : nodeSchema.Declares e) :
    e ∈ [nodeElement "Node", labelElement, nodeElement "Child"] := by
  induction h with
  | global he => exact List.mem_cons.2 (.inl (List.mem_singleton.1 he))
  | typed ht hcontent he =>
      obtain rfl := List.mem_singleton.1 ht
      cases hcontent
      exact List.mem_cons_of_mem _ he
  | inner _ hcontent _ ih =>
      simp only [List.mem_cons, List.not_mem_nil, or_false] at ih
      rcases ih with rfl | rfl | rfl <;> cases hcontent

theorem ne_attribute {name : String} (h : name.toList.head? ≠ some '@') (rest : String) :
    name ≠ "@" ++ rest := by
  rintro rfl
  exact h (by simp [String.toList_append])

theorem nodeSchema_plainlyNamed : nodeSchema.PlainlyNamed := by
  constructor
  · intro e he
    have hname := declares_node he
    simp only [List.mem_cons, List.not_mem_nil, or_false] at hname
    rcases hname with rfl | rfl | rfl
    · exact ⟨by decide, ne_attribute (by decide)⟩
    · exact ⟨by decide, ne_attribute (by decide)⟩
    · exact ⟨by decide, ne_attribute (by decide)⟩
  · rintro a (⟨e, he, ha⟩ | ⟨t, ht, ha⟩)
    · have hname := declares_node he
      simp only [List.mem_cons, List.not_mem_nil, or_false] at hname
      rcases hname with rfl | rfl | rfl <;> cases ha
    · obtain rfl := List.mem_singleton.1 ht
      cases ha

theorem nodeSchema_consistent : nodeSchema.Consistent := by
  refine Schema.consistent_of_names (by decide +kernel) nodeSchema_plainlyNamed fun e e' he he' hname => ?_
  have hmem := declares_node he
  have hmem' := declares_node he'
  simp only [List.mem_cons, List.not_mem_nil, or_false] at hmem hmem'
  rcases hmem with rfl | rfl | rfl <;> rcases hmem' with rfl | rfl | rfl <;>
    first | rfl | exact absurd hname (by decide)

theorem exists_nodeSetup : ∃ setup, prepare nodeSchema labelConfig {} = .ok (setup, nodeElement "Node") ∧
    setup.plan.settings.mode = .minimalistic ∧ setup.plan.settings.maxDepth = 2 ∧
      setup.plan.owners.keys = ["Label"] := by
  have hcomputed : (match prepare nodeSchema labelConfig {} with
      | .ok (setup, _) => decide (setup.plan.settings.mode = .minimalistic) &&
          (setup.plan.settings.maxDepth == 2 && setup.plan.owners.keys == ["Label"])
      | .error _ => false) = true := by decide +kernel
  split at hcomputed
  · rename_i setup root hprepared
    rw [Bool.and_eq_true, Bool.and_eq_true, decide_eq_true_eq, beq_iff_eq, beq_iff_eq] at hcomputed
    obtain ⟨hmode, hdepth, howners⟩ := hcomputed
    have hroot := (prepared_of_prepare hprepared).root_mem
    obtain rfl : root = nodeElement "Node" := by simpa [nodeSchema] using hroot
    exact ⟨setup, hprepared, hmode, hdepth, howners⟩
  · cases hcomputed

/-- Wherever the guard admits another node, the walk can come to its label and to the node in it. -/
theorem visits_inner {setup : Setup}
    (hprepared : prepare nodeSchema labelConfig {} = .ok (setup, nodeElement "Node"))
    (hdepth : setup.plan.settings.maxDepth = 2) {path name : String} {stack : List String}
    (h : Walk.Visits setup (nodeElement "Node") path stack (nodeElement name)) (hlength : stack.length ≤ 1) :
    ∀ c ∈ nodeContent.declared,
      Walk.Visits setup (nodeElement "Node") (joinPath path c.name) ("NodeType" :: stack) c := by
  have hp := prepared_of_prepare hprepared
  have hadmits : Walk.Admits setup stack
      { identity := some "NodeType", content := .complex nodeContent, attributes := [] } := by
    refine ⟨{ RunState.start 0 {} with openTypes := stack }, rfl, ?_⟩
    have hcount : stack.count "NodeType" ≤ 1 := List.count_le_length.trans hlength
    have hadmitted :
        Walk.wouldTruncate setup { RunState.start 0 {} with openTypes := stack } "NodeType" = false := by
      unfold Walk.wouldTruncate RunState.occurrences
      rw [hp.options_eq, hdepth, Bool.or_eq_false_iff, decide_eq_false_iff_not]
      refine ⟨fun h => ?_, rfl⟩
      have htwo : (2 : UInt32).toNat = 2 := rfl
      rw [htwo] at h
      dsimp only at h
      omega
    unfold Walk.refused?
    dsimp only
    rw [Option.filter_some, hadmitted]
    rfl
  exact fun c hc => .child h (hp.schema_eq ▸ resolveType_node name) rfl hadmits hc

theorem presence_follows_participation_node : ∃ setup,
    prepare nodeSchema labelConfig {} = .ok (setup, nodeElement "Node") ∧
      setup.plan.settings.mode = .minimalistic ∧ nodeSchema.PlainlyNamed ∧ nodeSchema.Consistent ∧
      Walk.Visits setup (nodeElement "Node") "Node/Label" ["NodeType"] labelElement ∧
      (∃ type, nodeSchema.resolveType labelElement = .ok type) ∧
      Walk.optionalPresent setup "Label" "Node/Label" = true := by
  obtain ⟨setup, hprepared, hmode, hdepth, howners⟩ := exists_nodeSetup
  have hvisits := visits_inner hprepared hdepth .root (Nat.zero_le 1) labelElement List.mem_cons_self
  have hpresent := ((presence_follows_participation nodeSchema labelConfig {} setup (nodeElement "Node")
    hprepared hmode _ _ _ hvisits _ resolveType_label).2.2.2 nodeSchema_plainlyNamed nodeSchema_consistent).1
  refine ⟨setup, hprepared, hmode, nodeSchema_plainlyNamed, nodeSchema_consistent, hvisits,
    ⟨_, resolveType_label⟩, hpresent.2 ⟨"Label", "Node/Label", ["NodeType"], ?_, ?_, ?_⟩⟩
  · exact .text resolveType_label rfl
  · exact List.nodup_singleton _
  · exact ⟨"Label", howners ▸ List.mem_cons_self, by decide⟩

/-- A label that belongs to a relationship is left out in a node that is in another one. -/
theorem inner_label_left_out : ∃ setup, prepare nodeSchema labelConfig {} = .ok (setup, nodeElement "Node") ∧
    setup.plan.settings.mode = .minimalistic ∧
    Walk.Visits setup (nodeElement "Node") "Node/Child/Label" ["NodeType", "NodeType"] labelElement ∧
    labelElement.minOccurs = 0 ∧
    nodeSchema.Holds "Node/Child/Label" ["NodeType", "NodeType"] labelElement "Label" "Node/Child/Label"
      ["NodeType", "NodeType"] ∧
    setup.plan.Participates "Label" "Node/Child/Label" ∧
    Walk.optionalPresent setup "Label" "Node/Child/Label" = false := by
  obtain ⟨setup, hprepared, hmode, hdepth, howners⟩ := exists_nodeSetup
  have h := prepared_of_prepare hprepared
  have hchild := visits_inner hprepared hdepth .root (Nat.zero_le 1) (nodeElement "Child")
    (List.mem_cons_of_mem _ List.mem_cons_self)
  have hvisits := visits_inner hprepared hdepth hchild (Nat.le_refl 1) labelElement List.mem_cons_self
  have hreaches : nodeSchema.Reaches (nodeElement "Node") "Node/Child/Label" ["NodeType", "NodeType"]
      labelElement := h.schema_eq ▸ hvisits.reaches
  refine ⟨setup, hprepared, hmode, hvisits, rfl, .text resolveType_label rfl,
    ⟨"Label", howners ▸ List.mem_cons_self, by decide⟩, ?_⟩
  rw [Bool.eq_false_iff]
  intro hpresent
  obtain ⟨leaf, leafPath, inner, hholds, hnodup, -⟩ := (element_present_iff h hmode h.root_mem hreaches
    nodeSchema_plainlyNamed nodeSchema_consistent).1 hpresent
  cases hholds with
  | text => exact absurd hnodup (by decide)
  | attr => exact absurd hnodup (by decide)
  | child htype hcontent =>
      cases resolveType_label.symm.trans htype
      cases hcontent

end Generation
end Specimen
