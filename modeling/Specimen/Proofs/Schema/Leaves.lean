import Specimen.Proofs.Plan.Paths
import Specimen.Proofs.Schema.Listing

/-!
# Leaves at or below an element

What has a text or is an attribute is a leaf.  `Holds` follows the declarations from an element at a path down
to a leaf and keeps the named types that are entered on the way.  The catalog has exactly those leaves below the
global elements that are reached without entering a named type twice.

In a schema whose names are plain the segments of a path are the names on the way.  Then the paths above the
path of a leaf are those of the elements that hold it, and its own.
-/

namespace Specimen

theorem List.exists_of_mem_mapM {ε α β : Type} {f : α → Except ε β} {l : List α} {bs : List β}
    (h : l.mapM f = .ok bs) {b : β} (hb : b ∈ bs) : ∃ a ∈ l, f a = .ok b := by
  induction l generalizing bs with
  | nil =>
      cases h
      cases hb
  | cons a rest ih =>
      rw [List.mapM_cons] at h
      obtain ⟨first, hfirst, h⟩ := Except.bind_eq_ok.1 h
      obtain ⟨more, hmore, h⟩ := Except.bind_eq_ok.1 h
      cases h
      rcases List.mem_cons.1 hb with rfl | hb
      · exact ⟨a, List.mem_cons_self, hfirst⟩
      · obtain ⟨a', ha', hfa⟩ := ih hmore hb
        exact ⟨a', List.mem_cons_of_mem _ ha', hfa⟩

namespace Schema

variable {schema : Schema} {root e : Element} {path : String} {stack : List String}

/-- The leaves at or below an element at a path: their names and paths, and the named types that are entered on
the way from the root to what they belong to. -/
inductive Holds (schema : Schema) : (path : String) → (stack : List String) → Element →
    (name leafPath : String) → (inner : List String) → Prop where
  | text {path : String} {stack : List String} {e : Element} {type : ResolvedType}
      (htype : schema.resolveType e = .ok type) (htext : type.content.facets?.isSome = true) :
      Holds schema path stack e e.name path stack
  | attr {path : String} {stack : List String} {e : Element} {type : ResolvedType} {a : AttributeDecl}
      (htype : schema.resolveType e = .ok type) (ha : a ∈ type.attributes) :
      Holds schema path stack e ("@" ++ a.name) (path ++ "/@" ++ a.name) stack
  | child {path : String} {stack : List String} {e : Element} {type : ResolvedType} {g : Group} {c : Element}
      {name leafPath : String} {inner : List String} (htype : schema.resolveType e = .ok type)
      (hcontent : type.content = .complex g) (hc : c ∈ g.declared)
      (hbelow : Holds schema (joinPath path c.name) (type.identity.toList ++ stack) c name leafPath inner) :
      Holds schema path stack e name leafPath inner

/-- What an element holds depends on its name and its type. -/
theorem Holds.congr {name leafPath : String} {inner : List String}
    (h : schema.Holds path stack e name leafPath inner) {e' : Element} (hname : e.name = e'.name)
    (htype : schema.resolveType e = schema.resolveType e') :
    schema.Holds path stack e' name leafPath inner := by
  cases h with
  | text hresolve htext =>
      rw [hname]
      exact .text (htype ▸ hresolve) htext
  | attr hresolve ha => exact .attr (htype ▸ hresolve) ha
  | child hresolve hcontent hc hbelow => exact .child (htype ▸ hresolve) hcontent hc hbelow

/-- What an element holds the root holds. -/
theorem Reaches.holds {name leafPath : String} {inner : List String} (h : schema.Reaches root path stack e)
    (hleaf : schema.Holds path stack e name leafPath inner) :
    schema.Holds (joinPath "" root.name) [] root name leafPath inner := by
  induction h with
  | root => exact hleaf
  | child _ hresolve hcontent hc ih => exact ih (.child hresolve hcontent hc hleaf)

/-- The types that are entered on the way to a leaf are those on the way to what it belongs to. -/
theorem Holds.exists_reaches {name leafPath : String} {inner : List String}
    (h : schema.Holds path stack e name leafPath inner) (hreaches : schema.Reaches root path stack e) :
    ∃ innerPath owner, schema.Reaches root innerPath inner owner := by
  induction h with
  | text => exact ⟨_, _, hreaches⟩
  | attr => exact ⟨_, _, hreaches⟩
  | child htype hcontent hc _ ih => exact ih (hreaches.child htype hcontent hc)

/-! ## Leaves in the catalog -/

/-- An entry is that of an element, or of an attribute of it, that is reached from a global element without
entering a named type twice. -/
inductive Listed (schema : Schema) (entry : CatalogEntry) : Prop where
  | element {root e : Element} {path : String} {stack : List String} {type : ResolvedType}
      (hroot : root ∈ schema.elements) (hreaches : schema.Reaches root path stack e) (hnodup : stack.Nodup)
      (htype : schema.resolveType e = .ok type) (hname : entry.name = e.name) (hpath : entry.path = path)
      (hfacets : entry.facets = type.content.facets?) : Listed schema entry
  | attr {root e : Element} {path : String} {stack : List String} {type : ResolvedType}
      {a : AttributeDecl} (hroot : root ∈ schema.elements) (hreaches : schema.Reaches root path stack e)
      (hnodup : stack.Nodup) (htype : schema.resolveType e = .ok type) (ha : a ∈ type.attributes)
      (hname : entry.name = "@" ++ a.name) (hpath : entry.path = path ++ "/@" ++ a.name) :
      Listed schema entry

section Listed

variable (hroot : root ∈ schema.elements)

include hroot

theorem listed_of_elementEntries {type : ResolvedType} {own : List CatalogEntry}
    (hreaches : schema.Reaches root path stack e) (hnodup : stack.Nodup)
    (htype : schema.resolveType e = .ok type) (hown : schema.elementEntries path e type = .ok own) :
    ∀ entry ∈ own, schema.Listed entry := by
  obtain ⟨attributes, hattributes, rfl⟩ := elementEntries_eq_ok.1 hown
  intro entry hentry
  rcases List.mem_cons.1 hentry with rfl | hentry
  · exact .element hroot hreaches hnodup htype rfl rfl rfl
  · obtain ⟨a, ha, hmade⟩ := List.exists_of_mem_mapM hattributes hentry
    obtain ⟨facets, -, hmade⟩ := Except.bind_eq_ok.1 hmade
    cases hmade
    exact .attr hroot hreaches hnodup htype ha rfl rfl

end Listed

/-- Whatever is listed below elements that are reached without entering a type twice is reached so. -/
theorem ListsAll.listed {es : List Element} {entries : List CatalogEntry}
    (h : schema.ListsAll stack path es entries) (hnodup : stack.Nodup)
    (hreaches : ∀ e ∈ es, ∃ root ∈ schema.elements, schema.Reaches root (joinPath path e.name) stack e) :
    ∀ entry ∈ entries, schema.Listed entry := by
  refine @ListsAll.rec schema
    (fun active path e part _ => active.Nodup →
      (∃ root ∈ schema.elements, schema.Reaches root path active e) → ∀ entry ∈ part, schema.Listed entry)
    (fun active path es part _ => active.Nodup →
      (∀ e ∈ es, ∃ root ∈ schema.elements, schema.Reaches root (joinPath path e.name) active e) →
        ∀ entry ∈ part, schema.Listed entry)
    ?closed ?opened ?nil ?cons stack path es entries h hnodup hreaches
  case closed =>
    rintro active path e type own htype hown - hnodup ⟨root, hroot, he⟩
    exact listed_of_elementEntries hroot he hnodup htype hown
  case opened =>
    rintro active path e type g own more htype hown hcontent hfresh - ih hnodup ⟨root, hroot, he⟩
    have hopened : (type.identity.toList ++ active).Nodup := by
      cases hidentity : type.identity with
      | none => exact hnodup
      | some identity => exact List.nodup_cons.2 ⟨fun hopen => hfresh identity hopen hidentity, hnodup⟩
    have hmore := ih hopened fun c hc => ⟨root, hroot, he.child htype hcontent hc⟩
    intro entry hentry
    rcases List.mem_append.1 hentry with hentry | hentry
    · exact listed_of_elementEntries hroot he hnodup htype hown entry hentry
    · exact hmore entry hentry
  case nil =>
    rintro active path - -
    exact List.forall_mem_nil _
  case cons =>
    rintro active path e rest first more - - ihfirst ihrest hnodup hreaches
    intro entry hentry
    rcases List.mem_append.1 hentry with hentry | hentry
    · exact ihfirst hnodup (hreaches e List.mem_cons_self) entry hentry
    · exact ihrest hnodup (fun c hc => hreaches c (List.mem_cons_of_mem _ hc)) entry hentry

theorem Listed.holds {entry : CatalogEntry} (h : schema.Listed entry) (hleaf : entry.isLeaf = true) :
    ∃ root ∈ schema.elements, ∃ inner, inner.Nodup ∧
      schema.Holds (joinPath "" root.name) [] root entry.name entry.path inner := by
  cases h with
  | element hroot hreaches hnodup htype hname hpath hfacets =>
      unfold CatalogEntry.isLeaf at hleaf
      rw [hfacets] at hleaf
      rw [hname, hpath]
      exact ⟨_, hroot, _, hnodup, hreaches.holds (.text htype hleaf)⟩
  | attr hroot hreaches hnodup htype ha hname hpath =>
      rw [hname, hpath]
      exact ⟨_, hroot, _, hnodup, hreaches.holds (.attr htype ha)⟩

/-- The catalog has each leaf that is reached without entering a named type twice. -/
theorem Holds.exists_entry {entries : List CatalogEntry} {name leafPath : String} {inner : List String}
    (hroot : root ∈ schema.elements) (hentries : schema.ListsAll [] "" schema.elements entries)
    (h : schema.Holds path stack e name leafPath inner) (hreaches : schema.Reaches root path stack e)
    (hnodup : inner.Nodup) :
    ∃ entry ∈ entries, entry.isLeaf = true ∧ entry.name = name ∧ entry.path = leafPath := by
  induction h with
  | text htype htext =>
      obtain ⟨entry, hentry, -, hpath, hname, hfacets⟩ :=
        (hreaches.covers hroot hentries hnodup htype).element
      refine ⟨entry, hentry, ?_, hname, hpath⟩
      unfold CatalogEntry.isLeaf
      rw [hfacets]
      exact htext
  | attr htype ha =>
      obtain ⟨facets, -, entry, hentry, -, hpath, hname, hfacets⟩ :=
        (hreaches.covers hroot hentries hnodup htype).attributes _ ha
      refine ⟨entry, hentry, ?_, hname, hpath⟩
      unfold CatalogEntry.isLeaf
      rw [hfacets]
      rfl
  | child htype hcontent hc _ ih => exact ih (hreaches.child htype hcontent hc) hnodup

/-- The leaves of the catalog are those below the global elements that are reached without entering a named
type twice. -/
theorem exists_leaf_entry_iff {entries : List CatalogEntry}
    (hentries : schema.ListsAll [] "" schema.elements entries) {name leafPath : String} :
    (∃ entry ∈ entries, entry.isLeaf = true ∧ entry.name = name ∧ entry.path = leafPath) ↔
      ∃ root ∈ schema.elements, ∃ inner, inner.Nodup ∧
        schema.Holds (joinPath "" root.name) [] root name leafPath inner := by
  constructor
  · rintro ⟨entry, hentry, hleaf, rfl, rfl⟩
    exact (hentries.listed List.nodup_nil (fun e he => ⟨e, he, .root⟩) entry hentry).holds hleaf
  · rintro ⟨root, hroot, inner, hnodup, hholds⟩
    exact hholds.exists_entry hroot hentries .root hnodup

/-! ## Plain names -/

/-- No name of a declaration has a slash, and no name of an element begins like that of an attribute. -/
structure PlainlyNamed (schema : Schema) : Prop where
  elements : ∀ e, schema.Declares e → '/' ∉ e.name.toList ∧ ∀ rest, e.name ≠ "@" ++ rest
  attributes : ∀ a, schema.DeclaresAttribute a → '/' ∉ a.name.toList

theorem Reaches.declares (h : schema.Reaches root path stack e) (hroot : root ∈ schema.elements) :
    schema.Declares e := by
  induction h with
  | root => exact .global hroot
  | child _ hresolve hcontent hc ih =>
      rcases resolveType_eq_ok hresolve with
        ⟨content, rfl, hmembers⟩ | ⟨t, content, rfl, -, -, -, ht, hmembers⟩
      · exact ih.inner (hmembers _ hcontent) hc
      · exact .typed (List.mem_of_find?_eq_some ht) (hmembers _ hcontent) hc

theorem Declares.declaresAttribute (h : schema.Declares e) {type : ResolvedType}
    (hresolve : schema.resolveType e = .ok type) {a : AttributeDecl} (ha : a ∈ type.attributes) :
    schema.DeclaresAttribute a := by
  rcases resolveType_eq_ok hresolve with ⟨content, rfl, -⟩ | ⟨t, content, rfl, -, -, -, ht, -⟩
  · exact .inl ⟨e, h, ha⟩
  · rcases List.mem_append.1 ha with ha | ha
    · exact .inl ⟨e, h, ha⟩
    · exact .inr ⟨t, List.mem_of_find?_eq_some ht, ha⟩

theorem name_ne_empty (he : schema.ElementPasses e) : e.name ≠ "" := by
  obtain ⟨path, hdecl⟩ := checkDecl_of_elementPasses he
  intro hempty
  unfold checkDecl at hdecl
  rw [hempty] at hdecl
  have hblank : Text.isAllBlank "" = true := by decide
  rw [if_pos hblank] at hdecl
  cases hdecl

theorem joinPath_ne_empty {parent name : String} (h : name ≠ "") : joinPath parent name ≠ "" := by
  unfold joinPath
  split
  · exact h
  · intro heq
    have hlist := congrArg String.toList heq
    simp [String.toList_append] at hlist

/-- An attribute of an element stands at a path, and certain types are entered on the way to the element. -/
def AttributeAt (schema : Schema) (root : Element) (path : String) (stack : List String) (name : String) :
    Prop :=
  ∃ owner e type a, schema.Reaches root owner stack e ∧ schema.resolveType e = .ok type ∧
    a ∈ type.attributes ∧ name = "@" ++ a.name ∧ path = owner ++ "/@" ++ a.name

/-- Elements that stand at the same path have the same type. -/
def Consistent (schema : Schema) : Prop :=
  ∀ root ∈ schema.elements, ∀ root' ∈ schema.elements, ∀ path stack stack' e e',
    schema.Reaches root path stack e → schema.Reaches root' path stack' e' →
      schema.resolveType e = schema.resolveType e'

section Plain

variable (hvalid : schema.validate = .ok ()) (hroot : root ∈ schema.elements)

include hvalid hroot

theorem Reaches.path_ne_empty (h : schema.Reaches root path stack e) : path ≠ "" := by
  have hname := name_ne_empty (h.passes hvalid (elements_pass hvalid root hroot))
  cases h with
  | root => exact joinPath_ne_empty hname
  | child => exact joinPath_ne_empty hname

theorem Reaches.joinPath_eq (h : schema.Reaches root path stack e) (name : String) :
    joinPath path name = path ++ "/" ++ name := if_neg (h.path_ne_empty hvalid hroot)

theorem Holds.mem_pathsAbove {name leafPath : String} {inner : List String}
    (h : schema.Holds path stack e name leafPath inner) (hreaches : schema.Reaches root path stack e) :
    path ∈ pathsAbove leafPath := by
  induction h with
  | text => exact mem_pathsAbove_self _
  | attr => exact Specimen.mem_pathsAbove.2 (.inr ⟨_, attribute_path _ _⟩)
  | @child path stack e type g c _ _ _ htype hcontent hc _ ih =>
      have habove : path ∈ pathsAbove (joinPath path c.name) := by
        rw [hreaches.joinPath_eq hvalid hroot]
        exact Specimen.mem_pathsAbove.2 (.inr ⟨c.name, rfl⟩)
      exact pathsAbove_trans habove (ih (hreaches.child htype hcontent hc))

variable (hplain : schema.PlainlyNamed)

include hplain

omit hvalid in
theorem Reaches.slashless (h : schema.Reaches root path stack e) : '/' ∉ e.name.toList :=
  (hplain.elements e (h.declares hroot)).1

omit hvalid in
theorem Reaches.slashless_attr (h : schema.Reaches root path stack e) {type : ResolvedType}
    (htype : schema.resolveType e = .ok type) {a : AttributeDecl} (ha : a ∈ type.attributes) :
    '/' ∉ ("@" ++ a.name).toList := by
  have hname := hplain.attributes a ((h.declares hroot).declaresAttribute htype ha)
  simpa [String.toList_append] using hname

/-- Above the path of a leaf are the paths above what holds it, those of the elements on the way from there to
the leaf, and that of the leaf itself if it is an attribute. -/
theorem Holds.above {name leafPath : String} {inner : List String}
    (h : schema.Holds path stack e name leafPath inner) (hreaches : schema.Reaches root path stack e)
    {p : String} (hp : p ∈ pathsAbove leafPath) :
    p ∈ pathsAbove path ∨ (∃ stack' e', schema.Reaches root p stack' e' ∧
      schema.Holds p stack' e' name leafPath inner) ∨ schema.AttributeAt root p inner name ∧ leafPath = p := by
  induction h with
  | text => exact .inl hp
  | @attr path stack e type a htype ha =>
      rw [attribute_path, pathsAbove_child (hreaches.slashless_attr hroot hplain htype ha)] at hp
      rcases List.mem_append.1 hp with hp | hp
      · exact .inl hp
      · rw [List.mem_singleton] at hp
        rw [← attribute_path] at hp
        exact .inr (.inr ⟨⟨path, e, type, a, hreaches, htype, ha, rfl, hp⟩, hp.symm⟩)
  | @child path stack e type g c _ _ _ htype hcontent hc hbelow ih =>
      have hchild := hreaches.child htype hcontent hc
      rcases ih hchild hp with habove | hfound
      · rw [hreaches.joinPath_eq hvalid hroot, pathsAbove_child (hchild.slashless hroot hplain)] at habove
        rcases List.mem_append.1 habove with habove | habove
        · exact .inl habove
        · rw [List.mem_singleton, ← hreaches.joinPath_eq hvalid hroot] at habove
          subst habove
          exact .inr (.inl ⟨_, c, hchild, hbelow⟩)
      · exact .inr hfound

/-- The paths above the path of a leaf below a global element are those of elements that hold it, and its own. -/
theorem Holds.above_root {name leafPath : String} {inner : List String}
    (h : schema.Holds (joinPath "" root.name) [] root name leafPath inner) {p : String}
    (hp : p ∈ pathsAbove leafPath) :
    (∃ stack e, schema.Reaches root p stack e ∧ schema.Holds p stack e name leafPath inner) ∨
      schema.AttributeAt root p inner name ∧ leafPath = p := by
  have hreaches : schema.Reaches root (joinPath "" root.name) [] root := .root
  rcases h.above hvalid hroot hplain hreaches hp with habove | hfound
  · rw [joinPath, if_pos rfl, pathsAbove_name (hreaches.slashless hroot hplain), List.mem_singleton] at habove
    subst habove
    exact .inl ⟨[], root, hreaches, h⟩
  · exact hfound

omit hplain in
/-- An element is the global one, or its path is one name longer than that of the element that contains it. -/
theorem Reaches.path_cases (h : schema.Reaches root path stack e) :
    path = e.name ∧ stack = [] ∨
      ∃ outer outerStack owner type, schema.Reaches root outer outerStack owner ∧
        schema.resolveType owner = .ok type ∧ stack = type.identity.toList ++ outerStack ∧
          path = outer ++ "/" ++ e.name := by
  cases h with
  | root => exact .inl ⟨if_pos rfl, rfl⟩
  | @child outer outerStack owner type g c he htype =>
      exact .inr ⟨outer, outerStack, owner, type, he, htype, rfl, he.joinPath_eq hvalid hroot _⟩

/-- No element has the path of an attribute. -/
theorem Reaches.not_attributeAt {root' : Element} {name : String} {inner : List String}
    (h : schema.Reaches root path stack e) (hroot' : root' ∈ schema.elements)
    (hattribute : schema.AttributeAt root' path inner name) : False := by
  obtain ⟨owner, e', type, a, he', htype, ha, -, hpath⟩ := hattribute
  have hname := he'.slashless_attr hroot' hplain htype ha
  rw [attribute_path] at hpath
  rcases h.path_cases hvalid hroot with ⟨heq, -⟩ | ⟨outer, _, _, _, -, -, -, heq⟩
  · exact child_ne_name (h.slashless hroot hplain) (hpath.symm.trans heq)
  · obtain ⟨-, heq'⟩ := child_inj hname (h.slashless hroot hplain) (hpath.symm.trans heq)
    exact (hplain.elements e (h.declares hroot)).2 _ heq'.symm

/-- Where one path means one type, it also means one name and the same types on the way. -/
theorem Reaches.same (hconsistent : schema.Consistent) {root' e' : Element} {stack' : List String}
    (h : schema.Reaches root path stack e) (hroot' : root' ∈ schema.elements)
    (h' : schema.Reaches root' path stack' e') : stack = stack' ∧ e.name = e'.name := by
  have hname' := h'.slashless hroot' hplain
  induction h generalizing stack' e' with
  | root =>
      have hpath : joinPath "" root.name = root.name := if_pos rfl
      rcases h'.path_cases hvalid hroot' with ⟨heq, rfl⟩ | ⟨outer, _, _, _, -, -, -, heq⟩
      · exact ⟨rfl, hpath.symm.trans heq⟩
      · have hself : schema.Reaches root (joinPath "" root.name) [] root := .root
        have hslash := hself.slashless hroot hplain
        exact absurd (heq.symm.trans hpath) (child_ne_name hslash)
  | @child path stack e type g c he htype hcontent hc ih =>
      have hslash := (he.child htype hcontent hc).slashless hroot hplain
      rw [he.joinPath_eq hvalid hroot] at h'
      rcases h'.path_cases hvalid hroot' with
        ⟨heq, -⟩ | ⟨outer, outerStack, owner, type', howner, htype', rfl, heq⟩
      · exact absurd heq (child_ne_name hname')
      · obtain ⟨rfl, hname⟩ := child_inj hslash hname' heq
        have hsame := hconsistent root hroot root' hroot' _ _ _ _ _ he howner
        rw [htype, htype'] at hsame
        cases hsame
        obtain ⟨rfl, -⟩ := ih howner (howner.slashless hroot' hplain)
        exact ⟨rfl, hname⟩

end Plain

/-- When elements that are declared with the same name have the same type, one path means one type. -/
theorem consistent_of_names (hvalid : schema.validate = .ok ()) (hplain : schema.PlainlyNamed)
    (h : ∀ e e', schema.Declares e → schema.Declares e' → e.name = e'.name →
      schema.resolveType e = schema.resolveType e') : schema.Consistent := by
  intro root hroot root' hroot' path stack stack' e e' he he'
  have hslash := he.slashless hroot hplain
  have hslash' := he'.slashless hroot' hplain
  refine h e e' (he.declares hroot) (he'.declares hroot') ?_
  rcases he.path_cases hvalid hroot with ⟨heq, -⟩ | ⟨outer, -, -, -, -, -, -, heq⟩
  · rcases he'.path_cases hvalid hroot' with ⟨heq', -⟩ | ⟨outer', -, -, -, -, -, -, heq'⟩
    · exact heq.symm.trans heq'
    · exact absurd (heq'.symm.trans heq) (child_ne_name hslash)
  · rcases he'.path_cases hvalid hroot' with ⟨heq', -⟩ | ⟨outer', -, -, -, -, -, -, heq'⟩
    · exact absurd (heq.symm.trans heq') (child_ne_name hslash')
    · exact (child_inj hslash hslash' (heq.symm.trans heq')).2

end Schema
end Specimen
