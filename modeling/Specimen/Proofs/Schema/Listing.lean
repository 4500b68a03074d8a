import Mathlib.Data.List.Perm.Subperm
import Specimen.Proofs.Schema.Positions

/-!
# What can be done with a valid schema

Everything that reads a schema after it was checked finds what it looks for.  The type of each element
that is declared anywhere is found, and so is the simple type of each attribute.

The catalog follows named types into each other.  `Lists` says what it does without a bound: below an
element it stops only at types that are active on the path.  The types that are active are different types
of the schema, so the recursion comes to an end, and the budget of the catalog is enough for it.
-/

namespace Specimen
namespace Schema

variable {schema : Schema}

/-! ## Declarations -/

/-- The elements that a schema declares anywhere: the global ones, those in the content of a named type, and
those in the content of another one. -/
inductive Declares (schema : Schema) : Element → Prop where
  | global {e : Element} (he : e ∈ schema.elements) : Declares schema e
  | typed {t : TypeDefinition} {g : Group} {e : Element} (ht : t ∈ schema.types)
      (hcontent : t.content = some g) (he : e ∈ g.declared) : Declares schema e
  | inner {e : Element} {g : Group} {c : Element} (he : Declares schema e) (hcontent : e.content = some g)
      (hc : c ∈ g.declared) : Declares schema c

/-- The attributes that a schema declares anywhere: on an element or on a named type. -/
def DeclaresAttribute (schema : Schema) (a : AttributeDecl) : Prop :=
  (∃ e, schema.Declares e ∧ a ∈ e.decl.attributes) ∨ ∃ t ∈ schema.types, a ∈ t.attributes

theorem Declares.passes {e : Element} (h : schema.Declares e) (hvalid : schema.validate = .ok ()) :
    schema.ElementPasses e := by
  induction h with
  | global he => exact elements_pass hvalid _ he
  | typed ht hcontent he =>
      have hgroup := (definition_passes hvalid ht).2 _ hcontent
      exact declared_passes hgroup _ he
  | @inner e g c _ hcontent hc ih =>
      cases e with
      | mk decl content =>
          cases hcontent
          exact declared_passes (content_passes ih) c hc

theorem DeclaresAttribute.resolves {a : AttributeDecl} (h : schema.DeclaresAttribute a)
    (hvalid : schema.validate = .ok ()) : ∃ facets, schema.resolveAttribute a = .ok facets := by
  rcases h with ⟨e, he, ha⟩ | ⟨t, ht, ha⟩
  · obtain ⟨path, hdecl⟩ := checkDecl_of_elementPasses (he.passes hvalid)
    exact resolveAttribute_of_checks (checkDecl_eq_ok hdecl).2.2 a ha
  · exact (definition_passes hvalid ht).1 a ha

/-! ## Entries of an element -/

theorem elementEntries_eq_ok {path : String} {e : Element} {type : ResolvedType}
    {own : List CatalogEntry} : schema.elementEntries path e type = .ok own ↔
      ∃ attributes, type.attributes.mapM (schema.attributeEntry path) = .ok attributes ∧
        own = {
          kind := .element
          name := e.name
          path
          facets := type.content.facets?
          typeName := type.identity
          minOccurs := e.minOccurs } :: attributes := by
  unfold elementEntries
  rw [Except.bind_eq_ok]
  constructor
  · rintro ⟨attributes, hattributes, hown⟩
    exact ⟨attributes, hattributes, (Except.ok.inj hown).symm⟩
  · rintro ⟨attributes, hattributes, rfl⟩
    exact ⟨attributes, hattributes, rfl⟩

theorem exists_elementEntries {type : ResolvedType} (htype : schema.TypePasses type) (path : String)
    (e : Element) : ∃ own, schema.elementEntries path e type = .ok own := by
  have hall : ∀ a ∈ type.attributes, ∃ entry, schema.attributeEntry path a = .ok entry ∧ True := by
    intro a ha
    obtain ⟨facets, hfacets⟩ := htype.attributes a ha
    exact ⟨_, Except.bind_eq_ok.2 ⟨facets, hfacets, rfl⟩, trivial⟩
  obtain ⟨attributes, hattributes, -⟩ := List.mapM_eq_ok hall
  exact ⟨_, elementEntries_eq_ok.2 ⟨attributes, hattributes, rfl⟩⟩

/-! ## The recursion of the catalog -/

mutual

/-- The entries of an element at a path and of all it contains, while certain named types are active.  What
an active type contains is not listed again. -/
inductive Lists (schema : Schema) :
    (active : List String) → (path : String) → Element → List CatalogEntry → Prop where
  | closed {active : List String} {path : String} {e : Element} {type : ResolvedType}
      {own : List CatalogEntry} (htype : schema.resolveType e = .ok type)
      (hown : schema.elementEntries path e type = .ok own)
      (hclosed : ∀ g, type.content = .complex g → ∃ identity ∈ active, type.identity = some identity) :
      Lists schema active path e own
  | opened {active : List String} {path : String} {e : Element} {type : ResolvedType} {g : Group}
      {own more : List CatalogEntry} (htype : schema.resolveType e = .ok type)
      (hown : schema.elementEntries path e type = .ok own) (hcontent : type.content = .complex g)
      (hfresh : ∀ identity ∈ active, type.identity ≠ some identity)
      (hmore : ListsAll schema (type.identity.toList ++ active) path g.declared more) :
      Lists schema active path e (own ++ more)

/-- The entries of elements below a path, one element after the other. -/
inductive ListsAll (schema : Schema) :
    (active : List String) → (path : String) → List Element → List CatalogEntry → Prop where
  | nil {active : List String} {path : String} : ListsAll schema active path [] []
  | cons {active : List String} {path : String} {e : Element} {rest : List Element}
      {first more : List CatalogEntry} (hfirst : Lists schema active (joinPath path e.name) e first)
      (hrest : ListsAll schema active path rest more) :
      ListsAll schema active path (e :: rest) (first ++ more)

end

theorem ListsAll.append {active : List String} {path : String} {es es' : List Element}
    {entries entries' : List CatalogEntry} (h : schema.ListsAll active path es entries)
    (h' : schema.ListsAll active path es' entries') :
    schema.ListsAll active path (es ++ es') (entries ++ entries') := by
  induction es generalizing entries with
  | nil =>
      cases h
      exact h'
  | cons e rest ih =>
      cases h with
      | cons hfirst hrest =>
          rw [List.cons_append, List.append_assoc]
          exact .cons hfirst (ih hrest)

theorem listsAll_of_forall₂ {active : List String} {path : String} {es : List Element}
    {parts : List (List CatalogEntry)}
    (h : List.Forall₂ (fun e => schema.Lists active (joinPath path e.name) e) es parts) :
    schema.ListsAll active path es parts.flatten := by
  induction h with
  | nil => exact .nil
  | cons hfirst _ ih => exact .cons hfirst ih

section Members

variable {enter : String → List String → String → Group → Except SchemaError (List CatalogEntry)}
  {active : List String}

/-- Where a named type is entered that is not active, what it contains is listed. -/
def EnterLists (schema : Schema) (active : List String)
    (enter : String → List String → String → Group → Except SchemaError (List CatalogEntry)) : Prop :=
  ∀ identity ∈ schema.types.map (·.name), identity ∉ active → ∀ path g, schema.GroupPasses g →
    ∃ more, enter identity active path g = .ok more ∧
      schema.ListsAll (identity :: active) path g.declared more

theorem leaf_listed {e : Element} {type : ResolvedType} {own : List CatalogEntry}
    (hresolve : schema.resolveType e = .ok type) (parent : String)
    (hown : schema.elementEntries (joinPath parent e.name) e type = .ok own)
    (hleaf : ∀ g, type.content ≠ .complex g) :
    schema.entriesOfElement enter active parent e = .ok own ∧
      schema.Lists active (joinPath parent e.name) e own := by
  constructor
  · cases e with
    | mk decl content =>
        cases content with
        | none =>
            unfold entriesOfElement
            refine Except.bind_eq_ok.2 ⟨type, hresolve, Except.bind_eq_ok.2 ⟨own, hown, ?_⟩⟩
            split
            · rename_i g _ hcontent
              exact absurd hcontent (hleaf g)
            · rfl
        | some g =>
            unfold entriesOfElement
            refine Except.bind_eq_ok.2 ⟨type, hresolve, Except.bind_eq_ok.2 ⟨own, hown, ?_⟩⟩
            split
            · rename_i g' hcontent
              exact absurd hcontent (hleaf g')
            · rfl
  · exact .closed hresolve hown fun g hcontent => absurd hcontent (hleaf g)

/-- An element without an anonymous type is listed, with what its named type contains unless that type is
active. -/
theorem named_listed (henter : schema.EnterLists active enter) {decl : ElementDecl} {type : ResolvedType}
    {g : Group} {own : List CatalogEntry} (hresolve : schema.resolveType (.mk decl none) = .ok type)
    (htype : schema.TypePasses type) (hcontent : type.content = .complex g) (parent : String)
    (hown : schema.elementEntries (joinPath parent decl.name) (.mk decl none) type = .ok own) :
    ∃ entries, schema.entriesOfElement enter active parent (.mk decl none) = .ok entries ∧
      schema.Lists active (joinPath parent decl.name) (.mk decl none) entries := by
  obtain ⟨identity, hidentity⟩ := identity_of_resolveType hresolve hcontent
  by_cases hactive : identity ∈ active
  · refine ⟨own, ?_, .closed hresolve hown fun g _ => ⟨identity, hactive, hidentity⟩⟩
    unfold entriesOfElement
    refine Except.bind_eq_ok.2 ⟨type, hresolve, Except.bind_eq_ok.2 ⟨own, hown, ?_⟩⟩
    simp only [hidentity, hcontent, if_pos hactive]
    rfl
  · have hname := htype.named identity hidentity
    obtain ⟨more, hmore, hlists⟩ :=
      henter identity hname hactive (joinPath parent decl.name) g (htype.content g hcontent)
    refine ⟨own ++ more, ?_, .opened hresolve hown hcontent ?_ ?_⟩
    · unfold entriesOfElement
      refine Except.bind_eq_ok.2 ⟨type, hresolve, Except.bind_eq_ok.2 ⟨own, hown, ?_⟩⟩
      simp only [hidentity, hcontent, if_neg hactive]
      exact Except.bind_eq_ok.2 ⟨more, hmore, rfl⟩
    · intro other hother heq
      rw [hidentity] at heq
      exact hactive (Option.some.inj heq ▸ hother)
    · rw [hidentity]
      exact hlists

/-- An element with an anonymous type is listed with what it contains. -/
theorem anonymous_listed {decl : ElementDecl} {g : Group} {type : ResolvedType}
    {own more : List CatalogEntry} (hresolve : schema.resolveType (.mk decl (some g)) = .ok type)
    {g' : Group} (hcontent : type.content = .complex g') (parent : String)
    (hown : schema.elementEntries (joinPath parent decl.name) (.mk decl (some g)) type = .ok own)
    (hmore : schema.entriesOfGroup enter active (joinPath parent decl.name) g = .ok more)
    (hlists : schema.ListsAll active (joinPath parent decl.name) g.declared more) :
    schema.entriesOfElement enter active parent (.mk decl (some g)) = .ok (own ++ more) ∧
      schema.Lists active (joinPath parent decl.name) (.mk decl (some g)) (own ++ more) := by
  obtain ⟨rfl, hidentity⟩ := content_of_resolveType hresolve hcontent
  constructor
  · unfold entriesOfElement
    refine Except.bind_eq_ok.2 ⟨type, hresolve, Except.bind_eq_ok.2 ⟨own, hown, ?_⟩⟩
    simp only [hcontent]
    exact Except.bind_eq_ok.2 ⟨more, hmore, rfl⟩
  · refine .opened hresolve hown hcontent ?_ ?_
    · intro identity _ heq
      rw [hidentity] at heq
      cases heq
    · rw [hidentity]
      exact hlists

/-- Elements and groups are listed when named types that are not active are. -/
theorem members_listed (hvalid : schema.validate = .ok ()) (henter : schema.EnterLists active enter) :
    (∀ e, schema.ElementPasses e → ∀ parent, ∃ entries,
      schema.entriesOfElement enter active parent e = .ok entries ∧
        schema.Lists active (joinPath parent e.name) e entries) ∧
    ∀ g, schema.GroupPasses g → ∀ path, ∃ entries,
      schema.entriesOfGroup enter active path g = .ok entries ∧
        schema.ListsAll active path g.declared entries := by
  -- a member comes before members that are listed
  let Before (path : String) (p : Particle) : Prop := ∀ rest more,
    schema.entriesOfMembers enter active path rest = .ok more →
      schema.ListsAll active path (declaredAmong rest) more →
        ∃ entries, schema.entriesOfMembers enter active path (p :: rest) = .ok entries ∧
          schema.ListsAll active path (declaredAmong (p :: rest)) entries
  have hleaf : ∀ {e : Element}, schema.ElementPasses e → ∀ parent,
      ∃ type own, schema.resolveType e = .ok type ∧ schema.TypePasses type ∧
        schema.elementEntries (joinPath parent e.name) e type = .ok own := by
    intro e he parent
    obtain ⟨type, hresolve, htype⟩ := resolveType_passes hvalid he
    obtain ⟨own, hown⟩ := exists_elementEntries htype (joinPath parent e.name) e
    exact ⟨type, own, hresolve, htype, hown⟩
  have hall := tree_induction
    (E := fun e => schema.ElementPasses e → ∀ parent, ∃ entries,
      schema.entriesOfElement enter active parent e = .ok entries ∧
        schema.Lists active (joinPath parent e.name) e entries)
    (G := fun g => schema.GroupPasses g → ∀ path, ∃ entries,
      schema.entriesOfGroup enter active path g = .ok entries ∧
        schema.ListsAll active path g.declared entries)
    (P := fun p => schema.ParticlePasses p → ∀ path, Before path p) ?named ?content ?group ?element ?nested
  · exact ⟨hall.1, hall.2.1⟩
  case named =>
    intro decl he parent
    obtain ⟨type, own, hresolve, htype, hown⟩ := hleaf he parent
    by_cases hcomplex : ∃ g, type.content = .complex g
    · obtain ⟨g, hcontent⟩ := hcomplex
      exact named_listed henter hresolve htype hcontent parent hown
    · exact ⟨own, leaf_listed hresolve parent hown fun g hg => hcomplex ⟨g, hg⟩⟩
  case content =>
    intro decl g ih he parent
    obtain ⟨type, own, hresolve, -, hown⟩ := hleaf he parent
    by_cases hcomplex : ∃ g, type.content = .complex g
    · obtain ⟨g', hcontent⟩ := hcomplex
      obtain ⟨more, hmore, hlists⟩ := ih (content_passes he) (joinPath parent decl.name)
      exact ⟨own ++ more, anonymous_listed hresolve hcontent parent hown hmore hlists⟩
    · exact ⟨own, leaf_listed hresolve parent hown fun g hg => hcomplex ⟨g, hg⟩⟩
  case group =>
    intro decl members ih hg path
    have hmembers : ∀ p ∈ members, Before path p := fun p hp => ih p hp (member_passes hg p hp) path
    clear ih hg
    unfold entriesOfGroup
    induction members with
    | nil => exact ⟨[], rfl, .nil⟩
    | cons p rest ih =>
        obtain ⟨more, hmore, hlists⟩ := ih fun q hq => hmembers q (List.mem_cons_of_mem _ hq)
        exact hmembers p List.mem_cons_self rest more hmore hlists
  case element =>
    intro e ih he path rest more hmore hlists
    obtain ⟨first, hfirst, hlist⟩ := ih he path
    refine ⟨first ++ more, ?_, .cons hlist hlists⟩
    unfold entriesOfMembers
    exact Except.bind_eq_ok.2 ⟨first, hfirst, Except.bind_eq_ok.2 ⟨more, hmore, rfl⟩⟩
  case nested =>
    intro g ih hg path rest more hmore hlists
    obtain ⟨first, hfirst, hlist⟩ := ih hg path
    refine ⟨first ++ more, ?_, hlist.append hlists⟩
    unfold entriesOfMembers
    exact Except.bind_eq_ok.2 ⟨first, hfirst, Except.bind_eq_ok.2 ⟨more, hmore, rfl⟩⟩

end Members

/-! ## The budget of the catalog -/

/-- The budget for named types is not used up: together with the types that are active it is at least the
number of types, and these are different types. -/
theorem entriesOfType_lists (hvalid : schema.validate = .ok ()) (budget : Nat) {active : List String}
    (hnodup : active.Nodup) (hnames : active ⊆ schema.types.map (·.name))
    (hbudget : schema.types.length ≤ budget + active.length) :
    schema.EnterLists active (schema.entriesOfType budget) := by
  induction budget generalizing active with
  | zero =>
      intro identity hname hfresh
      have hmore : (identity :: active).Nodup := List.nodup_cons.2 ⟨hfresh, hnodup⟩
      have hlength := (hmore.subperm (List.cons_subset.2 ⟨hname, hnames⟩)).length_le
      rw [List.length_cons, List.length_map] at hlength
      omega
  | succ budget ih =>
      intro identity hname hfresh path g hg
      have hmore : (identity :: active).Nodup := List.nodup_cons.2 ⟨hfresh, hnodup⟩
      have hdeeper : schema.EnterLists (identity :: active) (schema.entriesOfType budget) := by
        apply ih hmore (List.cons_subset.2 ⟨hname, hnames⟩)
        rw [List.length_cons]
        omega
      exact (members_listed hvalid hdeeper).2 g hg path

theorem catalog_lists (hvalid : schema.validate = .ok ()) :
    ∃ entries, schema.catalog = .ok entries ∧ schema.ListsAll [] "" schema.elements entries := by
  have henter : schema.EnterLists [] (schema.entriesOfType (schema.types.length + 1)) :=
    entriesOfType_lists hvalid _ List.nodup_nil (List.nil_subset _) (Nat.le_succ _)
  have hall : ∀ e ∈ schema.elements, ∃ entries,
      schema.entriesOfElement (schema.entriesOfType (schema.types.length + 1)) [] "" e = .ok entries ∧
        schema.Lists [] (joinPath "" e.name) e entries :=
    fun e he => (members_listed hvalid henter).1 e (elements_pass hvalid e he) ""
  obtain ⟨parts, hparts, hforall⟩ := List.mapM_eq_ok hall
  exact ⟨parts.flatten, Except.bind_eq_ok.2 ⟨parts, hparts, rfl⟩, listsAll_of_forall₂ hforall⟩

/-- What a schema that was checked promises to all that read it: the types of all elements and attributes
that are declared anywhere are found, and the catalog is the list to which the recursion through elements
and named types comes when it stops only at types that are active. -/
theorem valid_schema_resolves (schema : Schema) (hvalid : schema.validate = .ok ()) :
    (∀ e, schema.Declares e → ∃ type, schema.resolveType e = .ok type) ∧
    (∀ a, schema.DeclaresAttribute a → ∃ facets, schema.resolveAttribute a = .ok facets) ∧
    ∃ entries, schema.catalog = .ok entries ∧ schema.ListsAll [] "" schema.elements entries := by
  refine ⟨fun e he => ?_, fun a ha => ha.resolves hvalid, catalog_lists hvalid⟩
  obtain ⟨type, hresolve, -⟩ := resolveType_passes hvalid (he.passes hvalid)
  exact ⟨type, hresolve⟩

/-- A schema of folders and links, which contain each other. -/
def folderSchema : Schema where
  version := "1"
  elements := [.mk { name := "Root", typeRef := some "Folder" } none]
  types := [
    { name := "Folder"
      attributes := [{ name := "id", typeRef := some "xs:string" }]
      content := some (.mk { kind := .choice } [
        .element (.mk { name := "Link", typeRef := some "Link" } none),
        .element (.mk { name := "Size", typeRef := some "xs:int" } none)]) },
    { name := "Link"
      content := some (.mk { kind := .sequence } [
        .element (.mk { name := "Target", typeRef := some "Folder", minOccurs := 0 } none)]) }]

theorem valid_schema_resolves_folder : folderSchema.validate = .ok () ∧
    (∀ e, folderSchema.Declares e → ∃ type, folderSchema.resolveType e = .ok type) ∧
    (∀ a, folderSchema.DeclaresAttribute a → ∃ facets, folderSchema.resolveAttribute a = .ok facets) ∧
    ∃ entries, folderSchema.catalog = .ok entries ∧
      folderSchema.ListsAll [] "" folderSchema.elements entries := by
  have hvalid : folderSchema.validate = .ok () := by decide +kernel
  exact ⟨hvalid, valid_schema_resolves folderSchema hvalid⟩

/-! ## What is in the catalog -/

/-- Entries cover an element at a path: there is one for the element, with its simple type if it has a text,
and one for each of its attributes, with the simple type of the attribute. -/
structure Covers (schema : Schema) (entries : List CatalogEntry) (path : String) (e : Element)
    (type : ResolvedType) : Prop where
  element : ∃ entry ∈ entries, entry.kind = .element ∧ entry.path = path ∧ entry.name = e.name ∧
    entry.facets = type.content.facets?
  attributes : ∀ a ∈ type.attributes, ∃ facets, schema.resolveAttribute a = .ok facets ∧
    ∃ entry ∈ entries, entry.kind = .attr ∧ entry.path = path ++ "/@" ++ a.name ∧
      entry.name = "@" ++ a.name ∧ entry.facets = some facets

theorem Covers.mono {entries entries' : List CatalogEntry} {path : String} {e : Element}
    {type : ResolvedType} (h : schema.Covers entries path e type) (hsub : entries ⊆ entries') :
    schema.Covers entries' path e type := by
  constructor
  · obtain ⟨entry, hentry, hsame⟩ := h.element
    exact ⟨entry, hsub hentry, hsame⟩
  · intro a ha
    obtain ⟨facets, hfacets, entry, hentry, hsame⟩ := h.attributes a ha
    exact ⟨facets, hfacets, entry, hsub hentry, hsame⟩

theorem covers_of_elementEntries {path : String} {e : Element} {type : ResolvedType}
    {own : List CatalogEntry} (h : schema.elementEntries path e type = .ok own) :
    schema.Covers own path e type := by
  obtain ⟨attributes, hattributes, rfl⟩ := elementEntries_eq_ok.1 h
  constructor
  · exact ⟨_, List.mem_cons_self, rfl, rfl, rfl, rfl⟩
  · intro a ha
    obtain ⟨entry, hentry, hmade⟩ := List.exists_of_mapM_eq_ok hattributes ha
    obtain ⟨facets, hfacets, hmade⟩ := Except.bind_eq_ok.1 hmade
    cases hmade
    exact ⟨facets, hfacets, _, List.mem_cons_of_mem _ hentry, rfl, rfl, rfl, rfl⟩

theorem Lists.covers {active : List String} {path : String} {e : Element} {part : List CatalogEntry}
    (h : schema.Lists active path e part) {type : ResolvedType}
    (hresolve : schema.resolveType e = .ok type) : schema.Covers part path e type := by
  cases h with
  | closed htype hown =>
      rw [hresolve] at htype
      obtain rfl := Except.ok.inj htype
      exact covers_of_elementEntries hown
  | opened htype hown =>
      rw [hresolve] at htype
      obtain rfl := Except.ok.inj htype
      exact (covers_of_elementEntries hown).mono (List.subset_append_left _ _)

theorem ListsAll.exists_part {active : List String} {path : String} {es : List Element}
    {entries : List CatalogEntry} (h : schema.ListsAll active path es entries) {e : Element}
    (he : e ∈ es) : ∃ part ⊆ entries, schema.Lists active (joinPath path e.name) e part := by
  induction es generalizing entries with
  | nil => cases he
  | cons e' rest ih =>
      cases h with
      | cons hfirst hrest =>
          rcases List.mem_cons.1 he with rfl | he
          · exact ⟨_, List.subset_append_left _ _, hfirst⟩
          · obtain ⟨part, hsub, hpart⟩ := ih hrest he
            exact ⟨part, List.subset_append_of_subset_right _ hsub, hpart⟩

/-- Where no named type was entered twice on the way, the catalog has come as well, with the same types
active. -/
theorem Reaches.exists_part {root e : Element} {path : String} {stack : List String}
    {entries : List CatalogEntry} (h : schema.Reaches root path stack e) (hroot : root ∈ schema.elements)
    (hentries : schema.ListsAll [] "" schema.elements entries) (hnodup : stack.Nodup) :
    ∃ part ⊆ entries, schema.Lists stack path e part := by
  induction h with
  | root => exact hentries.exists_part hroot
  | @child path stack e type g c _ hresolve hcontent hc ih =>
      obtain ⟨part, hsub, hpart⟩ := ih (List.nodup_append.1 hnodup).2.1
      have hfresh : ∀ identity ∈ stack, type.identity ≠ some identity := by
        intro identity hactive heq
        rw [heq] at hnodup
        exact (List.nodup_cons.1 hnodup).1 hactive
      cases hpart with
      | closed htype _ hclosed =>
          rw [hresolve] at htype
          obtain rfl := Except.ok.inj htype
          obtain ⟨identity, hactive, heq⟩ := hclosed g hcontent
          exact absurd heq (hfresh identity hactive)
      | opened htype _ hcontent' _ hmore =>
          rw [hresolve] at htype
          obtain rfl := Except.ok.inj htype
          rw [hcontent] at hcontent'
          obtain rfl := TypeContent.complex.inj hcontent'
          obtain ⟨below, hbelow, hlists⟩ := hmore.exists_part hc
          exact ⟨below, List.Subset.trans (List.subset_append_of_subset_right _ hbelow) hsub, hlists⟩

/-- The catalog covers every element that can be reached without entering a named type twice. -/
theorem Reaches.covers {root e : Element} {path : String} {stack : List String} {type : ResolvedType}
    {entries : List CatalogEntry} (h : schema.Reaches root path stack e) (hroot : root ∈ schema.elements)
    (hentries : schema.ListsAll [] "" schema.elements entries) (hnodup : stack.Nodup)
    (hresolve : schema.resolveType e = .ok type) : schema.Covers entries path e type := by
  obtain ⟨part, hsub, hpart⟩ := h.exists_part hroot hentries hnodup
  exact (hpart.covers hresolve).mono hsub

end Schema
end Specimen
