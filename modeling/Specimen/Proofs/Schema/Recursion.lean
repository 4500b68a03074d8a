import Specimen.Proofs.Graph.Counting
import Specimen.Proofs.Schema.Positions
import Specimen.Schema.TypeGraph

/-!
# Recursive types

The graph of a schema has an edge from a named type to each type name that its content refers to, through
anonymous types and nested groups.  On the way to an element of a document, each named type that is entered
refers to the next one, and the innermost leads on to whatever the element refers to.  So a type that is
entered while it is open already reaches itself: it is among the recursive types.

A named type refers to the types that the element declarations in its content name, however deep in anonymous
types and nested groups.  The report on these references is right for every schema, valid or not: the recursive
types are the named types that reach themselves, and there is an order exactly when there are none.  The order
has each named type once, after all named types that it refers to.
-/

open Relation (TransGen)

namespace Specimen

/-! ## References -/

/-- What an element declared by a group refers to, the group refers to. -/
theorem typeRefs_subset_of_declared {g : Group} : ∀ c ∈ g.declared, c.typeRefs ⊆ g.typeRefs := by
  have hmembers : ∀ {members : List Particle} {c : Element},
      (∀ p ∈ members, c ∈ p.declared → c.typeRefs ⊆ typeRefsOfMembers [p]) →
        c ∈ declaredAmong members → c.typeRefs ⊆ typeRefsOfMembers members := by
    intro members c h hc
    induction members with
    | nil => cases hc
    | cons q rest ih =>
        have hfirst := h q List.mem_cons_self
        have hrest := ih fun p hp => h p (List.mem_cons_of_mem _ hp)
        cases q with
        | element e =>
            simp only [typeRefsOfMembers, List.append_nil] at hfirst ⊢
            rcases List.mem_cons.1 hc with rfl | hc
            · exact List.subset_append_left _ _
            · exact List.subset_append_of_subset_right _ (hrest hc)
        | group g =>
            simp only [typeRefsOfMembers, List.append_nil] at hfirst ⊢
            rcases List.mem_append.1 hc with hc | hc
            · exact List.subset_append_of_subset_left _ (hfirst hc)
            · exact List.subset_append_of_subset_right _ (hrest hc)
  have hall := tree_induction (E := fun _ => True)
    (G := fun g => ∀ c ∈ g.declared, c.typeRefs ⊆ g.typeRefs)
    (P := fun p => ∀ c ∈ p.declared, c.typeRefs ⊆ typeRefsOfMembers [p])
    (fun _ => trivial) (fun _ _ _ => trivial) ?group ?element ?nested
  · exact hall.2.1 g
  case group =>
    intro decl members ih c hc
    exact hmembers (fun p hp => ih p hp c) hc
  case element =>
    intro e _ c hc
    rw [List.mem_singleton.1 hc]
    simp [typeRefsOfMembers]
  case nested =>
    intro g ih c hc
    simpa [typeRefsOfMembers] using ih c hc

/-- The type names that the content of a named type refers to. -/
def TypeDefinition.typeRefs (t : TypeDefinition) : List String :=
  match t.content with
  | some g => g.typeRefs
  | none => []

theorem TypeDefinition.mem_typeRefs {t : TypeDefinition} {r : String} :
    r ∈ t.typeRefs ↔ ∃ g, t.content = some g ∧ r ∈ g.typeRefs := by
  unfold TypeDefinition.typeRefs
  cases t.content with
  | none => simp
  | some g => simp

namespace Schema

variable {schema : Schema} {root e : Element} {path : String} {stack : List String}

theorem references_eq (schema : Schema) :
    schema.references = schema.types.foldl (fun g t => Graph.add t.name t.typeRefs g) [] := rfl

theorem orderly_references (schema : Schema) : schema.references.Orderly :=
  List.foldlRecOn schema.types _ .nil fun _ hg t _ => hg.add t.name _

theorem increasing_references (schema : Schema) : schema.references.Increasing :=
  schema.orderly_references.increasing

theorem order_typeGraph (schema : Schema) : schema.typeGraph.order = schema.references.order? :=
  Graph.toOption_targetsFirst schema.orderly_references

theorem leads_references {n r : String} :
    schema.references.Leads n r ↔ ∃ t ∈ schema.types, n = t.name ∧ r ∈ t.typeRefs := by
  rw [references_eq]
  refine (foldl_iff (f := fun g t => Graph.add t.name t.typeRefs g) (Graph.Leads · n r)
    (fun _ _ => Graph.leads_add) schema.types []).trans ?_
  simp [Graph.Leads]

theorem mem_nodes_references {n : String} :
    n ∈ schema.references.nodes ↔ ∃ t ∈ schema.types, n = t.name := by
  rw [references_eq]
  refine (foldl_iff (f := fun g t => Graph.add t.name t.typeRefs g) (n ∈ Graph.nodes ·)
    (fun _ _ => Graph.mem_nodes_add) schema.types []).trans ?_
  simp [Graph.nodes]

/-- The recursive types are those that reach themselves. -/
theorem mem_recursive {n : String} :
    n ∈ schema.typeGraph.recursive ↔ TransGen schema.references.Leads n n := by
  change n ∈ schema.references.nodes.filter schema.references.isRecursive ↔ _
  rw [List.mem_filter, Graph.isRecursive_iff schema.increasing_references]
  constructor
  · exact And.right
  · intro hpath
    refine ⟨?_, hpath⟩
    -- the first edge of the path begins at a type of the schema
    obtain ⟨r, hedge, -⟩ := TransGen.head'_iff.1 hpath
    obtain ⟨t, ht, rfl, -⟩ := leads_references.1 hedge
    exact mem_nodes_references.2 ⟨t, ht, rfl⟩

/-! ## Types that are entered -/

/-- The type that an element refers to by name is among the type names that it refers to. -/
theorem mem_typeRefs {type : ResolvedType} {identity : String}
    (hresolve : schema.resolveType e = .ok type) (hidentity : type.identity = some identity) :
    identity ∈ e.typeRefs := by
  obtain ⟨hcontent, href, hbuiltin, -⟩ := named_of_resolveType hresolve hidentity
  obtain ⟨href, hblank⟩ := Option.filter_eq_some_iff.1 href
  have hnotEmpty : identity ≠ "" := by
    rintro rfl
    revert hblank
    decide
  have hdecl : identity ∈ e.decl.typeRefs := by
    unfold ElementDecl.typeRefs
    rw [href]
    simp [hnotEmpty, hbuiltin]
  cases e with
  | mk decl content =>
      cases hcontent
      exact hdecl

/-- What the members of the type of an element refer to is referred to by the type, if it has a name, and
else by the element. -/
theorem typeRefs_of_content {type : ResolvedType} {g : Group} (hresolve : schema.resolveType e = .ok type)
    (hcontent : type.content = .complex g) :
    (∃ identity, type.identity = some identity ∧ ∀ r ∈ g.typeRefs, schema.references.Leads identity r) ∨
      type.identity = none ∧ g.typeRefs ⊆ e.typeRefs := by
  cases hidentity : type.identity with
  | some identity =>
      obtain ⟨-, -, -, t, ht, -, hmembers⟩ := named_of_resolveType hresolve hidentity
      have hname : t.name = identity := by simpa using List.find?_some ht
      refine .inl ⟨identity, rfl, fun r hr => ?_⟩
      have htype := List.mem_of_find?_eq_some ht
      have hrefers : r ∈ t.typeRefs := TypeDefinition.mem_typeRefs.2 ⟨g, hmembers g hcontent, hr⟩
      exact leads_references.2 ⟨t, htype, hname.symm, hrefers⟩
  | none =>
      have hown := (unnamed_of_resolveType hresolve hidentity).2 g hcontent
      refine .inr ⟨rfl, ?_⟩
      cases e with
      | mk decl content =>
          cases hown
          exact List.subset_append_right _ _

/-- Each type that is open leads to every type that the element refers to. -/
theorem Reaches.leads (h : schema.Reaches root path stack e) :
    ∀ outer ∈ stack, ∀ r ∈ e.typeRefs, TransGen schema.references.Leads outer r := by
  induction h with
  | root => exact List.forall_mem_nil _
  | @child path stack e type g c _ hresolve hcontent hc ih =>
      intro outer houter r hr
      have hg : r ∈ g.typeRefs := typeRefs_subset_of_declared c hc hr
      rcases typeRefs_of_content hresolve hcontent with ⟨identity, hidentity, hleads⟩ | ⟨hidentity, hsub⟩
      · rw [hidentity] at houter
        rcases List.mem_cons.1 houter with rfl | houter
        · exact .single (hleads r hg)
        · have hpath := ih outer houter identity (mem_typeRefs hresolve hidentity)
          exact hpath.tail (hleads r hg)
      · rw [hidentity] at houter
        exact ih outer houter r (hsub hg)

/-- A type that is to be entered while it is open is recursive. -/
theorem Reaches.recursive (h : schema.Reaches root path stack e) {type : ResolvedType} {identity : String}
    (hresolve : schema.resolveType e = .ok type) (hidentity : type.identity = some identity)
    (hopen : identity ∈ stack) : identity ∈ schema.typeGraph.recursive :=
  mem_recursive.2 (h.leads identity hopen identity (mem_typeRefs hresolve hidentity))

/-- When no type is recursive, none is entered twice. -/
theorem Reaches.nodup (h : schema.Reaches root path stack e) (hnone : schema.typeGraph.recursive = []) :
    stack.Nodup := by
  induction h with
  | root => exact List.nodup_nil
  | @child path stack e type g c he hresolve _ _ ih =>
      cases hidentity : type.identity with
      | none => exact ih
      | some identity =>
          refine List.nodup_cons.2 ⟨fun hopen => ?_, ih⟩
          have hrecursive := he.recursive hresolve hidentity hopen
          rw [hnone] at hrecursive
          cases hrecursive

end Schema

/-! ## What the type graph says -/

mutual

/-- An element refers to a type that is not built in: its declaration names the type, or its anonymous type
refers to it. -/
inductive Element.RefersTo : Element → String → Prop where
  | named {decl : ElementDecl} {content : Option Group} {r : String} (href : decl.typeRef = some r)
      (hne : r ≠ "") (hbuiltin : Primitive.ofTypeName? r = none) : Element.RefersTo (.mk decl content) r
  | inside {decl : ElementDecl} {g : Group} {r : String} (hg : Group.RefersTo g r) :
      Element.RefersTo (.mk decl (some g)) r

/-- A group refers to the types that its members refer to. -/
inductive Group.RefersTo : Group → String → Prop where
  | member {decl : GroupDecl} {members : List Particle} {p : Particle} {r : String} (hp : p ∈ members)
      (href : Particle.RefersTo p r) : Group.RefersTo (.mk decl members) r

/-- A member refers to the types that the element or the nested group refers to. -/
inductive Particle.RefersTo : Particle → String → Prop where
  | element {e : Element} {r : String} (he : Element.RefersTo e r) : Particle.RefersTo (.element e) r
  | nested {g : Group} {r : String} (hg : Group.RefersTo g r) : Particle.RefersTo (.group g) r

end

variable {r : String}

theorem ElementDecl.mem_typeRefs {decl : ElementDecl} :
    r ∈ decl.typeRefs ↔ decl.typeRef = some r ∧ r ≠ "" ∧ Primitive.ofTypeName? r = none := by
  unfold ElementDecl.typeRefs
  cases decl.typeRef with
  | none => simp
  | some ref =>
      dsimp only
      split
      · rename_i hbuiltin
        constructor
        · intro hr
          cases hr
        · rintro ⟨heq, hne, hnone⟩
          cases heq
          simp [hne, hnone] at hbuiltin
      · rename_i hbuiltin
        rw [List.mem_singleton, Option.some.injEq]
        constructor
        · rintro rfl
          simpa using hbuiltin
        · exact fun h => h.1.symm

theorem mem_typeRefsOfMembers {members : List Particle} :
    r ∈ typeRefsOfMembers members ↔ ∃ p ∈ members, r ∈ typeRefsOfMembers [p] := by
  induction members with
  | nil => simp [typeRefsOfMembers]
  | cons p rest ih => cases p <;> simp [typeRefsOfMembers, ih]

/-- The type names that are collected from elements, groups and members are those that they refer to. -/
theorem mem_typeRefs_iff :
    (∀ e : Element, r ∈ e.typeRefs ↔ e.RefersTo r) ∧ (∀ g : Group, r ∈ g.typeRefs ↔ g.RefersTo r) ∧
      ∀ p : Particle, r ∈ typeRefsOfMembers [p] ↔ p.RefersTo r := by
  apply tree_induction
  · intro decl
    constructor
    · intro hr
      obtain ⟨href, hne, hbuiltin⟩ := ElementDecl.mem_typeRefs.1 hr
      exact .named href hne hbuiltin
    · rintro ⟨href, hne, hbuiltin⟩
      exact ElementDecl.mem_typeRefs.2 ⟨href, hne, hbuiltin⟩
  · intro decl g ih
    constructor
    · intro hr
      rcases List.mem_append.1 hr with hr | hr
      · obtain ⟨href, hne, hbuiltin⟩ := ElementDecl.mem_typeRefs.1 hr
        exact .named href hne hbuiltin
      · exact .inside (ih.1 hr)
    · intro hr
      cases hr with
      | named href hne hbuiltin =>
          exact List.mem_append_left _ (ElementDecl.mem_typeRefs.2 ⟨href, hne, hbuiltin⟩)
      | inside hg => exact List.mem_append_right _ (ih.2 hg)
  · intro decl members ih
    change r ∈ typeRefsOfMembers members ↔ _
    rw [mem_typeRefsOfMembers]
    constructor
    · rintro ⟨p, hp, hr⟩
      exact .member hp ((ih p hp).1 hr)
    · rintro ⟨hp, hr⟩
      exact ⟨_, hp, (ih _ hp).2 hr⟩
  · intro e ih
    rw [typeRefsOfMembers, typeRefsOfMembers, List.append_nil, ih]
    refine ⟨.element, fun hr => ?_⟩
    cases hr with
    | element he => exact he
  · intro g ih
    rw [typeRefsOfMembers, typeRefsOfMembers, List.append_nil, ih]
    refine ⟨.nested, fun hr => ?_⟩
    cases hr with
    | nested hg => exact hg

namespace Schema

variable {schema : Schema} {n : String}

/-- A schema declares a named type. -/
def DeclaresType (schema : Schema) (n : String) : Prop := ∃ t ∈ schema.types, t.name = n

/-- A named type refers to another name: the content of one of the types declared with the name does. -/
def RefersTo (schema : Schema) (n r : String) : Prop :=
  ∃ t ∈ schema.types, t.name = n ∧ ∃ g, t.content = some g ∧ g.RefersTo r

/-- The edges of the type graph are the references. -/
theorem leads_references_eq : schema.references.Leads = schema.RefersTo := by
  funext n r
  refine propext (leads_references.trans (exists_congr fun t => and_congr_right fun _ => ?_))
  rw [eq_comm, TypeDefinition.mem_typeRefs]
  refine and_congr_right fun _ => exists_congr fun g => and_congr_right fun _ => ?_
  exact mem_typeRefs_iff.2.1 g

theorem mem_nodes_references_iff : n ∈ schema.references.nodes ↔ schema.DeclaresType n := by
  rw [mem_nodes_references]
  exact exists_congr fun t => and_congr_right fun _ => eq_comm

/-! ## The report -/

theorem increasing_recursive (schema : Schema) : schema.typeGraph.recursive.Pairwise (· < ·) := by
  have hnodes : schema.references.nodes.Pairwise (· < ·) :=
    List.pairwise_map.2 schema.increasing_references
  exact hnodes.filter _

/-- A recursive type reaches itself by references, so a reference begins at it and it is declared. -/
theorem mem_recursive_iff :
    n ∈ schema.typeGraph.recursive ↔ schema.DeclaresType n ∧ TransGen schema.RefersTo n n := by
  rw [mem_recursive, leads_references_eq]
  refine ⟨fun hcycle => ⟨?_, hcycle⟩, And.right⟩
  obtain ⟨r, ⟨t, ht, hname, -⟩, -⟩ := TransGen.head'_iff.1 hcycle
  exact ⟨t, ht, hname⟩

theorem isSome_order_iff_recursive : schema.typeGraph.order.isSome ↔ schema.typeGraph.recursive = [] := by
  rw [order_typeGraph, Graph.isSome_order_iff_acyclic schema.increasing_references, List.eq_nil_iff_forall_not_mem]
  exact forall_congr' fun n => not_congr mem_recursive.symm

/-- The names of the named types, each once. -/
theorem perm_nodes_references :
    schema.references.nodes.Perm (schema.types.map (·.name)).dedup := by
  refine (List.perm_ext_iff_of_nodup schema.increasing_references.nodup_nodes (List.nodup_dedup _)).2 fun n => ?_
  rw [mem_nodes_references_iff, List.mem_dedup, List.mem_map]
  rfl

/-- The type graph of every schema is reported as it is.  The recursive types are listed in increasing order and
once each, and they are the declared types that reach themselves by one or more references.  There is an order
exactly when no type is recursive; it has each declared type once, and behind all declared types that it refers
to. -/
theorem typeGraph_reports_references (schema : Schema) :
    (schema.typeGraph.recursive.Pairwise (· < ·) ∧
      ∀ n, n ∈ schema.typeGraph.recursive ↔ schema.DeclaresType n ∧ TransGen schema.RefersTo n n) ∧
    (schema.typeGraph.order.isSome ↔ schema.typeGraph.recursive = []) ∧
    ∀ order, schema.typeGraph.order = some order →
      order.Perm (schema.types.map (·.name)).dedup ∧
      ∀ before n after, order = before ++ n :: after →
        ∀ r, schema.RefersTo n r → schema.DeclaresType r → r ∈ before := by
  refine ⟨⟨schema.increasing_recursive, fun n => mem_recursive_iff⟩, isSome_order_iff_recursive, ?_⟩
  intro order horder
  rw [order_typeGraph] at horder
  obtain ⟨hperm, hfirst⟩ := Graph.order?_eq_some schema.increasing_references horder
  refine ⟨hperm.trans perm_nodes_references, fun before n after hsplit r hrefers hdeclares => ?_⟩
  have hlinks : schema.references.Links n r :=
    ⟨leads_references_eq ▸ hrefers, mem_nodes_references_iff.2 hdeclares⟩
  exact hfirst before n after hsplit r hlinks

end Schema
end Specimen
