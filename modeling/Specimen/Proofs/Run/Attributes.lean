import Mathlib.Data.List.Nodup
import Specimen.Document.Node
import Specimen.Proofs.Document.Outline
import Specimen.Proofs.Run.Budget
import Specimen.Proofs.Schema.Positions

/-!
# Attributes with the same name

The attributes of an element come from two lists, its own and that of its named type.  Each list is checked
by itself, by local names, so neither has two attributes of the same name.  Nothing compares the two lists:
an element can declare an attribute that its type declares as well, and this is the only way in which it
gets two attributes of the same name.

Every element of a document stands where the schema declares it and has attributes that are declared for
it.  So this is also the only way for a generated element.
-/

namespace Specimen

/-! ## Attributes of declared elements -/

namespace Schema

variable {schema : Schema}

/-- An element declares an attribute that its named type declares as well. -/
def Redeclares (schema : Schema) (e : Element) : Prop :=
  ∃ type identity t, schema.resolveType e = .ok type ∧ type.identity = some identity ∧
    schema.type? identity = some t ∧
      ∃ a ∈ e.decl.attributes, ∃ b ∈ t.attributes, a.expandedName = b.expandedName

/-- Attributes that were checked together have different local names, and none of an earlier one. -/
theorem nodup_of_checkAttributes {path : String} {seen : List String} {attributes : List AttributeDecl}
    (h : schema.checkAttributes path seen attributes = .ok ()) :
    (attributes.map (·.name)).Nodup ∧ ∀ a ∈ attributes, a.name ∉ seen := by
  induction attributes generalizing seen with
  | nil => exact ⟨List.nodup_nil, List.forall_mem_nil _⟩
  | cons a rest ih =>
      unfold checkAttributes at h
      split at h
      · cases h
      · rename_i hfresh
        obtain ⟨⟨⟩, -, hrest⟩ := Except.bind_eq_ok.1 h
        obtain ⟨hnodup, hunseen⟩ := ih hrest
        constructor
        · refine List.nodup_cons.2 ⟨fun hmem => ?_, hnodup⟩
          obtain ⟨b, hb, hname⟩ := List.mem_map.1 hmem
          exact hunseen b hb (hname ▸ List.mem_cons_self)
        · refine List.forall_mem_cons.2 ⟨hfresh, fun b hb hmem => ?_⟩
          exact hunseen b hb (List.mem_cons_of_mem _ hmem)

theorem nodup_expandedName {attributes : List AttributeDecl} (h : (attributes.map (·.name)).Nodup) :
    (attributes.map AttributeDecl.expandedName).Nodup := by
  apply List.Nodup.of_map Prod.snd
  rw [List.map_map]
  exact h

theorem own_nodup {e : Element} (he : schema.ElementPasses e) :
    (e.decl.attributes.map AttributeDecl.expandedName).Nodup := by
  obtain ⟨path, hdecl⟩ := checkDecl_of_elementPasses he
  exact nodup_expandedName (nodup_of_checkAttributes (checkDecl_eq_ok hdecl).2.2).1

theorem definition_nodup (hvalid : schema.validate = .ok ()) {t : TypeDefinition} (ht : t ∈ schema.types) :
    (t.attributes.map AttributeDecl.expandedName).Nodup := by
  have hcheck := checkDefinition_of_valid hvalid t ht
  obtain ⟨⟨⟩, hattributes, -⟩ := Except.bind_eq_ok.1 hcheck
  exact nodup_expandedName (nodup_of_checkAttributes hattributes).1

/-- The attributes of an element have different names, unless it declares one that its type declares as
well. -/
theorem nodup_attributes_iff (hvalid : schema.validate = .ok ()) {e : Element}
    (he : schema.ElementPasses e) {type : ResolvedType} (hresolve : schema.resolveType e = .ok type) :
    (type.attributes.map AttributeDecl.expandedName).Nodup ↔ ¬ schema.Redeclares e := by
  cases hidentity : type.identity with
  | none =>
      have hnamed : ¬ schema.Redeclares e := by
        rintro ⟨type', identity, t, hresolve', hidentity', -⟩
        rw [hresolve] at hresolve'
        obtain rfl := Except.ok.inj hresolve'
        rw [hidentity] at hidentity'
        cases hidentity'
      rw [(unnamed_of_resolveType hresolve hidentity).1]
      exact iff_of_true (own_nodup he) hnamed
  | some identity =>
      obtain ⟨-, -, -, t, ht, hattributes, -⟩ := named_of_resolveType hresolve hidentity
      have htype := definition_nodup hvalid (List.mem_of_find?_eq_some ht)
      rw [hattributes, List.map_append, List.nodup_append]
      constructor
      · rintro ⟨-, -, hdisjoint⟩ ⟨_, _, _, hresolve', hidentity', ht', a, ha, b, hb, hsame⟩
        rw [hresolve] at hresolve'
        obtain rfl := Except.ok.inj hresolve'
        rw [hidentity] at hidentity'
        obtain rfl := Option.some.inj hidentity'
        rw [ht] at ht'
        obtain rfl := Option.some.inj ht'
        exact hdisjoint _ (List.mem_map_of_mem ha) _ (List.mem_map_of_mem hb) hsame
      · intro hnot
        refine ⟨own_nodup he, htype, fun x hx y hy heq => hnot ?_⟩
        obtain ⟨a, ha, rfl⟩ := List.mem_map.1 hx
        obtain ⟨b, hb, rfl⟩ := List.mem_map.1 hy
        exact ⟨type, identity, t, hresolve, hidentity, ht, a, ha, b, hb, heq⟩

end Schema

/-! ## Heads of built elements -/

/-- An element stands where the schema declares it, and its attributes are among those that are declared
for it, in order. -/
def NodeHead.IsDeclared (schema : Schema) (root : Element) (head : NodeHead) : Prop :=
  ∃ path e, schema.Places root path e ∧ head.name = e.name ∧
    ∀ type, schema.resolveType e = .ok type →
      (head.attributes.map Attribute.expandedName).Sublist
        (type.attributes.map AttributeDecl.expandedName)

theorem AttributesOf.sublist {schema : Schema} {attributes : List AttributeDecl} {built : List Attribute}
    (h : AttributesOf schema attributes built) :
    (built.map Attribute.expandedName).Sublist (attributes.map AttributeDecl.expandedName) := by
  induction h with
  | nil => exact .slnil
  | omitted _ _ ih => exact .cons _ ih
  | present _ _ ih => exact .cons_cons _ ih

section Heads

variable {schema : Schema} {d : Demands} {root : Element}

/-- All that is in an element is declared. -/
def Node.AllDeclared (schema : Schema) (root : Element) (n : Node) : Prop :=
  ∀ head ∈ n.heads, head.IsDeclared schema root

theorem NodeHead.IsDeclared.of_attributes {path : String} {e : Element} {type : ResolvedType}
    {head : NodeHead} (he : schema.Places root path e) (hname : head.name = e.name)
    (hresolve : schema.resolveType e = .ok type)
    (hattributes : AttributesOf schema type.attributes head.attributes) :
    head.IsDeclared schema root := by
  refine ⟨path, e, he, hname, fun type' hresolve' => ?_⟩
  rw [hresolve] at hresolve'
  obtain rfl := Except.ok.inj hresolve'
  exact hattributes.sublist

theorem Node.AllDeclared.leaf {head : NodeHead} (h : head.IsDeclared schema root) :
    Node.AllDeclared schema root (.mk head []) := by
  intro head' hhead'
  rw [List.mem_singleton.1 hhead']
  exact h

/-- Elements in a row that stand where a group or one of its parts is declared. -/
abbrev DeclaredBelow (schema : Schema) (root : Element) (path : String) (declared : List Element)
    (nodes : List Node) : Prop :=
  (∀ c ∈ declared, schema.Places root (joinPath path c.name) c) →
    ∀ n ∈ nodes, n.AllDeclared schema root

/-- All elements of what is built as declared stand where the schema declares them. -/
theorem BuiltAs.allDeclared {path : String} {uri : Option String} {e : Element} {n : Node}
    (h : BuiltAs schema d path uri e n) : schema.Places root path e → n.AllDeclared schema root := by
  refine @BuiltAs.rec schema d
    (fun path _ e n _ => schema.Places root path e → n.AllDeclared schema root)
    (fun path _ g nodes _ => DeclaredBelow schema root path g.declared nodes)
    (fun path g nodes _ => DeclaredBelow schema root path g.declared nodes)
    (fun path members nodes _ => DeclaredBelow schema root path (declaredAmong members) nodes)
    (fun path _ p nodes _ => DeclaredBelow schema root path p.declared nodes)
    ?nil ?text ?empty ?complex ?stub ?word ?all ?branch ?nothing ?none ?more ?stopped ?elements ?group
    path uri e n h
  case nil =>
    intro path uri e type attributes _ htype hattributes he
    exact .leaf (.of_attributes he rfl htype hattributes)
  case text =>
    intro path uri e type attributes facets text truncated htype hattributes _ _ he
    exact .leaf (.of_attributes he rfl htype hattributes)
  case empty =>
    intro path uri e type attributes truncated htype hattributes _ _ he
    exact .leaf (.of_attributes he rfl htype hattributes)
  case complex =>
    intro path uri e type attributes g children truncated htype hattributes hcontent _ _ ih he head hhead
    rcases List.mem_cons.1 hhead with rfl | hbelow
    · exact .of_attributes he rfl htype hattributes
    · rw [Walk.headsAmong_eq] at hbelow
      obtain ⟨n, hn, hhead⟩ := List.mem_flatMap.1 hbelow
      exact ih (fun c hc => .child he htype hcontent hc) n hn head hhead
  case stub =>
    intro path uri e _ he
    refine .leaf ⟨path, e, he, rfl, fun _ _ => ?_⟩
    exact List.nil_sublist _
  case word =>
    intro path force g repetitions _ _ ih hg n hn
    obtain ⟨nodes, hnodes, hn⟩ := List.mem_flatten.1 hn
    exact ih nodes hnodes hg n hn
  case all =>
    intro path g nodes _ _ ih hg
    cases g with
    | mk decl members => exact ih hg
  case branch =>
    intro path g p nodes _ hmember _ ih hg
    cases g with
    | mk decl members => exact ih fun c hc => hg c (mem_declaredAmong hmember hc)
  case nothing => exact fun _ _ _ => List.forall_mem_nil _
  case none => exact fun _ => List.forall_mem_nil _
  case more =>
    intro path p rest own more _ _ ihOwn ihMore hmembers n hn
    rcases List.mem_append.1 hn with hn | hn
    · exact ihOwn (fun c hc => hmembers c (mem_declaredAmong List.mem_cons_self hc)) n hn
    · refine ihMore (fun c hc => hmembers c ?_) n hn
      obtain ⟨q, hq, hc⟩ := exists_of_mem_declaredAmong hc
      exact mem_declaredAmong (List.mem_cons_of_mem _ hq) hc
  case stopped => exact fun _ _ => List.forall_mem_nil _
  case elements =>
    intro path force e nodes _ _ ih hp n hn
    exact ih n hn (hp e (List.mem_singleton_self e))
  case group =>
    intro path force g nodes _ ih hp
    exact ih hp

end Heads

namespace Generation

/-! ## Documents -/

/-- A schema that was checked, and the names of the attributes of one element.  At every element that can be
reached from a global one, the declared attributes have different names, namespaces included, exactly when
the element does not declare an attribute that its named type declares as well.  Only at such an element
can a document have two attributes of the same name. -/
theorem attributes_distinct_iff (schema : Schema) (hvalid : schema.validate = .ok ()) :
    (∀ root ∈ schema.elements, ∀ path e, schema.Places root path e → ∀ type,
      schema.resolveType e = .ok type →
        ((type.attributes.map AttributeDecl.expandedName).Nodup ↔ ¬ schema.Redeclares e)) ∧
    ∀ config options freshSeed made, run schema config options freshSeed = .ok made →
      ∀ head ∈ made.document.heads, (head.attributes.map Attribute.expandedName).Nodup ∨
        ∃ root ∈ schema.elements, ∃ path e, schema.Places root path e ∧ schema.Redeclares e ∧
          head.name = e.name := by
  have hiff : ∀ root ∈ schema.elements, ∀ path e, schema.Places root path e →
      ∃ type, schema.resolveType e = .ok type ∧
        ((type.attributes.map AttributeDecl.expandedName).Nodup ↔ ¬ schema.Redeclares e) := by
    intro root hroot path e he
    obtain ⟨stack, hreaches⟩ := he.exists_reaches
    have hpasses := hreaches.passes hvalid (Schema.elements_pass hvalid root hroot)
    obtain ⟨type, hresolve, -⟩ := Schema.resolveType_passes hvalid hpasses
    exact ⟨type, hresolve, Schema.nodup_attributes_iff hvalid hpasses hresolve⟩
  constructor
  · intro root hroot path e he type hresolve
    obtain ⟨type', hresolve', hdistinct⟩ := hiff root hroot path e he
    rw [hresolve] at hresolve'
    obtain rfl := Except.ok.inj hresolve'
    exact hdistinct
  · intro config options freshSeed made hrun head hhead
    obtain ⟨setup, root, t, hprepare, hdocument, -⟩ := run_eq_ok hrun
    have hprepared := prepared_of_prepare hprepare
    have hbuilt := Walk.buildDocument_builtAs (Walk.meets_shapeOnly setup t) hprepared.schema_valid
      hprepared.root_passes rfl hdocument
    rw [hprepared.schema_eq] at hbuilt
    obtain ⟨path, e, he, hname, hsublist⟩ := hbuilt.allDeclared .root head hhead
    obtain ⟨type, hresolve, hdistinct⟩ := hiff root hprepared.root_mem path e he
    by_cases hredeclares : schema.Redeclares e
    · exact .inr ⟨root, hprepared.root_mem, path, e, he, hredeclares, hname⟩
    · exact .inl ((hdistinct.2 hredeclares).sublist (hsublist type hresolve))

/-- An element that declares an attribute of its type again. -/
def taggedElement : Element :=
  .mk { name := "Root", typeRef := some "Tagged",
        attributes := [{ name := "id", required := true, fixed := some "a" }] } none

/-- A schema in which an element and its type declare the same attribute. -/
def taggedSchema : Schema where
  version := "1"
  elements := [taggedElement]
  types := [{ name := "Tagged", attributes := [{ name := "id", required := true, fixed := some "b" }] }]

theorem attributes_distinct_iff_order : orderSchema.validate = .ok () ∧
    (∀ root ∈ orderSchema.elements, ∀ path e, orderSchema.Places root path e → ∀ type,
      orderSchema.resolveType e = .ok type →
        ((type.attributes.map AttributeDecl.expandedName).Nodup ↔ ¬ orderSchema.Redeclares e)) ∧
    ∀ config options freshSeed made, run orderSchema config options freshSeed = .ok made →
      ∀ head ∈ made.document.heads, (head.attributes.map Attribute.expandedName).Nodup ∨
        ∃ root ∈ orderSchema.elements, ∃ path e, orderSchema.Places root path e ∧
          orderSchema.Redeclares e ∧ head.name = e.name := by
  have hvalid : orderSchema.validate = .ok () := by decide +kernel
  exact ⟨hvalid, attributes_distinct_iff orderSchema hvalid⟩

/-- Neither the declared attributes of an element nor those in a document always have different names. -/
theorem attributes_repeated :
    (¬ ∀ schema : Schema, schema.validate = .ok () → ∀ root ∈ schema.elements, ∀ path e,
      schema.Places root path e → ∀ type, schema.resolveType e = .ok type →
        (type.attributes.map AttributeDecl.expandedName).Nodup) ∧
    ¬ ∀ schema config options freshSeed made, schema.validate = .ok () →
      run schema config options freshSeed = .ok made →
        ∀ head ∈ made.document.heads, (head.attributes.map Attribute.expandedName).Nodup := by
  have hvalid : taggedSchema.validate = .ok () := by decide +kernel
  constructor
  · intro h
    have hnodup := h taggedSchema hvalid taggedElement (List.mem_singleton_self _) _ _ .root _ rfl
    revert hnodup
    decide +kernel
  · intro h
    have hcomputed : (match run taggedSchema {} {} 0 with
        | .ok made => !decide (made.document.head.attributes.map Attribute.expandedName).Nodup
        | .error _ => false) = true := by decide +kernel
    split at hcomputed
    · rename_i made hmade
      have hrepeated : ¬ (made.document.head.attributes.map Attribute.expandedName).Nodup := by
        simpa using hcomputed
      have hhead : made.document.head ∈ made.document.heads := by
        cases made.document with
        | mk head children => exact List.mem_cons_self
      exact hrepeated (h taggedSchema {} {} 0 made hvalid hmade _ hhead)
    · cases hcomputed

end Generation

end Specimen
