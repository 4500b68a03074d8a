import Specimen.Proofs.Except
import Specimen.Schema.Validation

/-!
# What a valid schema promises

Behind the check of a schema stands a promise about every element that can be met in it, however deep:
its bounds are in order, its type and the types of its attributes are found, and the members of its type
keep the same promise.  This is what the walk relies on when it follows types without looking again.
-/

namespace Specimen

/-! ## Elements and groups together -/

/-- What holds of elements with a named type, of an element whenever it holds of the group in it, and of
a group whenever it holds of its members, holds of all elements and groups. -/
theorem tree_induction {E : Element → Prop} {G : Group → Prop} {P : Particle → Prop}
    (named : ∀ decl, E (.mk decl none)) (content : ∀ decl g, G g → E (.mk decl (some g)))
    (group : ∀ decl members, (∀ p ∈ members, P p) → G (.mk decl members))
    (element : ∀ e, E e → P (.element e)) (nested : ∀ g, G g → P (.group g)) :
    (∀ e, E e) ∧ (∀ g, G g) ∧ ∀ p, P p := by
  have helement : ∀ decl o, (∀ g, o = some g → G g) → E (.mk decl o) := by
    intro decl o ho
    cases o with
    | none => exact named decl
    | some g => exact content decl g (ho g rfl)
  have hsome : ∀ g, G g → ∀ g', some g = some g' → G g' := fun g hg _ h => Option.some.inj h ▸ hg
  have hcons : ∀ p rest, P p → (∀ q ∈ rest, P q) → ∀ q ∈ p :: rest, P q :=
    fun p rest hp hrest => List.forall_mem_cons.2 ⟨hp, hrest⟩
  exact ⟨Element.rec helement group element nested nofun hsome (List.forall_mem_nil P) hcons,
    Group.rec helement group element nested nofun hsome (List.forall_mem_nil P) hcons,
    Particle.rec helement group element nested nofun hsome (List.forall_mem_nil P) hcons⟩

namespace Schema

variable {schema : Schema}

/-- An element that is found to be in order, at some path. -/
def ElementPasses (schema : Schema) (e : Element) : Prop :=
  ∃ path, schema.checkElement path e = .ok ()

/-- A group that is found to be in order, at some path. -/
def GroupPasses (schema : Schema) (g : Group) : Prop :=
  ∃ path, schema.checkGroup path g = .ok ()

/-- A member of a group that is found to be in order. -/
def ParticlePasses (schema : Schema) : Particle → Prop
  | .element e => schema.ElementPasses e
  | .group g => schema.GroupPasses g

/-- What is promised of the type of an element. -/
structure TypePasses (schema : Schema) (type : ResolvedType) : Prop where
  attributes : ∀ a ∈ type.attributes, ∃ f, schema.resolveAttribute a = .ok f
  content : ∀ g, type.content = .complex g → schema.GroupPasses g
  named : ∀ id, type.identity = some id → id ∈ schema.types.map (·.name)

/-! ## Groups -/

theorem bounds_of_groupPasses {g : Group} (h : schema.GroupPasses g) :
    exceeded? g.minOccurs g.maxOccurs = none := by
  obtain ⟨path, h⟩ := h
  cases g with
  | mk decl members =>
      unfold checkGroup at h
      split at h
      · cases h
      · assumption

theorem passes_of_checkMembers {path : String} {members : List Particle}
    (h : schema.checkMembers path members = .ok ()) : ∀ p ∈ members, schema.ParticlePasses p := by
  induction members with
  | nil => exact List.forall_mem_nil _
  | cons p rest ih =>
      cases p with
      | element e =>
          obtain ⟨⟨⟩, hfirst, hrest⟩ := Except.bind_eq_ok.1 h
          exact List.forall_mem_cons.2 ⟨⟨_, hfirst⟩, ih hrest⟩
      | group g =>
          obtain ⟨⟨⟩, hfirst, hrest⟩ := Except.bind_eq_ok.1 h
          exact List.forall_mem_cons.2 ⟨⟨_, hfirst⟩, ih hrest⟩

theorem member_passes {g : Group} (h : schema.GroupPasses g) :
    ∀ p ∈ g.members, schema.ParticlePasses p := by
  obtain ⟨path, h⟩ := h
  cases g with
  | mk decl members =>
      unfold checkGroup at h
      split at h
      · cases h
      · exact passes_of_checkMembers h

/-! ## Elements -/

theorem checkDecl_eq_ok {path : String} {e : Element} (h : schema.checkDecl path e = .ok ()) :
    exceeded? e.minOccurs e.maxOccurs = none ∧ (∃ type, schema.resolveType e = .ok type) ∧
      schema.checkAttributes path [] e.decl.attributes = .ok () := by
  unfold checkDecl at h
  dsimp only at h
  split at h
  · cases h
  · split at h
    · cases h
    · rename_i hbounds
      split at h
      · cases h
      · split at h
        · cases h
        · obtain ⟨_, htype, hattributes⟩ := Except.bind_eq_ok.1 h
          refine ⟨?_, ?_, hattributes⟩
          · exact Option.eq_none_iff_forall_ne_some.2 fun high heq => hbounds high heq
          · cases hresolve : schema.resolveType e with
            | error err => rw [hresolve] at htype; cases htype
            | ok type => exact ⟨type, rfl⟩

theorem checkDecl_of_elementPasses {e : Element} (h : schema.ElementPasses e) :
    ∃ path, schema.checkDecl path e = .ok () := by
  obtain ⟨path, h⟩ := h
  cases e with
  | mk decl content =>
      cases content with
      | none => exact ⟨path, h⟩
      | some g =>
          obtain ⟨⟨⟩, hdecl, -⟩ := Except.bind_eq_ok.1 h
          exact ⟨path, hdecl⟩

theorem content_passes {decl : ElementDecl} {g : Group}
    (h : schema.ElementPasses (.mk decl (some g))) : schema.GroupPasses g := by
  obtain ⟨path, h⟩ := h
  obtain ⟨⟨⟩, -, hgroup⟩ := Except.bind_eq_ok.1 h
  exact ⟨path, hgroup⟩

theorem bounds_of_elementPasses {e : Element} (h : schema.ElementPasses e) :
    exceeded? e.minOccurs e.maxOccurs = none := by
  obtain ⟨path, hdecl⟩ := checkDecl_of_elementPasses h
  exact (checkDecl_eq_ok hdecl).1

theorem resolveAttribute_of_check {path : String} {a : AttributeDecl}
    (h : schema.checkAttributeType path a = .ok ()) : ∃ f, schema.resolveAttribute a = .ok f := by
  cases hsimple : a.simpleType with
  | some f => exact ⟨f, by simp only [resolveAttribute, hsimple]⟩
  | none =>
      cases href : a.typeRef with
      | none => exact ⟨Facets.ofBase .string, by simp only [resolveAttribute, hsimple, href]⟩
      | some ref =>
          cases hbuiltin : Primitive.ofTypeName? ref with
          | some p =>
              exact ⟨Facets.ofBase p, by simp only [resolveAttribute, hsimple, href, hbuiltin]⟩
          | none =>
              cases htype : schema.type? ref with
              | none => simp [checkAttributeType, href, hbuiltin, htype] at h
              | some t =>
                  cases hfacets : t.simpleType with
                  | none => simp [checkAttributeType, href, hbuiltin, htype, hfacets] at h
                  | some f =>
                      exact ⟨f, by simp [resolveAttribute, hsimple, href, hbuiltin, htype, hfacets]⟩

theorem resolveAttribute_of_checks {path : String} {seen : List String}
    {attributes : List AttributeDecl} (h : schema.checkAttributes path seen attributes = .ok ()) :
    ∀ a ∈ attributes, ∃ f, schema.resolveAttribute a = .ok f := by
  induction attributes generalizing seen with
  | nil => exact List.forall_mem_nil _
  | cons a rest ih =>
      unfold checkAttributes at h
      split at h
      · cases h
      · obtain ⟨⟨⟩, hfirst, hrest⟩ := Except.bind_eq_ok.1 h
        exact List.forall_mem_cons.2 ⟨resolveAttribute_of_check hfirst, ih hrest⟩

/-! ## Schemas -/

theorem passes_of_checkElements {seen : List String} {elements : List Element}
    (h : schema.checkElements seen elements = .ok ()) : ∀ e ∈ elements, schema.ElementPasses e := by
  induction elements generalizing seen with
  | nil => exact List.forall_mem_nil _
  | cons e rest ih =>
      unfold checkElements at h
      split at h
      · cases h
      · obtain ⟨⟨⟩, hfirst, hrest⟩ := Except.bind_eq_ok.1 h
        exact List.forall_mem_cons.2 ⟨⟨_, hfirst⟩, ih hrest⟩

theorem elements_pass (hvalid : schema.validate = .ok ()) :
    ∀ e ∈ schema.elements, schema.ElementPasses e := by
  obtain ⟨⟨⟩, -, h⟩ := Except.bind_eq_ok.1 hvalid
  obtain ⟨⟨⟩, helements, -⟩ := Except.bind_eq_ok.1 h
  exact passes_of_checkElements helements

theorem checkDefinition_of_valid (hvalid : schema.validate = .ok ()) :
    ∀ t ∈ schema.types, schema.checkDefinition t = .ok () := by
  obtain ⟨⟨⟩, -, h⟩ := Except.bind_eq_ok.1 hvalid
  obtain ⟨⟨⟩, -, hdefinitions⟩ := Except.bind_eq_ok.1 h
  exact List.forM_eq_ok.1 hdefinitions

theorem definition_passes (hvalid : schema.validate = .ok ()) {t : TypeDefinition}
    (ht : t ∈ schema.types) :
    (∀ a ∈ t.attributes, ∃ f, schema.resolveAttribute a = .ok f) ∧
      ∀ g, t.content = some g → schema.GroupPasses g := by
  have hcheck := checkDefinition_of_valid hvalid t ht
  obtain ⟨⟨⟩, hattributes, hcontent⟩ := Except.bind_eq_ok.1 hcheck
  refine ⟨resolveAttribute_of_checks hattributes, fun g hg => ?_⟩
  rw [hg] at hcontent
  exact ⟨_, hcontent⟩

/-! ## Types of elements -/

/-- What the type of an element can be: one without a name, whose members are those of the element itself, or
the named type that the element refers to, with the attributes of the element before its own. -/
theorem resolveType_eq_ok {e : Element} {type : ResolvedType} (h : schema.resolveType e = .ok type) :
    (∃ content, type = ⟨none, content, e.decl.attributes⟩ ∧
      ∀ g, content = .complex g → e.content = some g) ∨
    ∃ t content, type = ⟨some t.name, content, e.decl.attributes ++ t.attributes⟩ ∧
      e.content = none ∧ typeRef? e.decl = some t.name ∧ Primitive.ofTypeName? t.name = none ∧
        schema.type? t.name = some t ∧ ∀ g, content = .complex g → t.content = some g := by
  unfold resolveType at h
  split at h
  · exact .inl ⟨_, (Except.ok.inj h).symm, nofun⟩
  · rename_i g _ hcontent
    exact .inl ⟨_, (Except.ok.inj h).symm, fun g' hg' => TypeContent.complex.inj hg' ▸ hcontent⟩
  · rename_i hanonymous
    split at h
    · cases h
    · rename_i ref href
      split at h
      · exact .inl ⟨_, (Except.ok.inj h).symm, nofun⟩
      · rename_i hbuiltin
        split at h
        · cases h
        · rename_i t ht
          obtain rfl : t.name = ref := by simpa using List.find?_some ht
          dsimp only at h
          split at h
          · exact .inr ⟨t, _, (Except.ok.inj h).symm, hanonymous, href, hbuiltin, ht, nofun⟩
          · rename_i g _ hg
            exact .inr ⟨t, _, (Except.ok.inj h).symm, hanonymous, href, hbuiltin, ht,
              fun g' hg' => TypeContent.complex.inj hg' ▸ hg⟩
          · exact .inr ⟨t, _, (Except.ok.inj h).symm, hanonymous, href, hbuiltin, ht, nofun⟩
          · cases h

/-- The named type that an element refers to keeps the promise beside the attributes of the element. -/
theorem named_passes (hvalid : schema.validate = .ok ()) {ref : String} {t : TypeDefinition}
    (htype : schema.type? ref = some t) {own : List AttributeDecl}
    (hown : ∀ a ∈ own, ∃ f, schema.resolveAttribute a = .ok f) {content : TypeContent}
    (hcontent : ∀ g, content = .complex g → t.content = some g) :
    schema.TypePasses ⟨some t.name, content, own ++ t.attributes⟩ := by
  have ht : t ∈ schema.types := List.mem_of_find?_eq_some htype
  obtain ⟨hattributes, hgroup⟩ := definition_passes hvalid ht
  refine ⟨fun a ha => ?_, fun g hg => hgroup g (hcontent g hg), fun id hid => ?_⟩
  · rcases List.mem_append.1 ha with ha | ha
    · exact hown a ha
    · exact hattributes a ha
  · exact Option.some.inj hid ▸ List.mem_map_of_mem ht

/-- The type of an element of a valid schema keeps what is promised of types. -/
theorem typePasses_of_resolveType (hvalid : schema.validate = .ok ()) {e : Element}
    (he : schema.ElementPasses e) {type : ResolvedType} (hresolve : schema.resolveType e = .ok type) :
    schema.TypePasses type := by
  obtain ⟨path, hdecl⟩ := checkDecl_of_elementPasses he
  have hown := resolveAttribute_of_checks (checkDecl_eq_ok hdecl).2.2
  rcases resolveType_eq_ok hresolve with
    ⟨content, rfl, hmembers⟩ | ⟨t, content, rfl, -, -, -, ht, hmembers⟩
  · refine ⟨hown, fun g hg => ?_, nofun⟩
    cases e with
    | mk decl own =>
        cases hmembers g hg
        exact content_passes he
  · exact named_passes hvalid ht hown hmembers

/-- The type of an element of a valid schema is found. -/
theorem resolveType_passes (hvalid : schema.validate = .ok ()) {e : Element}
    (he : schema.ElementPasses e) :
    ∃ type, schema.resolveType e = .ok type ∧ schema.TypePasses type := by
  obtain ⟨path, hdecl⟩ := checkDecl_of_elementPasses he
  obtain ⟨type, hresolve⟩ := (checkDecl_eq_ok hdecl).2.1
  exact ⟨type, hresolve, typePasses_of_resolveType hvalid he hresolve⟩

/-- An element without an anonymous type has members only in a named type. -/
theorem identity_of_resolveType {decl : ElementDecl} {type : ResolvedType} {g : Group}
    (hresolve : schema.resolveType (.mk decl none) = .ok type) (hcontent : type.content = .complex g) :
    ∃ identity, type.identity = some identity := by
  rcases resolveType_eq_ok hresolve with ⟨content, rfl, hmembers⟩ | ⟨t, content, rfl, -⟩
  · cases hmembers g hcontent
  · exact ⟨t.name, rfl⟩

/-- The members of an anonymous type are those of its group, and no name is opened for it. -/
theorem content_of_resolveType {decl : ElementDecl} {type : ResolvedType} {g g' : Group}
    (hresolve : schema.resolveType (.mk decl (some g)) = .ok type)
    (hcontent : type.content = .complex g') : g' = g ∧ type.identity = none := by
  rcases resolveType_eq_ok hresolve with ⟨content, rfl, hmembers⟩ | ⟨t, content, -, hanonymous, -⟩
  · cases hmembers g' hcontent
    exact ⟨rfl, rfl⟩
  · cases hanonymous

/-- A type with a name is the named type that the element refers to; the attributes of the element come
before those of the type. -/
theorem named_of_resolveType {e : Element} {type : ResolvedType} {identity : String}
    (hresolve : schema.resolveType e = .ok type) (hidentity : type.identity = some identity) :
    e.content = none ∧ typeRef? e.decl = some identity ∧ Primitive.ofTypeName? identity = none ∧
      ∃ t, schema.type? identity = some t ∧ type.attributes = e.decl.attributes ++ t.attributes ∧
        ∀ g, type.content = .complex g → t.content = some g := by
  rcases resolveType_eq_ok hresolve with
    ⟨content, rfl, -⟩ | ⟨t, content, rfl, hanonymous, href, hbuiltin, ht, hmembers⟩
  · cases hidentity
  · cases hidentity
    exact ⟨hanonymous, href, hbuiltin, t, ht, rfl, hmembers⟩

/-- A type without a name has the attributes of the element and no others, and its members are those that
the element itself declares. -/
theorem unnamed_of_resolveType {e : Element} {type : ResolvedType}
    (hresolve : schema.resolveType e = .ok type) (hidentity : type.identity = none) :
    type.attributes = e.decl.attributes ∧ ∀ g, type.content = .complex g → e.content = some g := by
  rcases resolveType_eq_ok hresolve with ⟨content, rfl, hmembers⟩ | ⟨t, content, rfl, -⟩
  · exact ⟨rfl, hmembers⟩
  · cases hidentity

end Schema
end Specimen
