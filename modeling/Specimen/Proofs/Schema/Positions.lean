import Specimen.Proofs.Schema.Sound
import Specimen.Schema.Catalog

/-!
# Where elements are declared

A group declares elements, directly or in the groups in it.  An element can stand at a path of a document
when it is the root, or when the content of the type of an element one segment above declares it.

`Reaches` also keeps the named types that are entered on the way, the innermost first.  It is how far the
schema alone determines where a walk can be; the walk itself may stop earlier.
-/

namespace Specimen

mutual

/-- The elements that a group declares, directly or in the groups in it. -/
def Group.declared : Group → List Element
  | .mk _ members => declaredAmong members

/-- The elements that members declare. -/
def declaredAmong : List Particle → List Element
  | [] => []
  | .element e :: rest => e :: declaredAmong rest
  | .group g :: rest => g.declared ++ declaredAmong rest

end

/-- The elements that a member declares. -/
def Particle.declared : Particle → List Element
  | .element e => [e]
  | .group g => g.declared

theorem mem_declaredAmong {members : List Particle} {p : Particle} (hp : p ∈ members) {e : Element}
    (he : e ∈ p.declared) : e ∈ declaredAmong members := by
  induction members with
  | nil => cases hp
  | cons q rest ih =>
      rcases List.mem_cons.1 hp with rfl | hrest
      · cases p with
        | element e' => exact List.mem_cons.2 (.inl (List.mem_singleton.1 he))
        | group g => exact List.mem_append_left _ he
      · cases q with
        | element e' => exact List.mem_cons_of_mem _ (ih hrest)
        | group g => exact List.mem_append_right _ (ih hrest)

theorem exists_of_mem_declaredAmong {members : List Particle} {e : Element}
    (he : e ∈ declaredAmong members) : ∃ p ∈ members, e ∈ p.declared := by
  induction members with
  | nil => cases he
  | cons q rest ih =>
      cases q with
      | element e' =>
          rcases List.mem_cons.1 he with rfl | hrest
          · exact ⟨.element e, List.mem_cons_self, List.mem_singleton_self e⟩
          · obtain ⟨p, hp, hmem⟩ := ih hrest
            exact ⟨p, List.mem_cons_of_mem _ hp, hmem⟩
      | group g =>
          rcases List.mem_append.1 he with hfirst | hrest
          · exact ⟨.group g, List.mem_cons_self, hfirst⟩
          · obtain ⟨p, hp, hmem⟩ := ih hrest
            exact ⟨p, List.mem_cons_of_mem _ hp, hmem⟩

/-- What holds of every element that members of a group declare when it holds of the members holds of
every element that the group declares. -/
theorem declared_of_members {Q : Element → Prop} {G : Group → Prop} {P : Particle → Prop}
    (members : ∀ g, G g → ∀ p ∈ g.members, P p) (element : ∀ e, P (.element e) → Q e)
    (nested : ∀ g, P (.group g) → G g) : ∀ g, G g → ∀ e ∈ g.declared, Q e := by
  have hall := tree_induction (E := fun _ => True) (G := fun g => G g → ∀ e ∈ g.declared, Q e)
    (P := fun p => P p → ∀ e ∈ p.declared, Q e) (fun _ => trivial) (fun _ _ _ => trivial) ?group ?element
    ?nested
  · exact hall.2.1
  case group =>
    intro decl ps ih hg e he
    obtain ⟨p, hp, hmem⟩ := exists_of_mem_declaredAmong he
    exact ih p hp (members _ hg p hp) e hmem
  case element =>
    intro e _ hp e' he'
    rw [List.mem_singleton.1 he']
    exact element e hp
  case nested =>
    intro g ih hp
    exact ih (nested g hp)

namespace Schema

variable {schema : Schema} {root e : Element} {path : String} {stack : List String}

/-- The elements that a group declares are in order when the group is. -/
theorem declared_passes {g : Group} (hg : schema.GroupPasses g) : ∀ c ∈ g.declared, schema.ElementPasses c :=
  declared_of_members (P := schema.ParticlePasses) (fun _ hg => member_passes hg) (fun _ h => h)
    (fun _ h => h) g hg

/-- The elements that can stand at a path of a document, below the declaration of its root. -/
inductive Places (schema : Schema) (root : Element) : (path : String) → Element → Prop where
  | root : Places schema root (joinPath "" root.name) root
  | child {path : String} {e : Element} {type : ResolvedType} {g : Group} {c : Element}
      (he : Places schema root path e) (htype : schema.resolveType e = .ok type)
      (hcontent : type.content = .complex g) (hc : c ∈ g.declared) :
      Places schema root (joinPath path c.name) c

/-- The elements that can stand at a path of a document, with the named types that are entered on the way
to them. -/
inductive Reaches (schema : Schema) (root : Element) :
    (path : String) → (stack : List String) → Element → Prop where
  | root : Reaches schema root (joinPath "" root.name) [] root
  | child {path : String} {stack : List String} {e : Element} {type : ResolvedType} {g : Group}
      {c : Element} (he : Reaches schema root path stack e) (htype : schema.resolveType e = .ok type)
      (hcontent : type.content = .complex g) (hc : c ∈ g.declared) :
      Reaches schema root (joinPath path c.name) (type.identity.toList ++ stack) c

theorem Reaches.passes (h : schema.Reaches root path stack e) (hvalid : schema.validate = .ok ())
    (hroot : schema.ElementPasses root) : schema.ElementPasses e := by
  induction h with
  | root => exact hroot
  | child _ hresolve hcontent hc ih =>
      have htype := typePasses_of_resolveType hvalid ih hresolve
      exact declared_passes (htype.content _ hcontent) _ hc

theorem Reaches.places (h : schema.Reaches root path stack e) : schema.Places root path e := by
  induction h with
  | root => exact .root
  | child _ htype hcontent hc ih => exact ih.child htype hcontent hc

theorem Places.exists_reaches (h : schema.Places root path e) :
    ∃ stack, schema.Reaches root path stack e := by
  induction h with
  | root => exact ⟨[], .root⟩
  | child _ htype hcontent hc ih =>
      obtain ⟨stack, he⟩ := ih
      exact ⟨_, .child he htype hcontent hc⟩

/-- Below a root that has no members, there is no other element. -/
theorem Places.eq_root {type : ResolvedType} (hroot : schema.resolveType root = .ok type)
    (hleaf : ∀ g, type.content ≠ .complex g) (h : schema.Places root path e) :
    path = joinPath "" root.name ∧ e = root := by
  induction h with
  | root => exact ⟨rfl, rfl⟩
  | child _ htype hcontent _ ih =>
      rw [ih.2, hroot] at htype
      obtain rfl := Except.ok.inj htype
      exact absurd hcontent (hleaf _)

end Schema
end Specimen
