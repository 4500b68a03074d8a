import Mathlib.Data.List.Nodup
import Specimen.Proofs.Schema.Sound
import Specimen.Schema.Catalog

/-!
# Named types in another order

A type is only ever looked up under its name, and the names of the types of a valid schema are distinct.  So it
does not matter in which order they are declared: under every name the same type is found, and then elements and
attributes have the same types, the same checks succeed, and the catalog has the same entries.
-/

namespace Specimen

/-- What is asked of a named type by itself: a name, and not both simple and complex content. -/
def TypeDefinition.InOrder (t : TypeDefinition) : Prop :=
  Text.isAllBlank t.name = false ∧ (t.simpleType.isSome && t.content.isSome) = false

namespace Schema

/-- A schema with other named types. -/
def withTypes (schema : Schema) (types : List TypeDefinition) : Schema := { schema with types }

/-- Two schemas find the same type under every name. -/
abbrev FindsAlike (schema schema' : Schema) : Prop := ∀ name, schema'.type? name = schema.type? name

/-! ## Names -/

theorem checkTypes_eq_ok {seen : List String} {types : List TypeDefinition} :
    checkTypes seen types = .ok () ↔
      (∀ t ∈ types, t.InOrder ∧ t.name ∉ seen) ∧ (types.map (·.name)).Nodup := by
  induction types generalizing seen with
  | nil => exact iff_of_true rfl ⟨List.forall_mem_nil _, List.nodup_nil⟩
  | cons t rest ih =>
      rw [List.forall_mem_cons, List.map_cons, List.nodup_cons]
      unfold checkTypes
      split
      · rename_i hblank
        exact iff_of_false nofun fun h => Bool.false_ne_true (h.1.1.1.1.symm.trans hblank)
      · split
        · rename_i hseen
          exact iff_of_false nofun fun h => h.1.1.2 hseen
        · split
          · rename_i hmixed
            exact iff_of_false nofun fun h => Bool.false_ne_true (h.1.1.1.2.symm.trans hmixed)
          · rename_i hnamed hfresh hsound
            have horder : t.InOrder := ⟨Bool.eq_false_iff.2 hnamed, Bool.eq_false_iff.2 hsound⟩
            rw [ih]
            simp only [List.mem_cons, List.mem_map]
            grind

/-- When the types have distinct names, each is found under its own. -/
theorem type?_eq_some {schema : Schema} (hnodup : (schema.types.map (·.name)).Nodup) {name : String}
    {t : TypeDefinition} : schema.type? name = some t ↔ t ∈ schema.types ∧ t.name = name := by
  constructor
  · intro h
    exact ⟨List.mem_of_find?_eq_some h, by simpa using List.find?_some h⟩
  · rintro ⟨ht, rfl⟩
    have hfound : (schema.type? t.name).isSome := List.find?_isSome.2 ⟨t, ht, beq_self_eq_true _⟩
    obtain ⟨t', h⟩ := Option.isSome_iff_exists.1 hfound
    have hname : t'.name = t.name := by simpa using List.find?_some h
    rw [h, List.inj_on_of_nodup_map hnodup (List.mem_of_find?_eq_some h) ht hname]

theorem findsAlike_of_perm {schema : Schema} {types : List TypeDefinition} (hperm : types.Perm schema.types)
    (hnodup : (schema.types.map (·.name)).Nodup) : schema.FindsAlike (schema.withTypes types) := by
  intro name
  have hnodup' : ((schema.withTypes types).types.map (·.name)).Nodup := (hperm.map _).nodup_iff.2 hnodup
  apply Option.ext
  intro t
  rw [type?_eq_some hnodup', type?_eq_some hnodup]
  exact and_congr_left' hperm.mem_iff

/-! ## Types and checks -/

section Alike

variable {schema schema' : Schema} (hfind : schema.FindsAlike schema')

include hfind

theorem resolveType_congr (e : Element) : schema'.resolveType e = schema.resolveType e := by
  unfold resolveType
  simp only [hfind]

theorem resolveAttribute_congr (a : AttributeDecl) :
    schema'.resolveAttribute a = schema.resolveAttribute a := by
  unfold resolveAttribute
  simp only [hfind]

theorem checkAttributes_congr (path : String) (seen : List String) (attributes : List AttributeDecl) :
    schema'.checkAttributes path seen attributes = schema.checkAttributes path seen attributes := by
  induction attributes generalizing seen with
  | nil => rfl
  | cons a rest ih =>
      unfold checkAttributes checkAttributeType
      simp only [hfind, ih]

theorem checkDecl_congr (path : String) (e : Element) :
    schema'.checkDecl path e = schema.checkDecl path e := by
  unfold checkDecl
  rw [resolveType_congr hfind, checkAttributes_congr hfind]

/-- Elements and groups pass the checks of one schema as they pass those of the other. -/
theorem checks_congr :
    (∀ e path, schema'.checkElement path e = schema.checkElement path e) ∧
      ∀ g path, schema'.checkGroup path g = schema.checkGroup path g := by
  have hall := tree_induction
    (E := fun e => ∀ path, schema'.checkElement path e = schema.checkElement path e)
    (G := fun g => ∀ path, schema'.checkGroup path g = schema.checkGroup path g)
    (P := fun p => ∀ path rest, schema'.checkMembers path rest = schema.checkMembers path rest →
      schema'.checkMembers path (p :: rest) = schema.checkMembers path (p :: rest))
    ?named ?content ?group ?element ?nested
  · exact ⟨hall.1, hall.2.1⟩
  case named => exact fun decl path => checkDecl_congr hfind path _
  case content =>
    intro decl g hg path
    unfold checkElement
    rw [checkDecl_congr hfind, hg]
  case group =>
    intro decl members hmembers path
    have hsame : schema'.checkMembers path members = schema.checkMembers path members := by
      induction members with
      | nil => rfl
      | cons p rest ih =>
          exact hmembers p List.mem_cons_self path rest
            (ih fun q hq => hmembers q (List.mem_cons_of_mem _ hq))
    unfold checkGroup
    rw [hsame]
  case element =>
    intro e he path rest hrest
    unfold checkMembers
    rw [he, hrest]
  case nested =>
    intro g hg path rest hrest
    unfold checkMembers
    rw [hg, hrest]

theorem checkElements_congr (seen : List String) (elements : List Element) :
    schema'.checkElements seen elements = schema.checkElements seen elements := by
  induction elements generalizing seen with
  | nil => rfl
  | cons e rest ih =>
      unfold checkElements
      rw [(checks_congr hfind).1, ih]

theorem checkDefinition_congr (t : TypeDefinition) : schema'.checkDefinition t = schema.checkDefinition t := by
  unfold checkDefinition
  simp only [checkAttributes_congr hfind, (checks_congr hfind).2]

/-! ## The catalog -/

theorem elementEntries_congr (path : String) (e : Element) (type : ResolvedType) :
    schema'.elementEntries path e type = schema.elementEntries path e type := by
  have hattribute : schema'.attributeEntry path = schema.attributeEntry path := by
    funext a
    unfold attributeEntry
    rw [resolveAttribute_congr hfind]
  unfold elementEntries
  rw [hattribute]

/-- Elements and groups have the same entries, whatever is listed for named types. -/
theorem entries_congr (enter : String → List String → String → Group → Except SchemaError (List CatalogEntry))
    (active : List String) :
    (∀ e parent, entriesOfElement schema' enter active parent e = entriesOfElement schema enter active parent e) ∧
      ∀ g path, entriesOfGroup schema' enter active path g = entriesOfGroup schema enter active path g := by
  have hall := tree_induction
    (E := fun e => ∀ parent,
      entriesOfElement schema' enter active parent e = entriesOfElement schema enter active parent e)
    (G := fun g => ∀ path,
      entriesOfGroup schema' enter active path g = entriesOfGroup schema enter active path g)
    (P := fun p => ∀ path rest,
      entriesOfMembers schema' enter active path rest = entriesOfMembers schema enter active path rest →
        entriesOfMembers schema' enter active path (p :: rest) =
          entriesOfMembers schema enter active path (p :: rest))
    ?named ?content ?group ?element ?nested
  · exact ⟨hall.1, hall.2.1⟩
  case named =>
    intro decl parent
    unfold entriesOfElement
    simp only [resolveType_congr hfind, elementEntries_congr hfind]
  case content =>
    intro decl g hg parent
    unfold entriesOfElement
    simp only [resolveType_congr hfind, elementEntries_congr hfind, hg]
  case group =>
    intro decl members hmembers path
    unfold entriesOfGroup
    induction members with
    | nil => rfl
    | cons p rest ih =>
        exact hmembers p List.mem_cons_self path rest
          (ih fun q hq => hmembers q (List.mem_cons_of_mem _ hq))
  case element =>
    intro e he path rest hrest
    unfold entriesOfMembers
    rw [he, hrest]
  case nested =>
    intro g hg path rest hrest
    unfold entriesOfMembers
    rw [hg, hrest]

theorem entriesOfType_congr (budget : Nat) : schema'.entriesOfType budget = schema.entriesOfType budget := by
  induction budget with
  | zero => rfl
  | succ budget ih =>
      funext identity active path g
      unfold entriesOfType
      rw [ih, (entries_congr hfind _ _).2]

end Alike

/-! ## Another order -/

variable {schema : Schema} {types : List TypeDefinition}

theorem validate_eq_ok : schema.validate = .ok () ↔ checkTypes [] schema.types = .ok () ∧
    schema.checkElements [] schema.elements = .ok () ∧
      ∀ t ∈ schema.types, schema.checkDefinition t = .ok () := by
  constructor
  · intro h
    obtain ⟨⟨⟩, htypes, h⟩ := Except.bind_eq_ok.1 h
    obtain ⟨⟨⟩, helements, h⟩ := Except.bind_eq_ok.1 h
    exact ⟨htypes, helements, List.forM_eq_ok.1 h⟩
  · rintro ⟨htypes, helements, hdefinitions⟩
    exact Except.bind_eq_ok.2 ⟨(), htypes,
      Except.bind_eq_ok.2 ⟨(), helements, List.forM_eq_ok.2 hdefinitions⟩⟩

theorem nodup_of_valid (hvalid : schema.validate = .ok ()) : (schema.types.map (·.name)).Nodup :=
  (checkTypes_eq_ok.1 (validate_eq_ok.1 hvalid).1).2

theorem checkTypes_perm {types' : List TypeDefinition} (hperm : types'.Perm types) :
    checkTypes [] types' = .ok () ↔ checkTypes [] types = .ok () := by
  rw [checkTypes_eq_ok, checkTypes_eq_ok, (hperm.map _).nodup_iff]
  simp only [hperm.mem_iff]

/-- A schema is valid in one order of its types if it is valid in another. -/
theorem validate_withTypes (hperm : types.Perm schema.types) :
    (schema.withTypes types).validate = .ok () ↔ schema.validate = .ok () := by
  have hnames : checkTypes [] (schema.withTypes types).types = .ok () ↔ _ := checkTypes_perm hperm
  rw [validate_eq_ok, validate_eq_ok, hnames]
  apply and_congr_right
  intro htypes
  have hfind := findsAlike_of_perm hperm (checkTypes_eq_ok.1 htypes).2
  have helements : (schema.withTypes types).checkElements [] schema.elements =
      schema.checkElements [] schema.elements := checkElements_congr hfind [] schema.elements
  have hdefinitions : (∀ t ∈ types, (schema.withTypes types).checkDefinition t = .ok ()) ↔
      ∀ t ∈ schema.types, schema.checkDefinition t = .ok () := by
    simp only [checkDefinition_congr hfind, hperm.mem_iff]
  exact and_congr (by rw [← helements]; rfl) hdefinitions

/-- The catalog lists the same entries in the same order, however the types are ordered. -/
theorem catalog_withTypes (hvalid : schema.validate = .ok ()) (hperm : types.Perm schema.types) :
    (schema.withTypes types).catalog = schema.catalog := by
  have hfind := findsAlike_of_perm hperm (nodup_of_valid hvalid)
  have hbudget : (schema.withTypes types).types.length = schema.types.length := hperm.length_eq
  have hentries : ∀ enter, entriesOfElement (schema.withTypes types) enter [] "" =
      entriesOfElement schema enter [] "" := fun enter => funext fun e => (entries_congr hfind enter []).1 e ""
  unfold catalog
  rw [hbudget, entriesOfType_congr hfind, hentries]
  rfl

end Schema
end Specimen
