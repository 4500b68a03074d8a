import Specimen.Proofs.Schema.Listing
import Specimen.Proofs.Walk.Depth

/-!
# Rules where they are looked for

Whatever can stand at some path can stand at a path on the way to which no named type is entered twice: where a
type would be entered again, the way can go on from where it was entered first.  The catalog lists all that is
reached so, hence every name that can occur is the name of an entry.

The walk looks for the rules of the elements that it comes to and of their attributes, and those of what is in the
catalog when it settles the fields of relationships.  Two lists of rules in which it finds the same there lead to
the same document.
-/

namespace Specimen

/-! ## Ways without repetition -/

namespace Schema

variable {schema : Schema} {root e : Element} {path : String} {stack : List String}

/-- A type that is open was entered at an element, while the types below it were open. -/
theorem Reaches.entered (h : schema.Reaches root path stack e) {identity : String} (hopen : identity ∈ stack) :
    ∃ outerPath outer owner type g, schema.Reaches root outerPath outer owner ∧
      schema.resolveType owner = .ok type ∧ type.content = .complex g ∧ type.identity = some identity ∧
        identity :: outer <:+ stack := by
  induction h with
  | root => cases hopen
  | @child path stack e type g c he htype hcontent hc ih =>
      cases hidentity : type.identity with
      | none =>
          rw [hidentity] at hopen
          exact ih hopen
      | some inner =>
          rw [hidentity] at hopen
          rcases List.mem_cons.1 hopen with rfl | hopen
          · exact ⟨path, stack, e, type, g, he, htype, hcontent, hidentity, List.suffix_refl _⟩
          · obtain ⟨outerPath, outer, owner, type', g', howner, htype', hcontent', hidentity', hsuffix⟩ := ih hopen
            exact ⟨outerPath, outer, owner, type', g', howner, htype', hcontent', hidentity',
              hsuffix.trans (List.suffix_cons _ _)⟩

/-- The members of a named type are the same wherever it is entered. -/
theorem content_unique {e e' : Element} {type type' : ResolvedType} {g g' : Group} {identity : String}
    (htype : schema.resolveType e = .ok type) (htype' : schema.resolveType e' = .ok type')
    (hidentity : type.identity = some identity) (hidentity' : type'.identity = some identity)
    (hcontent : type.content = .complex g) (hcontent' : type'.content = .complex g') : g = g' := by
  obtain ⟨-, -, -, t, ht, -, hmembers⟩ := named_of_resolveType htype hidentity
  obtain ⟨-, -, -, t', ht', -, hmembers'⟩ := named_of_resolveType htype' hidentity'
  obtain rfl := Option.some.inj (ht.symm.trans ht')
  exact Option.some.inj ((hmembers g hcontent).symm.trans (hmembers' g' hcontent'))

/-- What can stand somewhere can stand where no named type is entered twice on the way. -/
theorem Reaches.exists_nodup (h : schema.Reaches root path stack e) :
    ∃ path stack, schema.Reaches root path stack e ∧ stack.Nodup := by
  induction h with
  | root => exact ⟨_, [], .root, List.nodup_nil⟩
  | @child _ _ e type g c _ htype hcontent hc ih =>
      obtain ⟨path, stack, he, hnodup⟩ := ih
      by_cases hfresh : (type.identity.toList ++ stack).Nodup
      · exact ⟨_, _, he.child htype hcontent hc, hfresh⟩
      · -- the type is open on the way, which goes on from where it was entered first
        cases hidentity : type.identity with
        | none =>
            rw [hidentity] at hfresh
            exact absurd hnodup hfresh
        | some identity =>
            have hopen : identity ∈ stack := by
              by_contra hclosed
              rw [hidentity] at hfresh
              exact hfresh (List.nodup_cons.2 ⟨hclosed, hnodup⟩)
            obtain ⟨outerPath, outer, owner, type', g', howner, htype', hcontent', hidentity', hsuffix⟩ :=
              he.entered hopen
            obtain rfl := content_unique htype htype' hidentity hidentity' hcontent hcontent'
            refine ⟨_, _, howner.child htype' hcontent' hc, ?_⟩
            rw [hidentity']
            exact hsuffix.sublist.nodup hnodup

/-! ## What has a name -/

/-- What has a name and a path: an element, or an attribute of it, that is reached while certain types are
open. -/
inductive Named (schema : Schema) (root : Element) : (name path : String) → (stack : List String) → Prop where
  | element {path : String} {stack : List String} {e : Element} (he : schema.Reaches root path stack e) :
      Named schema root e.name path stack
  | attr {path : String} {stack : List String} {e : Element} {type : ResolvedType} {a : AttributeDecl}
      (he : schema.Reaches root path stack e) (htype : schema.resolveType e = .ok type)
      (ha : a ∈ type.attributes) : Named schema root ("@" ++ a.name) (path ++ "/@" ++ a.name) stack

section Named

variable {name : String} {entries : List CatalogEntry} (hvalid : schema.validate = .ok ())
  (hroot : root ∈ schema.elements) (hentries : schema.ListsAll [] "" schema.elements entries)

include hvalid hroot hentries

/-- What is reached without entering a type twice is in the catalog. -/
theorem Named.exists_entry (h : schema.Named root name path stack) (hnodup : stack.Nodup) :
    ∃ entry ∈ entries, entry.name = name ∧ entry.path = path := by
  cases h with
  | element he =>
      obtain ⟨type, htype, -⟩ := resolveType_passes hvalid (he.passes hvalid (elements_pass hvalid root hroot))
      obtain ⟨entry, hentry, -, hpath, hname, -⟩ := (he.covers hroot hentries hnodup htype).element
      exact ⟨entry, hentry, hname, hpath⟩
  | attr he htype ha =>
      obtain ⟨-, -, entry, hentry, -, hpath, hname, -⟩ := (he.covers hroot hentries hnodup htype).attributes _ ha
      exact ⟨entry, hentry, hname, hpath⟩

/-- Every name that can occur is in the catalog, perhaps at another path. -/
theorem Named.exists_entry_of_name (h : schema.Named root name path stack) :
    ∃ entry ∈ entries, entry.name = name := by
  have hfound : ∃ path stack, schema.Named root name path stack ∧ stack.Nodup := by
    cases h with
    | element he =>
        obtain ⟨path, stack, he, hnodup⟩ := he.exists_nodup
        exact ⟨path, stack, .element he, hnodup⟩
    | attr he htype ha =>
        obtain ⟨path, stack, he, hnodup⟩ := he.exists_nodup
        exact ⟨_, stack, .attr he htype ha, hnodup⟩
  obtain ⟨path, stack, hnamed, hnodup⟩ := hfound
  obtain ⟨entry, hentry, hname, -⟩ := hnamed.exists_entry hvalid hroot hentries hnodup
  exact ⟨entry, hentry, hname⟩

end Named
end Schema

/-! ## Two lists of rules -/

open Run

/-- A setup with other rules and other warnings. -/
abbrev Setup.ruledBy (setup : Setup) (rules : List ElementRule) (warnings : List Issue) : Variation :=
  { setup.variation with rules, warnings }

namespace Walk

variable {setup : Setup} {root : Element}

/-- For what the walk can look for rules, and the types that are then open: the elements that it can come to, and
attributes of them. -/
inductive LooksFor (setup : Setup) (root : Element) : (name path : String) → (stack : List String) → Prop where
  | element {path : String} {stack : List String} {e : Element} (he : Visits setup root path stack e) :
      LooksFor setup root e.name path stack
  | attr {path : String} {stack : List String} {e : Element} {type : ResolvedType} {a : AttributeDecl}
      (he : Visits setup root path stack e) (htype : setup.schema.resolveType e = .ok type)
      (ha : a ∈ type.attributes) : LooksFor setup root ("@" ++ a.name) (path ++ "/@" ++ a.name) stack

theorem LooksFor.named {name path : String} {stack : List String} (h : LooksFor setup root name path stack) :
    setup.schema.Named root name path stack := by
  cases h with
  | element he => exact .element he.reaches
  | attr he htype ha => exact .attr he.reaches htype ha

/-- Wherever the walk can look for a rule, a varied setup has the same one. -/
structure SameRules (setup : Setup) (root : Element) (v : Variation) : Prop where
  catalog : setup.RulesCatalog v
  found : ∀ name path stack, LooksFor setup root name path stack → setup.Rules v name path

section Rules

variable {rules : List ElementRule} {warnings : List Issue}
  (hsame : SameRules setup root (setup.ruledBy rules warnings))

include hsame

theorem buildOccurrence_ruledBy {path : String} {stack : List String} {e : Element} {type : ResolvedType}
    (he : Visits setup root path stack e) (htype : setup.schema.resolveType e = .ok type) :
    buildOccurrence (setup.vary (setup.ruledBy rules warnings)) e type path =
      buildOccurrence setup e type path := by
  have hattributes : ∀ scope,
      buildAttributes (setup.vary (setup.ruledBy rules warnings)) path scope type.attributes =
        buildAttributes setup path scope type.attributes := fun scope =>
    buildAttributes_vary setup _ hsame.catalog (fun _ => rfl) path scope fun a ha =>
      hsame.found _ _ _ (.attr he htype ha)
  have htext : ∀ facets scope, leafText (setup.vary (setup.ruledBy rules warnings)) e path facets scope =
      leafText setup e path facets scope :=
    leafText_vary setup _ hsame.catalog (hsame.found _ _ _ (.element he))
  funext rule uri parentScope inside
  unfold buildOccurrence buildContent
  simp only [hattributes, htext]
  rfl

theorem beside_ruledBy : Beside setup root (setup.ruledBy rules warnings)
    (buildOccurrence (setup.vary (setup.ruledBy rules warnings))) := by
  constructor
  · exact fun _ => rfl
  · intro path stack e type s _ _ _
    rfl
  · intro path stack e he
    exact hsame.found _ _ _ (.element he)
  · rfl
  · intro path stack e type s he htype _ rule uri scope inside
    rw [buildOccurrence_ruledBy hsame he htype]

/-- With the same rules wherever they are looked for, the document is the same. -/
theorem buildDocument_ruledBy {s : RunState} (hopen : s.openTypes = []) :
    (buildDocument (setup.vary (setup.ruledBy rules warnings)) root).exec s =
      (buildDocument setup root).exec s := by
  have hbeside := beside_ruledBy hsame
  have henter := enterWithin_alike refusesIn_true hbeside
    (setup.schema.types.length * setup.plan.settings.maxDepth.toNat + 1) []
  obtain ⟨hdocument, -⟩ := buildDocument_alike refusesIn_true hbeside henter s
    (RunState.guarded_of_openTypes hopen)
  rw [buildDocumentWith_eq, buildDocumentWith_eq, enterWithinWith_eq, enterWithinWith_eq] at hdocument
  exact hdocument

end Rules
end Walk

end Specimen
