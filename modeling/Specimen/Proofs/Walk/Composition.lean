import Specimen.Proofs.Leaf.Composition
import Specimen.Proofs.Walk.Leaves

/-!
# How the walk is composed

The walk is composed of leaves, of choices, and of what it counts of elements that it builds.  A property of composed
actions is therefore one of the whole walk if it is one of its steps, of being inside a named type, and of the leaves
that the schema declares: `Walk.Carries`.
-/

namespace Specimen

open Run

variable {K : (α : Type) → Run α → Prop} {setup : Setup} {root : Element}

/-! ## Choices -/

namespace Run.Composable

theorem isHalted (h : Composable K) : K Bool Walk.isHalted := h.look (fun _ _ => rfl) fun _ => h.pure _

theorem becomesNil (h : Composable K) (e : Element) (path : String) (rule : Option ElementRule) :
    K Bool (Walk.becomesNil e path rule) := by
  unfold Walk.becomesNil
  split
  · exact h.pure _
  · split
    · exact h.pure _
    · exact h.bind (h.warn rfl) fun _ => h.pure _

theorem chooseFreely (h : Composable K) (path : String) (branches : List Walk.Branch) :
    K (Option Nat) (Walk.chooseFreely setup path branches) := by
  unfold Walk.chooseFreely
  split
  · exact h.pure _
  · exact h.bind (h.draw _) fun _ => h.bind (h.follow rfl) fun _ => h.pure _

theorem chooseBranch (h : Composable K) (path : String) (rule : Option ElementRule)
    (members : List Particle) : K (Option Nat) (Walk.chooseBranch setup path rule members) := by
  have hpassed : ∀ types : List String, K Unit (Run.followAll (types.map (.passedOver path))) := by
    refine fun types => h.followAll fun e he => ?_
    obtain ⟨type, -, rfl⟩ := List.mem_map.1 he
    rfl
  refine h.look (fun _ _ => rfl) fun s => h.bind (hpassed _) fun _ => ?_
  dsimp only
  split
  · exact h.pure _
  · split
    · exact h.chooseFreely path _
    · split
      · exact h.bind (h.follow rfl) fun _ => h.pure _
      · exact h.bind (h.warn rfl) fun _ => h.chooseFreely path _

end Run.Composable

/-! ## Properties of the whole walk -/

/-- A property of composed actions that is one of whatever the walk does below a root: it counts in the report, takes
steps until there are none left, stops, leaves named types again, and finds the values of leaves. -/
structure Walk.Carries (setup : Setup) (root : Element) (K : (α : Type) → Run α → Prop) : Prop
    extends Composable K where
  record : ∀ {change : Report → Report}, Report.SparesWarnings change → K Unit (record change)
  tick : K Unit (tick setup.options)
  tryCatch : ∀ {α : Type} {m : Run α} {handle : RunError → Run α}, K α m → (∀ e, K α (handle e)) →
    K α (tryCatch m handle)
  halt : K Unit (modify RunState.halt)
  andFinally : ∀ {α : Type} {m : Run α}, K α m → K α (andFinally m RunState.popType)
  leaf : ∀ {q : LeafRequest}, setup.schema.HasLeaf root q.name q.path q.facets q.fixed →
    K String (Leaf.resolve setup q)

/-- Elements may stand below a path. -/
abbrev Walk.PlacesAmong (setup : Setup) (root : Element) (path : String) (declared : List Element) : Prop :=
  ∀ c ∈ declared, setup.schema.Places root (joinPath path c.name) c

namespace Walk.Carries

/-- The whole walk maintains a condition on states that composed actions and the leaves maintain, if it does not
depend on what is counted, nor on whether the walk was stopped and which named types are open. -/
theorem ofMaintains {I : RunState → Prop} (h : Composable fun _ m => Maintains I m)
    (hrecord : ∀ {change : Report → Report}, Report.SparesWarnings change → Maintains I (Run.record change))
    (hhalt : ∀ s, I s → I s.halt) (hpop : ∀ s, I s → I s.popType)
    (hleaf : ∀ {q : LeafRequest}, setup.schema.HasLeaf root q.name q.path q.facets q.fixed →
      Maintains I (Leaf.resolve setup q)) : Carries setup root fun _ m => Maintains I m where
  toComposable := h
  record := hrecord
  tick := by
    refine .bind (hrecord fun _ _ _ => rfl) fun _ => .get_bind fun s => ?_
    dsimp only
    split
    · exact .throw _
    · exact .pure _
  tryCatch := .tryCatch
  halt := hhalt
  andFinally {_ m} hm s hs := hpop (m.exec s).2 (hm s hs)
  leaf := hleaf

variable (h : Carries setup root K)

include h

/-! ## Occurrences -/

theorem step (path : String) : K Bool (Walk.step setup path) := by
  have hstop : ∀ n : Notice, K Bool (do Run.record (.truncate n); modify RunState.halt; return false) :=
    fun n => h.bind (h.record fun _ _ _ => rfl) fun _ => h.bind h.halt fun _ => h.pure _
  refine h.tryCatch (h.bind h.tick fun _ => h.pure _) fun e => ?_
  dsimp only
  split
  · exact h.bind (h.throw _) fun _ => hstop _
  · exact hstop _

theorem buildAttributes {owner : String} {attributes : List AttributeDecl}
    (hdeclared : ∀ a ∈ attributes, ∀ facets, setup.schema.resolveAttribute a = .ok facets →
      setup.schema.HasLeaf root ("@" ++ a.name) (owner ++ "/@" ++ a.name) facets a.fixed)
    (scope : Nat) : K (List Attribute) (Walk.buildAttributes setup owner scope attributes) := by
  induction attributes with
  | nil => exact h.pure _
  | cons a rest ih =>
      have hrest := ih fun b hb => hdeclared b (List.mem_cons_of_mem a hb)
      unfold Walk.buildAttributes
      dsimp only
      split
      · exact h.bind (h.record fun _ _ _ => rfl) fun _ => hrest
      · have hvalue : K String (attributeValue setup a (owner ++ "/@" ++ a.name) scope) :=
          h.ofSchema_bind fun facets hfacets => h.leaf (hdeclared a List.mem_cons_self facets hfacets)
        exact h.bind hvalue fun _ => h.bind (h.record fun _ _ _ => rfl) fun _ => h.bind hrest fun _ => h.pure _

theorem within {α : Type} (type : Option String) {inside : Run α} (hinside : K α inside) :
    K α (Walk.within type inside) := by
  cases type with
  | none => exact hinside
  | some identity =>
      exact h.bind (h.modify (fun _ _ => rfl) (fun _ => .of_eq rfl rfl) fun _ => ⟨rfl, rfl⟩) fun _ =>
        h.andFinally hinside

section Occurrence

variable {e : Element} {type : ResolvedType} {path : String} (he : setup.schema.Places root path e)
  (htype : setup.schema.resolveType e = .ok type)

include he htype

theorem buildContent (head : NodeHead) (parentScope : Nat) {inside : Run (List NodeChild)}
    (hinside : ∀ g, type.content = .complex g → K _ inside) :
    K Node (Walk.buildContent setup e type path head parentScope inside) := by
  have htext : ∀ f, type.content.facets? = some f → K String (leafText setup e path f parentScope) :=
    fun f hfacets => h.leaf (.text he htype hfacets)
  unfold Walk.buildContent
  split
  · rename_i hcontent
    exact h.bind (htext _ (by rw [hcontent]; rfl)) fun _ => h.pure _
  · rename_i hcontent
    exact h.bind (htext _ (by rw [hcontent]; rfl)) fun _ => h.pure _
  · rename_i g hcontent
    exact h.bind (h.within _ (hinside g hcontent)) fun _ => h.pure _
  · exact h.pure _

theorem buildOccurrence (rule : Option ElementRule) (uri : Option String) (parentScope : Nat) {inside : Inside}
    (hinside : ∀ g, type.content = .complex g → ∀ scope, K _ (inside scope)) :
    K (Option Node) (Walk.buildOccurrence setup e type path rule uri parentScope inside) := by
  unfold Walk.buildOccurrence
  refine h.bind (h.step path) fun goesOn => ?_
  split
  · exact h.pure _
  · refine h.bind h.openScope fun scope => ?_
    refine h.bind (h.record fun _ _ _ => rfl) fun _ => ?_
    refine h.bind (h.buildAttributes (fun a ha facets hfacets => .attr he htype ha hfacets) scope) fun attributes => ?_
    refine h.bind (h.becomesNil e path rule) fun nil => ?_
    split
    · exact h.pure _
    · refine h.bind (h.buildContent he htype _ parentScope fun g hg => hinside g hg scope) fun node => ?_
      exact h.bind h.isHalted fun _ => h.pure _

end Occurrence

/-! ## Elements -/

theorem buildEach (e : Element) (count : Nat) {occurrence : Run (Option Node)} (hbuild : K _ occurrence) (left : Nat) :
    K (List NodeChild) (Walk.buildEach setup e count occurrence left) := by
  induction left with
  | zero => exact h.pure _
  | succ left ih =>
      unfold Walk.buildEach
      refine h.bind hbuild fun built => h.bind h.isHalted fun halted => ?_
      split
      · exact h.pure _
      · exact h.bind ih fun _ => h.pure _

theorem cutOff (e : Element) (path identity : String) : K (List NodeChild) (Walk.cutOff setup e path identity) :=
  h.look (fun _ _ => rfl) fun _ => h.bind (h.follow rfl) fun _ =>
    h.bind (h.record fun _ _ _ => rfl) fun _ => h.pure _

theorem buildElement {e : Element} {parentPath : String}
    (he : setup.schema.Places root (joinPath parentPath e.name) e) (scope : Nat) (force : Bool)
    {inside : ResolvedType → String → Option ElementRule → Inside}
    (hinside : ∀ type g, setup.schema.resolveType e = .ok type → type.content = .complex g →
      ∀ rule scope, K _ (inside type (joinPath parentPath e.name) rule scope)) :
    K (List NodeChild) (Walk.buildElement setup e parentPath scope force inside) := by
  refine h.ofSchema_bind fun type htype => h.look (fun _ _ => rfl) fun s => ?_
  split
  · exact h.cutOff e _ _
  · dsimp only
    split
    · split
      · exact h.bind (h.record fun _ _ _ => rfl) fun _ => h.pure _
      · exact h.pure _
    · exact h.buildEach e _ (h.buildOccurrence he htype _ _ scope fun g hg => hinside type g htype hg _) _

/-! ## Groups -/

theorem repeatStep {body : Run (List NodeChild)} (hbody : K _ body) (count : Nat) :
    K (List NodeChild) (Walk.repeatStep body count) := by
  induction count with
  | zero => exact h.pure _
  | succ count ih =>
      unfold Walk.repeatStep
      refine h.bind hbody fun own => h.bind h.isHalted fun halted => ?_
      split
      · exact h.pure _
      · exact h.bind ih fun _ => h.pure _

section Members

variable {enter : Enter} {path : String} {scope : Nat} {rule : Option ElementRule} {members : List Particle}

theorem walkAll (hmembers : ∀ p ∈ members, ∀ force, K _ (walkParticle setup enter path scope rule force p)) :
    K (List NodeChild) (Walk.walkAll setup enter path scope rule members) := by
  induction members with
  | nil => exact h.pure _
  | cons p rest ih =>
      have hrest := ih fun q hq => hmembers q (List.mem_cons_of_mem _ hq)
      unfold Walk.walkAll
      refine h.bind (hmembers p List.mem_cons_self false) fun own => h.bind h.isHalted fun halted => ?_
      split
      · exact h.pure _
      · exact h.bind hrest fun _ => h.pure _

theorem walkNth (hmembers : ∀ p ∈ members, ∀ force, K _ (walkParticle setup enter path scope rule force p))
    (position : Nat) : K (List NodeChild) (Walk.walkNth setup enter path scope rule position members) := by
  rw [walkNth_eq]
  cases hp : members[position]? with
  | none => exact h.pure _
  | some p => exact hmembers p (List.mem_of_getElem? hp) true

variable (henter : ∀ path scope rule g, PlacesAmong setup root path g.declared → K _ (enter path scope rule g))

include henter

theorem insideNamed {type : ResolvedType} {path : String}
    (hdeclared : ∀ g, type.content = .complex g → PlacesAmong setup root path g.declared)
    (rule : Option ElementRule) (scope : Nat) :
    K (List NodeChild) (Walk.insideNamed enter type path rule scope) := by
  unfold Walk.insideNamed
  split
  · rename_i g hcontent
    exact henter path scope rule g (hdeclared g hcontent)
  · exact h.pure _

/-- Elements, groups and members have the property when named types are entered in such a way. -/
theorem walked :
    (∀ e path scope force, setup.schema.Places root (joinPath path e.name) e →
      K (List NodeChild) (walkElement setup enter path scope force e)) ∧
    (∀ g path scope rule force, PlacesAmong setup root path g.declared →
      K (List NodeChild) (walkGroup setup enter path scope rule force g)) ∧
    ∀ p path scope rule force, PlacesAmong setup root path p.declared →
      K (List NodeChild) (walkParticle setup enter path scope rule force p) := by
  apply tree_induction
  · intro decl path scope force he
    unfold walkElement
    refine h.buildElement he scope force fun type g htype hcontent => ?_
    refine h.insideNamed henter fun g' hg' c hc => ?_
    exact .child he htype hg' hc
  · intro decl g ih path scope force he
    unfold walkElement
    refine h.buildElement he scope force fun type g' htype hcontent rule scope => ?_
    obtain ⟨rfl, -⟩ := Schema.content_of_resolveType htype hcontent
    exact ih _ scope rule false fun c hc => .child he htype hcontent hc
  · intro decl members ih path scope rule force hplaces
    have hall : ∀ p ∈ members, ∀ force, K _ (walkParticle setup enter path scope rule force p) :=
      fun p hp force => ih p hp path scope rule force fun c hc => hplaces c (mem_declaredAmong hp hc)
    unfold walkGroup
    refine h.repeatStep ?_ _
    split
    · refine h.bind (h.chooseBranch path rule members) fun chosen => ?_
      cases chosen with
      | some position => exact h.walkNth hall position
      | none => exact h.pure _
    · exact h.walkAll hall
  · intro e ih path scope rule force hplaces
    exact ih path scope force (hplaces e (List.mem_singleton_self e))
  · intro g ih path scope rule force hplaces
    exact ih path scope rule force hplaces

end Members

/-! ## Documents -/

theorem enterWithin (budget : Nat) (path : String) (scope : Nat) (rule : Option ElementRule) (g : Group)
    (hplaces : PlacesAmong setup root path g.declared) :
    K (List NodeChild) (Walk.enterWithin setup budget path scope rule g) := by
  induction budget generalizing path scope rule g with
  | zero => exact h.pure _
  | succ budget ih => exact (h.walked ih).2.1 g path scope rule false hplaces

theorem insideOf {e : Element} {path : String} (he : setup.schema.Places root path e) {type : ResolvedType}
    (htype : setup.schema.resolveType e = .ok type) {g : Group} (hcontent : type.content = .complex g)
    (rule : Option ElementRule) (scope : Nat) :
    K (List NodeChild) (Walk.insideOf setup e type path rule scope) := by
  have henter : ∀ path scope rule g, PlacesAmong setup root path g.declared → K _ (enter setup path scope rule g) :=
    h.enterWithin _
  have hplaces : ∀ g', type.content = .complex g' → PlacesAmong setup root path g'.declared :=
    fun g' hg' c hc => .child he htype hg' hc
  cases e with
  | mk decl content =>
      cases content with
      | none => exact h.insideNamed henter hplaces rule scope
      | some own =>
          obtain ⟨rfl, -⟩ := Schema.content_of_resolveType htype hcontent
          exact (h.walked henter).2.1 _ path scope rule false (hplaces _ hcontent)

theorem buildIn {e : Element} {parentPath : String} (he : setup.schema.Places root (joinPath parentPath e.name) e)
    (uri : Option String) (scope : Nat) : K (Option Node) (Walk.buildIn setup e parentPath uri scope) := by
  refine h.ofSchema_bind fun type htype => h.look (fun _ _ => rfl) fun s => ?_
  split
  · exact h.bind (h.follow rfl) fun _ => h.pure _
  · exact h.buildOccurrence he htype _ _ scope fun g hg => h.insideOf he htype hg _

/-- Building a document has the property. -/
theorem buildDocument : K Node (Walk.buildDocument setup root) := by
  refine h.bind h.openScope fun scope => ?_
  refine h.bind (h.buildIn .root _ scope) fun built => ?_
  cases built with
  | some node => exact h.pure _
  | none => exact h.pure _

end Walk.Carries
end Specimen
