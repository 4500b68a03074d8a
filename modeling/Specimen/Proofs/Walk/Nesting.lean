import Specimen.Proofs.Walk.Depth
import Specimen.Proofs.Walk.Gathering

/-!
# Where elements come from

Every element of a document was built for an element declaration: the root for the declaration of the root,
and a child for a declaration in the content of its parent's type.  An `Origin` is the tree of these
declarations.  It tells elements that were built from the empty elements that stand for declarations whose
type could not be entered again, and these stand only where the guard refuses the type.  Along a chain of
nested elements, no type is referred to more often than the greatest depth allows.
-/

namespace Specimen

open Run

/-- Whether the declaration of an element refers to a named type. -/
def Element.refersTo (schema : Schema) (type : String) (e : Element) : Bool :=
  match schema.resolveType e with
  | .ok resolved => resolved.identity == some type
  | .error _ => false

/-! ## Origins -/

/-- The declarations that an element of a document and the elements below it were built for.  A stub is an
empty element that stands for one whose type could not be entered again. -/
inductive Origin where
  | stub (e : Element)
  | element (e : Element) (children : List Origin)

namespace Origin

/-- The declaration of an element. -/
def decl : Origin → Element
  | .stub e => e
  | .element e _ => e

/-- The declarations of the elements on a chain of nested elements, from the outermost on, without stubs. -/
inductive Chain : Origin → List Element → Prop where
  | stub {e : Element} : Chain (.stub e) []
  | last {e : Element} {children : List Origin} : Chain (.element e children) [e]
  | inner {e : Element} {children : List Origin} {child : Origin} {chain : List Element}
      (hchild : child ∈ children) (hchain : Chain child chain) :
      Chain (.element e children) (e :: chain)

end Origin

namespace Walk

mutual

/-- An element of a document comes from declarations, when certain types are open. -/
inductive OriginOf (setup : Setup) : (stack : List String) → Origin → Node → Prop where
  | stub {stack : List String} {e : Element} {type : ResolvedType} {uri : Option String}
      {s : RunState} (htype : setup.schema.resolveType e = .ok type) (hopen : s.openTypes = stack)
      (hrefused : (refused? setup s type).isSome) :
      OriginOf setup stack (.stub e) (.mk { name := e.name, uri, truncated := true } [])
  | element {stack : List String} {e : Element} {type : ResolvedType} {children : List Origin}
      {n : Node} (htype : setup.schema.resolveType e = .ok type) (hname : n.name = e.name)
      (hchildren : OriginsOf setup (type.identity.toList ++ stack) type.content children
        (elementsAmong n.children)) :
      OriginOf setup stack (.element e children) n

/-- The children of an element come from declarations in the content of its type. -/
inductive OriginsOf (setup : Setup) :
    (stack : List String) → TypeContent → List Origin → List Node → Prop where
  | nil {stack : List String} {content : TypeContent} : OriginsOf setup stack content [] []
  | cons {stack : List String} {g : Group} {first : Origin} {n : Node} {origins : List Origin}
      {nodes : List Node} (hdeclared : first.decl ∈ g.declared)
      (hfirst : OriginOf setup stack first n)
      (hrest : OriginsOf setup stack (.complex g) origins nodes) :
      OriginsOf setup stack (.complex g) (first :: origins) (n :: nodes)

end

variable {setup : Setup} {stack : List String}

/-- Together with the types that are open around an element, no chain in it refers to a type more often
than the greatest depth allows. -/
def Shallow (setup : Setup) (stack : List String) (o : Origin) : Prop :=
  ∀ chain, o.Chain chain → ∀ type,
    chain.countP (·.refersTo setup.schema type) + stack.count type ≤
      setup.plan.settings.maxDepth.toNat

/-- An element of a document comes from a declaration, and no chain in it is too deep. -/
def Traced (setup : Setup) (stack : List String) (e : Element) (n : Node) : Prop :=
  ∃ o, o.decl = e ∧ OriginOf setup stack o n ∧ Shallow setup stack o

theorem count_opened {e : Element} {type : ResolvedType}
    (htype : setup.schema.resolveType e = .ok type) (stack : List String) (id : String) :
    (type.identity.toList ++ stack).count id =
      [e].countP (·.refersTo setup.schema id) + stack.count id := by
  rw [List.count_append, List.countP_singleton]
  unfold Element.refersTo
  rw [htype]
  cases hidentity : type.identity with
  | none => simp [hidentity]
  | some identity =>
      by_cases heq : identity = id
      · simp [hidentity, heq, Nat.add_comm]
      · simp [hidentity, heq]

theorem stub_traced (hwithin : StackWithin setup stack) {e : Element} {type : ResolvedType}
    (htype : setup.schema.resolveType e = .ok type) {s : RunState} (hopen : s.openTypes = stack)
    (hrefused : (refused? setup s type).isSome) (uri : Option String) :
    Traced setup stack e (.mk { name := e.name, uri, truncated := true } []) := by
  refine ⟨.stub e, rfl, .stub htype hopen hrefused, ?_⟩
  intro chain hchain id
  cases hchain
  simpa using hwithin.depth id

/-- Children that each come from a declared element come from a row of origins. -/
theorem exists_origins {g : Group} {nodes : List Node}
    (h : ∀ n ∈ nodes, ∃ e ∈ g.declared, Traced setup stack e n) :
    ∃ origins, OriginsOf setup stack (.complex g) origins nodes ∧
      ∀ o ∈ origins, Shallow setup stack o := by
  induction nodes with
  | nil => exact ⟨[], .nil, List.forall_mem_nil _⟩
  | cons n rest ih =>
      obtain ⟨origins, horigins, hshallow⟩ := ih fun m hm => h m (List.mem_cons_of_mem _ hm)
      obtain ⟨e, he, o, rfl, ho, hdepth⟩ := h n List.mem_cons_self
      exact ⟨o :: origins, .cons he ho horigins, List.forall_mem_cons.2 ⟨hdepth, hshallow⟩⟩

theorem element_traced {e : Element} {type : ResolvedType}
    (htype : setup.schema.resolveType e = .ok type)
    (hwithin : StackWithin setup (type.identity.toList ++ stack)) {n : Node} (hname : n.name = e.name)
    {children : List Origin}
    (hchildren : OriginsOf setup (type.identity.toList ++ stack) type.content children
      (elementsAmong n.children))
    (hshallow : ∀ o ∈ children, Shallow setup (type.identity.toList ++ stack) o) :
    Traced setup stack e n := by
  refine ⟨.element e children, rfl, .element htype hname hchildren, ?_⟩
  intro chain hchain id
  cases hchain with
  | last =>
      rw [← count_opened htype]
      exact hwithin.depth id
  | @inner _ _ child chain hchild hchain =>
      have hdepth := hshallow child hchild chain hchain id
      rw [count_opened htype] at hdepth
      rw [← List.singleton_append, List.countP_append]
      omega

/-! ## What the walk builds -/

/-- What an action returns when it begins with certain types open. -/
def Builds {α : Type} (stack : List String) (m : Run α) (post : α → Prop) : Prop :=
  ∀ s a s', s.openTypes = stack → m.exec s = (.ok a, s') → post a

/-- Each of the elements among children comes from one of several declarations. -/
def TracedAmong (setup : Setup) (stack : List String) (declared : List Element)
    (cs : List NodeChild) : Prop :=
  ∀ n ∈ elementsAmong cs, ∃ e ∈ declared, Traced setup stack e n

theorem TracedAmong.nil {declared : List Element} : TracedAmong setup stack declared [] :=
  fun _ hn => (List.not_mem_nil hn).elim

theorem TracedAmong.append {declared : List Element} {cs ds : List NodeChild}
    (hcs : TracedAmong setup stack declared cs) (hds : TracedAmong setup stack declared ds) :
    TracedAmong setup stack declared (cs ++ ds) := by
  intro n hn
  rw [elementsAmong_append, List.mem_append] at hn
  rcases hn with hn | hn
  · exact hcs n hn
  · exact hds n hn

theorem Builds.nil {declared : List Element} :
    Builds stack (pure [] : Run (List NodeChild)) (TracedAmong setup stack declared) := by
  intro s cs s' _ hrun
  obtain ⟨rfl, rfl⟩ := exec_pure_eq_ok.1 hrun
  exact .nil

theorem traced_truncate {e : Element} {n : Node} {halted : Bool} (hname : n.name = e.name)
    {type : ResolvedType} (htype : setup.schema.resolveType e = .ok type)
    (hwithin : StackWithin setup (type.identity.toList ++ stack)) {children : List Origin}
    (hchildren : OriginsOf setup (type.identity.toList ++ stack) type.content children
      (elementsAmong n.children))
    (hshallow : ∀ o ∈ children, Shallow setup (type.identity.toList ++ stack) o) :
    Traced setup stack e (if halted = true then n.truncate else n) := by
  cases n with
  | mk head cs =>
      cases halted with
      | true => exact element_traced htype hwithin hname hchildren hshallow
      | false => exact element_traced htype hwithin hname hchildren hshallow

theorem within_builds {α : Type} {type : Option String} {inside : Run α} {post : α → Prop}
    (h : Builds (type.toList ++ stack) inside post) : Builds stack (within type inside) post := by
  intro s a s' hopen hrun
  obtain ⟨t, hinside, -⟩ := within_eq_ok hrun
  rw [hopen] at hinside
  exact h _ a t rfl hinside

/-- An occurrence of an element comes from its declaration if its children come from the declarations in
the content of its type. -/
theorem buildOccurrence_builds {e : Element} {type : ResolvedType}
    (hresolve : setup.schema.resolveType e = .ok type) (htype : setup.schema.TypePasses type)
    (hwithin : StackWithin setup (type.identity.toList ++ stack)) (path : String)
    (rule : Option ElementRule) (uri : Option String) (parentScope : Nat) {inside : Inside}
    (hinside : ∀ g, type.content = .complex g → ∀ scope, Builds (type.identity.toList ++ stack)
      (inside scope) (TracedAmong setup (type.identity.toList ++ stack) g.declared)) :
    Builds stack (buildOccurrence setup e type path rule uri parentScope inside)
      fun built => ∀ n, built = some n → Traced setup stack e n := by
  have hflat : ∀ {n : Node} {halted : Bool}, n.name = e.name → elementsAmong n.children = [] →
      Traced setup stack e (if halted = true then n.truncate else n) := by
    intro n halted hname hnone
    refine traced_truncate hname hresolve hwithin ?_ (List.forall_mem_nil _)
    rw [hnone]
    exact .nil
  intro s built s' hopen hrun n hn
  subst hn
  rcases buildOccurrence_eq_ok hrun with ⟨hnone, -⟩ | ⟨scope, attributes, t, u, hst, hattributes, hrest⟩
  · cases hnone
  · rcases hrest with ⟨-, -, hnil⟩ | ⟨node, v, huv, hcontent, hnode⟩
    · cases hnil
      exact @hflat _ false rfl rfl
    · obtain rfl := Option.some.inj hnode
      have htu := (buildAttributes_takesWalkSteps path scope htype.attributes).steps_of_exec hattributes
      have hopenv : v.openTypes = stack := by
        rw [RunState.openTypes_of_walkSteps (((RunState.walkSteps_of_quietSteps hst).trans htu).trans
          (RunState.walkSteps_of_quietSteps huv)), hopen]
      cases hkind : type.content with
      | complex g =>
          obtain ⟨children, hchildren, rfl⟩ := complexContent_eq_ok hkind hcontent
          have hamong := within_builds (hinside g hkind scope) v children s' hopenv hchildren
          obtain ⟨origins, horigins, hshallow⟩ := exists_origins hamong
          rw [← hkind] at horigins
          exact traced_truncate rfl hresolve hwithin horigins hshallow
      | empty =>
          obtain ⟨rfl, -⟩ := emptyContent_eq_ok hkind hcontent
          exact hflat rfl rfl
      | builtin p =>
          have hfacets : type.content.facets? = some (Facets.ofBase p) := by rw [hkind]; rfl
          obtain ⟨text, -, rfl⟩ := leafContent_eq_ok hfacets hcontent
          exact hflat rfl rfl
      | simple f =>
          have hfacets : type.content.facets? = some f := by rw [hkind]; rfl
          obtain ⟨text, -, rfl⟩ := leafContent_eq_ok hfacets hcontent
          exact hflat rfl rfl

theorem buildEach_builds {e : Element} {count : Nat} {occurrence : Run (Option Node)}
    (hsteps : TakesWalkSteps setup occurrence)
    (h : Builds stack occurrence fun built => ∀ n, built = some n → Traced setup stack e n)
    (left : Nat) :
    Builds stack (buildEach setup e count occurrence left) (TracedAmong setup stack [e]) := by
  induction left with
  | zero => exact .nil
  | succ left ih =>
      intro s cs s' hopen hrun
      obtain ⟨built, t, own, hbuilt, rfl, hrest⟩ := buildEach_succ_eq_ok hrun
      have hown : TracedAmong setup stack [e] (occurrenceComment setup e (count - left) count ++
          (built.map NodeChild.element).toList) := by
        intro n hn
        have hbuiltn : built = some n := by simpa using hn
        exact ⟨e, List.mem_singleton_self e, h s built t hopen hbuilt n hbuiltn⟩
      rcases hrest with ⟨-, rfl, -⟩ | ⟨-, more, hmore, rfl⟩
      · exact hown
      · exact hown.append (ih t more s' (hsteps.openTypes_eq hbuilt hopen) hmore)

/-- Children that are built while the open types keep their limits are traced, and the types that are open
afterwards are the same. -/
def TracedBelow (setup : Setup) : ChildCondition := fun _ _ stack declared s cs s' =>
  StackWithin setup stack → s.openTypes = stack →
    TracedAmong setup stack declared cs ∧ s'.openTypes = stack

theorem builds_of_gathers {path : String} {scope : Nat} {declared : List Element} {m : Run (List NodeChild)}
    (h : Gathers (TracedBelow setup path scope stack declared) m) (hwithin : StackWithin setup stack) :
    Builds stack m (TracedAmong setup stack declared) :=
  fun s cs s' hopen hrun => (h s cs s' hrun hwithin hopen).1

theorem buildElement_builds (hvalid : setup.schema.validate = .ok ())
    (hwithin : StackWithin setup stack) {e : Element} (he : setup.schema.ElementPasses e)
    (path : String) (scope : Nat) (force : Bool)
    {inside : ResolvedType → String → Option ElementRule → Inside}
    (hsteps : InsideTakesSteps setup inside e)
    (h : InsideGathers setup (TracedBelow setup) stack inside e) :
    Builds stack (buildElement setup e path scope force inside) (TracedAmong setup stack [e]) := by
  intro s cs s' hopen hrun
  obtain ⟨type, hresolve, htype⟩ := Schema.resolveType_passes hvalid he
  rcases buildElement_eq_ok hresolve hrun with
    ⟨identity, hrefused, hcut⟩ | ⟨hrefused, ⟨-, rfl, -⟩ | heach⟩
  · obtain ⟨hstubs, -⟩ := cutOff_eq_ok hcut
    intro n hn
    rw [hstubs] at hn
    rw [List.eq_of_mem_replicate hn]
    exact ⟨e, List.mem_singleton_self e,
      stub_traced hwithin hresolve hopen (by rw [hrefused]; rfl) e.decl.uri⟩
  · exact .nil
  · have hopened := hwithin.opened hopen hrefused
    have hone : ∀ path rule, TakesWalkSteps setup
        (buildOccurrence setup e type path rule e.decl.uri scope (inside type path rule)) :=
      fun path rule => buildOccurrence_takesWalkSteps e htype path rule _ scope
        (hsteps type hresolve htype path rule)
    have hbuilds := fun path rule => buildOccurrence_builds hresolve htype hopened path rule
      e.decl.uri scope fun g hg scope =>
        builds_of_gathers (h type g hresolve htype hg path rule scope) hopened
    exact buildEach_builds (hone _ _) (hbuilds _ _) _ s cs s' hopen heach

/-! ## Documents -/

theorem tracedBelow_gathering (hvalid : setup.schema.validate = .ok ()) :
    Gathering setup (TracedBelow setup) where
  nil _ _ _ _ _ _ hopen := ⟨.nil, hopen⟩
  append hcs hds hwithin hopen := by
    obtain ⟨hfirst, hopent⟩ := hcs hwithin hopen
    obtain ⟨hrest, hopenu⟩ := hds hwithin hopent
    exact ⟨hfirst.append hrest, hopenu⟩
  after hchosen hcs hwithin hopen :=
    hcs hwithin ((chooseBranch_takesQuietSteps _ _ _).toWalk.openTypes_eq hchosen hopen)
  mono hsub hcs hwithin hopen := by
    obtain ⟨htraced, hopent⟩ := hcs hwithin hopen
    refine ⟨fun n hn => ?_, hopent⟩
    obtain ⟨e, he, hn⟩ := htraced n hn
    exact ⟨e, hsub e he, hn⟩
  element he hsteps hinside path scope force := by
    intro s cs s' hrun hwithin hopen
    refine ⟨buildElement_builds hvalid hwithin he path scope force hsteps hinside s cs s' hopen hrun, ?_⟩
    exact (buildElement_takesWalkSteps hvalid he path scope force hsteps).openTypes_eq hrun hopen

/-- Every document comes from declarations, and no chain in it is too deep. -/
theorem buildDocument_traced (hvalid : setup.schema.validate = .ok ()) {root : Element}
    (hroot : setup.schema.ElementPasses root) {s t : RunState} {document : Node}
    (hopen : s.openTypes = []) (hrun : (buildDocument setup root).exec s = (.ok document, t)) :
    Traced setup [] root document := by
  obtain ⟨scope, u, hscope, hrun⟩ := exec_bind_eq_ok.1 hrun
  obtain ⟨built, v, hbuilt, hlast⟩ := exec_bind_eq_ok.1 hrun
  have hscopeSteps : TakesWalkSteps setup openScope := openScope_takesQuietSteps.toWalk
  have hopenu : u.openTypes = [] := hscopeSteps.openTypes_eq hscope hopen
  obtain ⟨type, hresolve, htype⟩ := Schema.resolveType_passes hvalid hroot
  unfold buildIn at hbuilt
  simp only [hresolve, ofSchema, pure_bind] at hbuilt
  rw [exec_get_bind] at hbuilt
  cases hrefused : refused? setup u type with
  | some identity =>
      rw [hrefused] at hbuilt
      obtain ⟨_, w, -, hbuilt⟩ := exec_bind_eq_ok.1 hbuilt
      obtain ⟨rfl, rfl⟩ := exec_pure_eq_ok.1 hbuilt
      obtain ⟨rfl, -⟩ := exec_pure_eq_ok.1 hlast
      exact stub_traced (stackWithin_nil setup) hresolve hopenu (by rw [hrefused]; rfl) _
  | none =>
      rw [hrefused] at hbuilt
      have hopened := (stackWithin_nil setup).opened hopenu hrefused
      have hinside := (tracedBelow_gathering hvalid).insideOf hvalid hroot
      have hoccurrence := buildOccurrence_builds hresolve htype hopened _ _ _ scope
        (fun g hg scope => builds_of_gathers (hinside type g hresolve htype hg _ _ scope) hopened)
        u built v hopenu hbuilt
      cases built with
      | some n =>
          obtain ⟨rfl, -⟩ := exec_pure_eq_ok.1 hlast
          exact hoccurrence n rfl
      | none =>
          -- the walk was stopped before the root; an empty element stands for it
          obtain ⟨rfl, -⟩ := exec_pure_eq_ok.1 hlast
          exact element_traced hresolve hopened rfl .nil (List.forall_mem_nil _)

/-! ## The walk is bounded -/

/-- What bounds the walk from a root, with any number of steps. -/
structure BoundedWalk (setup : Setup) (root : Element) : Prop where
  /-- The recursion through named types ends: whatever were done when named types are entered deeper than
  this, or when the open types exceed their limits, every run from no open types is the same. -/
  ends : ∀ enter,
    EntersWithin setup (setup.schema.types.length * setup.plan.settings.maxDepth.toNat) enter →
      ∀ s, s.openTypes = [] → (buildDocumentBy setup enter root).exec s = (buildDocument setup root).exec s
  /-- The elements of a document come from declarations, and on a chain of nested elements, stubs apart, no
  type is referred to more often than the greatest depth allows. -/
  nesting : ∀ s document t, s.openTypes = [] → (buildDocument setup root).exec s = (.ok document, t) →
    ∃ o, o.decl = root ∧ OriginOf setup [] o document ∧ ∀ chain, o.Chain chain → ∀ type,
      chain.countP (·.refersTo setup.schema type) ≤ setup.plan.settings.maxDepth.toNat
  /-- An occurrence leaves the types that are open as they were, also when it fails. -/
  balanced : ∀ e, setup.schema.ElementPasses e → ∀ type, setup.schema.resolveType e = .ok type →
    ∀ budget path rule uri scope s,
      ((buildOccurrence setup e type path rule uri scope
        (insideBy setup (enterWithin setup budget) e type path rule)).exec s).2.openTypes = s.openTypes

theorem insideBy_takesWalkSteps (hvalid : setup.schema.validate = .ok ()) {e : Element}
    (he : setup.schema.ElementPasses e) {type : ResolvedType} (htype : setup.schema.TypePasses type)
    (budget : Nat) (path : String) (rule : Option ElementRule) (scope : Nat) :
    TakesWalkSteps setup (insideBy setup (enterWithin setup budget) e type path rule scope) := by
  have henter := enterWithin_takesWalkSteps hvalid budget
  cases e with
  | mk decl content =>
      cases content with
      | none => exact insideNamed_takesWalkSteps henter htype path rule scope
      | some g =>
          exact (members_takeWalkSteps hvalid henter).2.1 g (Schema.content_passes he) path scope rule
            false

/-- Below a schema that was checked, the walk from a global element is bounded, whatever is recursive in the
schema and however many steps it may take. -/
theorem walk_bounded (setup : Setup) (hvalid : setup.schema.validate = .ok ()) (root : Element)
    (hroot : root ∈ setup.schema.elements) : BoundedWalk setup root := by
  have hpasses := Schema.elements_pass hvalid root hroot
  refine ⟨?_, ?_, ?_⟩
  · intro enter henter s hopen
    exact buildDocumentBy_eq hvalid hpasses henter hopen
  · intro s document t hopen hrun
    obtain ⟨o, hdecl, horigin, hshallow⟩ := buildDocument_traced hvalid hpasses hopen hrun
    refine ⟨o, hdecl, horigin, fun chain hchain type => ?_⟩
    simpa using hshallow chain hchain type
  · intro e he type hresolve budget path rule uri scope s
    obtain ⟨type', hresolve', htype⟩ := Schema.resolveType_passes hvalid he
    rw [hresolve] at hresolve'
    obtain rfl := Except.ok.inj hresolve'
    have hsteps := buildOccurrence_takesWalkSteps e htype path rule uri scope
      fun scope => insideBy_takesWalkSteps hvalid he htype budget path rule scope
    exact RunState.openTypes_of_walkSteps (hsteps.steps s)

/-- A part contains a part, and so on. -/
def partElement : Element := .mk { name := "Part", typeRef := some "Part" } none

/-- A setup in which a required element contains itself; three parts may be nested. -/
def partSetup : Setup where
  schema := {
    version := "1"
    elements := [partElement]
    types := [{ name := "Part", content := some (.mk { kind := .sequence } [.element partElement]) }] }
  plan := { settings := { maxDepth := 3 } }

theorem walk_bounded_part : partSetup.schema.validate = .ok () ∧
    partElement ∈ partSetup.schema.elements ∧ BoundedWalk partSetup partElement := by
  have hvalid : partSetup.schema.validate = .ok () := by decide +kernel
  exact ⟨hvalid, List.mem_singleton_self _,
    walk_bounded partSetup hvalid partElement (List.mem_singleton_self _)⟩

end Walk
end Specimen
