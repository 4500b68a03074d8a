import Mathlib.Algebra.Order.BigOperators.Group.Finset
import Specimen.Proofs.Walk.Conformance

/-!
# The walk builds what is declared

The induction behind every statement about whole documents.  It follows the walk through elements and
groups, with one invariant: the types that are open are named types of the schema, none of them open
more often than the greatest depth allows.  The invariant bounds how many types can be open at once, and
so the budget for entering named types is never used up.

Demands are met at the end of the run.  Whatever the report says then of warnings and refusals it has
kept since they arose, so each part of a document may appeal to it.
-/

namespace Specimen

open Run

namespace Walk

/-! ## Open types -/

/-- The types that are open are named types of the schema, and none is open too often. -/
structure StackFits (setup : Setup) (stack : List String) : Prop where
  named : ∀ id ∈ stack, id ∈ setup.schema.types.map (·.name)
  depth : ∀ id, stack.count id ≤ setup.plan.settings.maxDepth.toNat

theorem stackFits_nil (setup : Setup) : StackFits setup [] :=
  ⟨fun _ h => absurd h List.not_mem_nil, fun _ => Nat.zero_le _⟩

/-- Only so many types can be open at once. -/
theorem StackFits.length_le {setup : Setup} {stack : List String} (h : StackFits setup stack) :
    stack.length ≤ setup.schema.types.length * setup.plan.settings.maxDepth.toNat := by
  have hnames : stack.toFinset ⊆ (setup.schema.types.map (·.name)).toFinset := fun id hid =>
    List.mem_toFinset.2 (h.named id (List.mem_toFinset.1 hid))
  have hcard : stack.toFinset.card ≤ setup.schema.types.length :=
    calc stack.toFinset.card ≤ (setup.schema.types.map (·.name)).toFinset.card :=
          Finset.card_le_card hnames
      _ ≤ (setup.schema.types.map (·.name)).length := List.toFinset_card_le _
      _ = setup.schema.types.length := List.length_map _
  calc stack.length = ∑ id ∈ stack.toFinset, stack.count id :=
        (List.sum_toFinset_count_eq_length stack).symm
    _ ≤ stack.toFinset.card * setup.plan.settings.maxDepth.toNat :=
        Finset.sum_le_card_nsmul _ _ _ fun id _ => h.depth id
    _ ≤ setup.schema.types.length * setup.plan.settings.maxDepth.toNat :=
        Nat.mul_le_mul_right _ hcard

/-- A named type that is not refused may be opened. -/
theorem StackFits.push {setup : Setup} {stack : List String} (h : StackFits setup stack) {s : RunState}
    (hopen : s.openTypes = stack) {type : ResolvedType} (htype : setup.schema.TypePasses type)
    (hrefused : refused? setup s type = none) {identity : String}
    (hidentity : type.identity = some identity) : StackFits setup (identity :: stack) := by
  subst hopen
  have hroom : s.openTypes.count identity < setup.plan.settings.maxDepth.toNat := by
    unfold refused? at hrefused
    rw [hidentity] at hrefused
    have hnot : wouldTruncate setup s identity = false := by simpa using hrefused
    unfold wouldTruncate at hnot
    exact Nat.lt_of_not_le (of_decide_eq_false (Bool.or_eq_false_iff.1 hnot).1)
  constructor
  · intro id hid
    rcases List.mem_cons.1 hid with rfl | hid
    · exact htype.named id hidentity
    · exact h.named id hid
  · intro id
    rw [List.count_cons]
    split
    · rename_i heq
      rw [← eq_of_beq heq]
      exact hroom
    · exact h.depth id

/-! ## Demands that the walk meets -/

/-- The demands are met by a walk that ends in a state: counts within bounds will do, something may be
missing once the walk was stopped or a type was refused. -/
structure Meets (setup : Setup) (t : RunState) (d : Demands) : Prop where
  occurs : ∀ force low high count, InBounds force low high count → d.occurs force low high count
  gaps : d.gaps → ∀ force low high count, d.occurs force low high count
  halted : t.halted = true → d.gaps
  refused : Refused t → d.gaps

/-- What an action returns in the midst of a run that ends in a state, when it begins with certain types
open. -/
def Yields {α : Type} (stack : List String) (t : RunState) (m : Run α) (post : α → Prop) : Prop :=
  ∀ s a s', s.openTypes = stack → m.exec s = (.ok a, s') → s'.Grows t → post a

section Induction

variable {setup : Setup} {t : RunState} {d : Demands} {stack : List String}

/-! ## Occurrences of an element -/

theorem buildAttributes_attributesOf {attributes : List AttributeDecl} {owner : String} {scope : Nat}
    {s s' : RunState} {built : List Attribute}
    (hrun : (buildAttributes setup owner scope attributes).exec s = (.ok built, s')) :
    AttributesOf setup.schema attributes built := by
  induction attributes generalizing s built with
  | nil =>
      obtain ⟨rfl, rfl⟩ := exec_pure_eq_ok.1 hrun
      exact .nil
  | cons a rest ih =>
      rcases buildAttributes_cons_eq_ok hrun with
        ⟨homitted, u, -, htail⟩ | ⟨-, value, more, u, v, hvalue, htail, -, rfl⟩
      · exact .omitted (Bool.or_eq_false_iff.1 homitted).1 (ih htail)
      · obtain ⟨facets, hfacets, -⟩ := attributeValue_eq_ok hvalue
        exact .present hfacets (ih htail)

/-- What is built inside an element of complex type is a word of its group. -/
def InsideYields (setup : Setup) (t : RunState) (d : Demands) (stack : List String)
    (inside : ResolvedType → String → Option ElementRule → Inside) (e : Element) : Prop :=
  ∀ type g, setup.schema.resolveType e = .ok type → setup.schema.TypePasses type →
    type.content = .complex g → (∀ id, type.identity = some id → StackFits setup (id :: stack)) →
      ∀ path rule scope, Yields (type.identity.toList ++ stack) t (inside type path rule scope)
        fun cs => WordOf setup.schema d path false g (elementsAmong cs)

theorem withOpen_grows (s : RunState) (types : List String) : s.Grows (s.withOpen types) :=
  .of_same rfl rfl rfl rfl

theorem within_yields {α : Type} {type : Option String} {inside : Run α} {post : α → Prop}
    (hinside : Yields (type.toList ++ stack) t inside post) :
    Yields stack t (within type inside) post := by
  intro s a s' hopen hrun hgrows
  obtain ⟨u, hu, hclosed⟩ := within_eq_ok hrun
  rw [hopen] at hu
  refine hinside _ a u rfl hu ?_
  rw [hclosed] at hgrows
  exact (withOpen_grows u _).trans hgrows

/-- An element of a walk that was stopped is marked. -/
theorem marked_eq (head : NodeHead) (hhead : head.truncated = false) (children : List NodeChild)
    (halted : Bool) :
    (if halted = true then (Node.mk head children).truncate else .mk head children) =
      .mk { head with truncated := halted } children := by
  cases head with
  | mk name uri attributes text nil truncated =>
      cases hhead
      cases halted with
      | false => rfl
      | true => rfl

/-- What is in an element that is not nil is what its declaration makes of it. -/
theorem buildContent_builtAs (hmeets : Meets setup t d) {e : Element} {type : ResolvedType}
    (hresolve : setup.schema.resolveType e = .ok type) {path : String} {uri : Option String}
    {attributes : List Attribute}
    (hattributes : AttributesOf setup.schema type.attributes attributes) {parentScope : Nat}
    {inside : Run (List NodeChild)}
    (hinside : ∀ g, type.content = .complex g → Yields (type.identity.toList ++ stack) t inside
      fun cs => WordOf setup.schema d path false g (elementsAmong cs))
    {s s' : RunState} {node : Node} (hopen : s.openTypes = stack)
    (hrun : (buildContent setup e type path { name := e.name, uri, attributes } parentScope
      inside).exec s = (.ok node, s')) (hgrows : s'.Grows t) :
    BuiltAs setup.schema d path uri e (if s'.halted = true then node.truncate else node) := by
  have htruncated : s'.halted = true → d.gaps := fun h => hmeets.halted (hgrows.halted h)
  cases hcontent : type.content with
  | complex g =>
      obtain ⟨children, hchildren, rfl⟩ := complexContent_eq_ok hcontent hrun
      rw [marked_eq _ rfl]
      have hword := within_yields (hinside g hcontent) s children s' hopen hchildren hgrows
      exact .complex hresolve hattributes hcontent hword htruncated
  | empty =>
      obtain ⟨rfl, -⟩ := emptyContent_eq_ok hcontent hrun
      rw [marked_eq _ rfl]
      exact .empty hresolve hattributes hcontent htruncated
  | builtin p =>
      have hfacets : type.content.facets? = some (Facets.ofBase p) := by rw [hcontent]; rfl
      obtain ⟨text, -, rfl⟩ := leafContent_eq_ok hfacets hrun
      rw [marked_eq _ rfl]
      exact .text hresolve hattributes hfacets htruncated
  | simple f =>
      have hfacets : type.content.facets? = some f := by rw [hcontent]; rfl
      obtain ⟨text, -, rfl⟩ := leafContent_eq_ok hfacets hrun
      rw [marked_eq _ rfl]
      exact .text hresolve hattributes hfacets htruncated

/-- An occurrence is what its declaration makes of it; when there is none, something is missing. -/
theorem buildOccurrence_yields (hmeets : Meets setup t d) {e : Element} {type : ResolvedType}
    (hresolve : setup.schema.resolveType e = .ok type) (htype : setup.schema.TypePasses type)
    {path : String} {rule : Option ElementRule} {uri : Option String} {parentScope : Nat} {inside : Inside}
    (hinside : ∀ g, type.content = .complex g → ∀ scope,
      Yields (type.identity.toList ++ stack) t (inside scope)
        fun cs => WordOf setup.schema d path false g (elementsAmong cs)) :
    Yields stack t (buildOccurrence setup e type path rule uri parentScope inside) fun built =>
      (∀ n, built = some n → BuiltAs setup.schema d path uri e n) ∧ (built = none → d.gaps) := by
  intro s built s' hopen hrun hgrows
  rcases buildOccurrence_eq_ok hrun with
    ⟨rfl, hhalted, -⟩ | ⟨scope, attributes, u, v, hsu, hattributes, hrest⟩
  · exact ⟨nofun, fun _ => hmeets.halted (hgrows.halted hhalted)⟩
  · have huv := (buildAttributes_takesWalkSteps path scope htype.attributes).steps_of_exec hattributes
    have hattributesOf := buildAttributes_attributesOf hattributes
    rcases hrest with ⟨hnillable, -, rfl⟩ | ⟨node, w, hvw, hcontent, rfl⟩
    · refine ⟨fun n hn => ?_, nofun⟩
      cases hn
      exact .nil hnillable hresolve hattributesOf
    · have hvw := RunState.walkSteps_of_quietSteps hvw
      have hopenw : w.openTypes = stack := by
        rw [RunState.openTypes_of_walkSteps
          (((RunState.walkSteps_of_quietSteps hsu).trans huv).trans hvw), hopen]
      refine ⟨fun n hn => ?_, nofun⟩
      rw [← Option.some.inj hn]
      exact buildContent_builtAs hmeets hresolve hattributesOf (fun g hg => hinside g hg scope) hopenw
        hcontent hgrows

theorem buildOccurrence_yields_of_inside (hmeets : Meets setup t d) {e : Element} {type : ResolvedType}
    (hresolve : setup.schema.resolveType e = .ok type) (htype : setup.schema.TypePasses type)
    {inside : ResolvedType → String → Option ElementRule → Inside}
    (hinside : InsideYields setup t d stack inside e)
    (hpush : ∀ id, type.identity = some id → StackFits setup (id :: stack)) (path : String)
    (rule : Option ElementRule) (uri : Option String) (scope : Nat) :
    Yields stack t (buildOccurrence setup e type path rule uri scope (inside type path rule)) fun built =>
      (∀ n, built = some n → BuiltAs setup.schema d path uri e n) ∧ (built = none → d.gaps) :=
  buildOccurrence_yields hmeets hresolve htype
    fun g hg scope => hinside type g hresolve htype hg hpush path rule scope

/-- Of the occurrences that are asked for, all are built unless something is missing. -/
theorem buildEach_yields {e : Element} {count : Nat} {occurrence : Run (Option Node)}
    (hmeets : Meets setup t d) (hsteps : TakesWalkSteps setup occurrence) {P : Node → Prop}
    (hoccurrence : Yields stack t occurrence fun built =>
      (∀ n, built = some n → P n) ∧ (built = none → d.gaps)) (left : Nat) :
    Yields stack t (buildEach setup e count occurrence left) fun cs =>
      (∀ n ∈ elementsAmong cs, P n) ∧ (d.gaps ∨ (elementsAmong cs).length = left) := by
  induction left with
  | zero =>
      intro s cs s' _ hrun _
      obtain ⟨rfl, rfl⟩ := exec_pure_eq_ok.1 hrun
      exact ⟨fun n hn => (List.not_mem_nil hn).elim, .inr rfl⟩
  | succ left ih =>
      intro s cs s' hopen hrun hgrows
      obtain ⟨built, u, own, hbuilt, rfl, hrest⟩ := buildEach_succ_eq_ok hrun
      have hopenu : u.openTypes = stack := hsteps.openTypes_eq hbuilt hopen
      rcases hrest with ⟨hhalted, rfl, rfl⟩ | ⟨-, more, hmore, rfl⟩
      · obtain ⟨hnode, -⟩ := hoccurrence s built s' hopen hbuilt hgrows
        refine ⟨fun n hn => ?_, .inl (hmeets.halted (hgrows.halted hhalted))⟩
        exact hnode n (by simpa using hn)
      · have hu : u.Grows t := (buildEach_takesWalkSteps e count hsteps left).grows hmore hgrows
        obtain ⟨hnode, hnone⟩ := hoccurrence s built u hopen hbuilt hu
        obtain ⟨hnodes, hlength⟩ := ih u more s' hopenu hmore hgrows
        constructor
        · intro n hn
          rw [elementsAmong_append, List.mem_append] at hn
          rcases hn with hn | hn
          · exact hnode n (by simpa using hn)
          · exact hnodes n hn
        · cases built with
          | none => exact .inl (hnone rfl)
          | some n =>
              refine hlength.imp id fun hlength => ?_
              rw [elementsAmong_append, elementsAmong_append, elementsAmong_occurrenceComment,
                elementsAmong_toList, List.length_append, hlength]
              exact Nat.add_comm 1 left

/-- All that is built for an element declaration is what the element contributes. -/
theorem buildElement_yields (hmeets : Meets setup t d) (hvalid : setup.schema.validate = .ok ())
    {e : Element} (he : setup.schema.ElementPasses e) (hfits : StackFits setup stack) (path : String)
    (scope : Nat) (force : Bool) {inside : ResolvedType → String → Option ElementRule → Inside}
    (hsteps : InsideTakesSteps setup inside e) (hinside : InsideYields setup t d stack inside e) :
    Yields stack t (buildElement setup e path scope force inside) fun cs =>
      ContributionOf setup.schema d path force (.element e) (elementsAmong cs) := by
  intro s cs s' hopen hrun hgrows
  obtain ⟨type, hresolve, htype⟩ := Schema.resolveType_passes hvalid he
  have hbounds := Schema.bounds_of_elementPasses he
  rcases buildElement_eq_ok hresolve hrun with
    ⟨identity, -, hcut⟩ | ⟨hrefused, ⟨hcount, rfl, -⟩ | heach⟩
  · obtain ⟨hstubs, hrefused, -⟩ := cutOff_eq_ok hcut
    have hgaps : d.gaps := hmeets.refused (hrefused.grows hgrows)
    rw [hstubs]
    refine .elements (hmeets.gaps hgaps _ _ _ _) fun n hn => ?_
    rw [List.eq_of_mem_replicate hn]
    exact .stub hgaps
  · have hzero : InBounds force e.minOccurs e.maxOccurs 0 := by
      rw [← hcount]
      exact inBounds_occurrenceCount hbounds _ _ force
    exact .elements (hmeets.occurs _ _ _ _ hzero) fun n hn => (List.not_mem_nil hn).elim
  · have hpush : ∀ id, type.identity = some id → StackFits setup (id :: stack) := fun _ =>
      hfits.push hopen htype hrefused
    have hone : ∀ path rule, TakesWalkSteps setup
        (buildOccurrence setup e type path rule e.decl.uri scope (inside type path rule)) :=
      fun path rule => buildOccurrence_takesWalkSteps e htype path rule _ scope
        (hsteps type hresolve htype path rule)
    have hyields := fun path rule => buildOccurrence_yields_of_inside hmeets hresolve htype hinside
      hpush path rule e.decl.uri scope
    obtain ⟨hnodes, hlength⟩ :=
      buildEach_yields hmeets (hone _ _) (hyields _ _) _ s cs s' hopen heach hgrows
    refine .elements ?_ hnodes
    rcases hlength with hgaps | hlength
    · exact hmeets.gaps hgaps _ _ _ _
    · rw [hlength]
      exact hmeets.occurs _ _ _ _ (inBounds_occurrenceCount hbounds _ _ _)

/-! ## Members of groups -/

theorem repeatStep_yields (hmeets : Meets setup t d) {body : Run (List NodeChild)}
    (hsteps : TakesWalkSteps setup body) {R : List Node → Prop}
    (hbody : Yields stack t body fun cs => R (elementsAmong cs)) (count : Nat) :
    Yields stack t (repeatStep body count) fun cs =>
      ∃ repetitions : List (List Node), elementsAmong cs = repetitions.flatten ∧
        (∀ nodes ∈ repetitions, R nodes) ∧ (d.gaps ∨ repetitions.length = count) := by
  induction count with
  | zero =>
      intro s cs s' _ hrun _
      obtain ⟨rfl, rfl⟩ := exec_pure_eq_ok.1 hrun
      exact ⟨[], rfl, List.forall_mem_nil R, .inr rfl⟩
  | succ count ih =>
      intro s cs s' hopen hrun hgrows
      obtain ⟨own, u, hown, hrest⟩ := repeatStep_succ_eq_ok hrun
      have hopenu : u.openTypes = stack := hsteps.openTypes_eq hown hopen
      rcases hrest with ⟨hhalted, rfl, rfl⟩ | ⟨-, more, hmore, rfl⟩
      · have hR := hbody s cs s' hopen hown hgrows
        exact ⟨[elementsAmong cs], by simp, by simpa using hR,
          .inl (hmeets.halted (hgrows.halted hhalted))⟩
      · have hu : u.Grows t := (repeatStep_takesWalkSteps hsteps count).grows hmore hgrows
        have hR := hbody s own u hopen hown hu
        obtain ⟨repetitions, hflatten, hall, hlength⟩ := ih u more s' hopenu hmore hgrows
        refine ⟨elementsAmong own :: repetitions, ?_, List.forall_mem_cons.2 ⟨hR, hall⟩, ?_⟩
        · rw [elementsAmong_append, hflatten, List.flatten_cons]
        · exact hlength.imp id fun hlength => congrArg (· + 1) hlength

/-- What a member of a group is built to is what it contributes. -/
def MemberYields (setup : Setup) (t : RunState) (d : Demands) (stack : List String) (enter : Enter)
    (p : Particle) : Prop :=
  ∀ path scope rule force, Yields stack t (walkParticle setup enter path scope rule force p)
    fun cs => ContributionOf setup.schema d path force p (elementsAmong cs)

section Members

variable {enter : Enter} {path : String} {scope : Nat} {rule : Option ElementRule}

theorem walkAll_yields (hmeets : Meets setup t d) {members : List Particle}
    (hsteps : ∀ p ∈ members, ∀ force,
      TakesWalkSteps setup (walkParticle setup enter path scope rule force p))
    (hmembers : ∀ p ∈ members, MemberYields setup t d stack enter p) :
    Yields stack t (walkAll setup enter path scope rule members) fun cs =>
      SequenceOf setup.schema d path members (elementsAmong cs) := by
  induction members with
  | nil =>
      intro s cs s' _ hrun _
      obtain ⟨rfl, rfl⟩ := exec_pure_eq_ok.1 hrun
      exact .nil
  | cons p rest ih =>
      have hrestSteps := fun q hq => hsteps q (List.mem_cons_of_mem p hq)
      intro s cs s' hopen hrun hgrows
      obtain ⟨own, u, hown, hrest⟩ := walkAll_cons_eq_ok hrun
      have hopenu : u.openTypes = stack := (hsteps p List.mem_cons_self false).openTypes_eq hown hopen
      have hfirst := hmembers p List.mem_cons_self path scope rule false s own u hopen hown
      rcases hrest with ⟨hhalted, rfl, rfl⟩ | ⟨-, more, hmore, rfl⟩
      · have hgaps := hmeets.halted (hgrows.halted hhalted)
        rw [← List.append_nil (elementsAmong cs)]
        exact .cons (hfirst hgrows) (.stopped hgaps)
      · have hu : u.Grows t := (walkAll_takesWalkSteps hrestSteps).grows hmore hgrows
        rw [elementsAmong_append]
        exact .cons (hfirst hu) (ih hrestSteps (fun q hq => hmembers q (List.mem_cons_of_mem p hq))
          u more s' hopenu hmore hgrows)

/-- One repetition of a choice is what the member it takes contributes. -/
theorem choice_yields (hmeets : Meets setup t d) {decl : GroupDecl} {members : List Particle}
    (hkind : decl.kind = .choice) (hmembers : ∀ p ∈ members, MemberYields setup t d stack enter p) :
    Yields stack t (chooseBranch setup path rule members >>= fun chosen =>
        match chosen with
        | some position => walkNth setup enter path scope rule position members
        | none => pure []) fun cs =>
      RepetitionOf setup.schema d path (.mk decl members) (elementsAmong cs) := by
  intro s cs s' hopen hrun hgrows
  obtain ⟨chosen, u, hchosen, hrun⟩ := exec_bind_eq_ok.1 hrun
  have hopenu : u.openTypes = stack :=
    (chooseBranch_takesQuietSteps path rule members).toWalk.openTypes_eq hchosen hopen
  rcases chooseBranch_eq_ok hchosen with ⟨rfl, hreason⟩ | ⟨position, p, rfl, hp⟩
  · obtain ⟨rfl, rfl⟩ := exec_pure_eq_ok.1 hrun
    exact .nothing hkind (hreason.imp id fun hrefused => hmeets.refused (hrefused.grows hgrows))
  · dsimp only at hrun
    rw [walkNth_eq, hp] at hrun
    have hmember := List.mem_of_getElem? hp
    exact .branch hkind hmember (hmembers p hmember path scope rule true u cs s' hopenu hrun hgrows)

/-- The repetitions of a group are a word of it. -/
theorem repetitions_yield (hmeets : Meets setup t d) {g : Group} (hg : setup.schema.GroupPasses g)
    {body : Run (List NodeChild)} (hsteps : TakesWalkSteps setup body)
    (hbody : Yields stack t body fun cs => RepetitionOf setup.schema d path g (elementsAmong cs))
    (force : Bool) :
    Yields stack t (repeatStep body (groupCount setup g path force)) fun cs =>
      WordOf setup.schema d path force g (elementsAmong cs) := by
  intro s cs s' hopen hrun hgrows
  obtain ⟨repetitions, hflatten, hall, hlength⟩ :=
    repeatStep_yields hmeets hsteps hbody _ s cs s' hopen hrun hgrows
  rw [hflatten]
  refine .mk ?_ hall
  rcases hlength with hgaps | hlength
  · exact hmeets.gaps hgaps _ _ _ _
  · rw [hlength]
    exact hmeets.occurs _ _ _ _ (inBounds_groupCount (Schema.bounds_of_groupPasses hg) path force)

theorem walkGroup_yields_of_members (hmeets : Meets setup t d) {decl : GroupDecl}
    {members : List Particle} (hg : setup.schema.GroupPasses (.mk decl members))
    (hsteps : ∀ p ∈ members, ∀ force,
      TakesWalkSteps setup (walkParticle setup enter path scope rule force p))
    (hmembers : ∀ p ∈ members, MemberYields setup t d stack enter p) (force : Bool) :
    Yields stack t (walkGroup setup enter path scope rule force (.mk decl members)) fun cs =>
      WordOf setup.schema d path force (.mk decl members) (elementsAmong cs) := by
  by_cases hkind : decl.kind = .choice
  · rw [walkGroup_of_choice enter path scope rule force members hkind]
    refine repetitions_yield hmeets hg ?_ (choice_yields hmeets hkind hmembers) force
    refine (chooseBranch_takesQuietSteps path rule members).toWalk.bind fun chosen => ?_
    split
    · exact walkNth_takesWalkSteps hsteps _
    · exact .pure _
  · rw [walkGroup_of_ne_choice enter path scope rule force members hkind]
    refine repetitions_yield hmeets hg (walkAll_takesWalkSteps hsteps) ?_ force
    intro s cs s' hopen hrun hgrows
    exact .all hkind (walkAll_yields hmeets hsteps hmembers s cs s' hopen hrun hgrows)

end Members

/-! ## Types that are entered -/

/-- Whatever named type may be opened, its members are built to a word of its group. -/
def EnterYields (setup : Setup) (t : RunState) (d : Demands) (stack : List String) (enter : Enter) :
    Prop :=
  ∀ identity, StackFits setup (identity :: stack) → ∀ path scope rule g, setup.schema.GroupPasses g →
    Yields (identity :: stack) t (enter path scope rule g) fun cs =>
      WordOf setup.schema d path false g (elementsAmong cs)

theorem insideNamed_yields {enter : Enter} (henter : EnterYields setup t d stack enter)
    (decl : ElementDecl) : InsideYields setup t d stack (insideNamed enter) (.mk decl none) := by
  intro type g hresolve htype hcontent hfits path rule scope
  obtain ⟨identity, hidentity⟩ := Schema.identity_of_resolveType hresolve hcontent
  unfold insideNamed
  rw [hcontent, hidentity]
  exact henter identity (hfits identity hidentity) path scope rule g (htype.content g hcontent)

theorem insideAnonymous_yields {decl : ElementDecl} {g : Group}
    {walk : String → Nat → Option ElementRule → Run (List NodeChild)}
    (hwalk : ∀ path scope rule, Yields stack t (walk path scope rule) fun cs =>
      WordOf setup.schema d path false g (elementsAmong cs)) :
    InsideYields setup t d stack (fun _ path rule scope => walk path scope rule)
      (.mk decl (some g)) := by
  intro type g' hresolve _ hcontent _ path rule scope
  obtain ⟨rfl, hidentity⟩ := Schema.content_of_resolveType hresolve hcontent
  rw [hidentity]
  exact hwalk path scope rule

/-- Elements, groups and members are built as they are declared, when named types are. -/
theorem members_yield (hmeets : Meets setup t d) (hvalid : setup.schema.validate = .ok ())
    (hfits : StackFits setup stack) {enter : Enter} (hsteps : EnterTakesSteps setup enter)
    (henter : EnterYields setup t d stack enter) :
    (∀ e, setup.schema.ElementPasses e → ∀ path scope force,
      Yields stack t (walkElement setup enter path scope force e) fun cs =>
        ContributionOf setup.schema d path force (.element e) (elementsAmong cs)) ∧
    (∀ g, setup.schema.GroupPasses g → ∀ path scope rule force,
      Yields stack t (walkGroup setup enter path scope rule force g) fun cs =>
        WordOf setup.schema d path force g (elementsAmong cs)) ∧
    ∀ p, setup.schema.ParticlePasses p → MemberYields setup t d stack enter p := by
  have htake := members_takeWalkSteps hvalid hsteps
  apply tree_induction
  · intro decl he path scope force
    unfold walkElement
    exact buildElement_yields hmeets hvalid he hfits path scope force
      (fun type _ htype path rule scope => insideNamed_takesWalkSteps hsteps htype path rule scope)
      (insideNamed_yields henter decl)
  · intro decl g ih he path scope force
    have hg := Schema.content_passes he
    unfold walkElement
    exact buildElement_yields hmeets hvalid he hfits path scope force
      (fun _ _ _ path rule scope => htake.2.1 g hg path scope rule false)
      (insideAnonymous_yields fun path scope rule => ih hg path scope rule false)
  · intro decl members ih hg path scope rule force
    have hmembers := Schema.member_passes hg
    exact walkGroup_yields_of_members hmeets hg
      (fun p hp force => htake.2.2 p (hmembers p hp) path scope rule force)
      (fun p hp => ih p hp (hmembers p hp)) force
  · intro e ih he path scope rule force
    unfold walkParticle
    exact ih he path scope force
  · intro g ih hg path scope rule force
    unfold walkParticle
    intro s cs s' hopen hrun hgrows
    exact .group (ih hg path scope rule force s cs s' hopen hrun hgrows)

/-- The budget for entering named types is never used up: together with the types that are open it
exceeds the number that can be. -/
theorem enterWithin_yields (hmeets : Meets setup t d) (hvalid : setup.schema.validate = .ok ())
    (budget : Nat) (stack : List String)
    (hbudget : setup.schema.types.length * setup.plan.settings.maxDepth.toNat ≤
      budget + stack.length) : EnterYields setup t d stack (enterWithin setup budget) := by
  induction budget generalizing stack with
  | zero =>
      intro identity hfits
      have hlength := hfits.length_le
      rw [List.length_cons] at hlength
      omega
  | succ budget ih =>
      intro identity hfits path scope rule g hg
      have henter := ih (identity :: stack) (by rw [List.length_cons]; omega)
      exact (members_yield hmeets hvalid hfits (enterWithin_takesWalkSteps hvalid budget) henter).2.1 g
        hg path scope rule false

end Induction

/-! ## Documents -/

theorem insideOf_yields {setup : Setup} {t : RunState} {d : Demands} (hmeets : Meets setup t d)
    (hvalid : setup.schema.validate = .ok ()) {e : Element} (he : setup.schema.ElementPasses e) :
    InsideYields setup t d [] (insideOf setup e) e := by
  have henter : EnterYields setup t d [] (enter setup) :=
    enterWithin_yields hmeets hvalid _ [] (Nat.le_succ _)
  have hmembers := members_yield hmeets hvalid (stackFits_nil setup)
    (enterWithin_takesWalkSteps hvalid _) henter
  cases e with
  | mk decl content =>
      cases content with
      | none => exact insideNamed_yields henter decl
      | some g =>
          exact insideAnonymous_yields fun path scope rule =>
            hmembers.2.1 g (Schema.content_passes he) path scope rule false

/-- An occurrence that begins with no type open is what its declaration makes of it; when there is none,
something is missing. -/
theorem buildIn_yields {setup : Setup} {t : RunState} {d : Demands} (hmeets : Meets setup t d)
    (hvalid : setup.schema.validate = .ok ()) {e : Element} (he : setup.schema.ElementPasses e)
    (parentPath : String) (uri : Option String) (scope : Nat) :
    Yields [] t (buildIn setup e parentPath uri scope) fun built =>
      (∀ n, built = some n → BuiltAs setup.schema d (joinPath parentPath e.name) uri e n) ∧
        (built = none → d.gaps) := by
  intro s built s' hopen hrun hgrows
  obtain ⟨type, hresolve, htype⟩ := Schema.resolveType_passes hvalid he
  unfold buildIn at hrun
  simp only [hresolve, ofSchema, pure_bind] at hrun
  rw [exec_get_bind] at hrun
  split at hrun
  · obtain ⟨⟨⟩, u, hfollow, hrun⟩ := exec_bind_eq_ok.1 hrun
    obtain ⟨rfl, rfl⟩ := exec_pure_eq_ok.1 hrun
    refine ⟨fun n hn => ?_, fun _ => hmeets.refused ((refused_of_follow rfl hfollow).grows hgrows)⟩
    cases hn
  · rename_i hrefused
    have hpush : ∀ id, type.identity = some id → StackFits setup [id] := fun _ =>
      (stackFits_nil setup).push hopen htype hrefused
    exact buildOccurrence_yields_of_inside hmeets hresolve htype
      (insideOf_yields hmeets hvalid he) hpush _ _ uri scope s built s' hopen hrun hgrows

/-- A document is what the declaration of its root makes of it. -/
theorem buildDocument_builtAs {setup : Setup} {s t : RunState} {d : Demands} (hmeets : Meets setup t d)
    (hvalid : setup.schema.validate = .ok ()) {root : Element}
    (hroot : setup.schema.ElementPasses root) (hopen : s.openTypes = []) {document : Node}
    (hrun : (buildDocument setup root).exec s = (.ok document, t)) :
    BuiltAs setup.schema d (joinPath "" root.name)
      (root.decl.uri <|> setup.schema.targetNamespace) root document := by
  unfold buildDocument at hrun
  obtain ⟨scope, u, hscope, hrun⟩ := exec_bind_eq_ok.1 hrun
  obtain ⟨built, v, hbuilt, hrun⟩ := exec_bind_eq_ok.1 hrun
  have hscopeSteps : TakesWalkSteps setup openScope := openScope_takesQuietSteps.toWalk
  have hopenu : u.openTypes = [] := hscopeSteps.openTypes_eq hscope hopen
  cases built with
  | none =>
      obtain ⟨rfl, rfl⟩ := exec_pure_eq_ok.1 hrun
      obtain ⟨-, hnone⟩ :=
        buildIn_yields hmeets hvalid hroot "" _ scope u none v hopenu hbuilt (.refl v)
      exact .stub (hnone rfl)
  | some node =>
      obtain ⟨rfl, rfl⟩ := exec_pure_eq_ok.1 hrun
      obtain ⟨hnode, -⟩ :=
        buildIn_yields hmeets hvalid hroot "" _ scope u (some node) v hopenu hbuilt (.refl v)
      exact hnode node rfl

end Walk
end Specimen
