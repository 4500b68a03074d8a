import Specimen.Proofs.Schema.Positions
import Specimen.Proofs.Walk.Content

/-!
# What the walk gathers

The children of an element are gathered from the members of its content, one member after the other.  A
condition on children holds of all that is gathered if it holds of nothing, of what is built for one element
declaration, and of children in a row when it holds of each part: `Gathering` lists what is asked of the
condition.  The induction over groups and named types is done here, once for all such conditions.
-/

namespace Specimen

open Run

namespace Walk

/-- A condition on children that were built between two states, for some of the elements that may stand at a
path, in a scope of siblings and while certain types are open. -/
abbrev ChildCondition : Type :=
  (path : String) → (scope : Nat) → (stack : List String) → (declared : List Element) →
    RunState → List NodeChild → RunState → Prop

/-- The children that an action returns satisfy a condition. -/
def Gathers (post : RunState → List NodeChild → RunState → Prop) (m : Run (List NodeChild)) : Prop :=
  ∀ s cs s', m.exec s = (.ok cs, s') → post s cs s'

/-- What is built inside an element of complex type satisfies the condition for the content of its type. -/
abbrev InsideGathers (setup : Setup) (P : ChildCondition) (stack : List String)
    (inside : ResolvedType → String → Option ElementRule → Inside) (e : Element) : Prop :=
  ∀ type g, setup.schema.resolveType e = .ok type → setup.schema.TypePasses type →
    type.content = .complex g → ∀ path rule scope,
      Gathers (P path scope (type.identity.toList ++ stack) g.declared) (inside type path rule scope)

/-- A condition that what the walk gathers satisfies: it holds of no children, of children in a row, after a
branch is chosen, among more declarations, and of what is built for an element when it holds of what is built
inside. -/
structure Gathering (setup : Setup) (P : ChildCondition) : Prop where
  nil : ∀ path scope stack declared s, P path scope stack declared s [] s
  append : ∀ {path scope stack declared s t u cs ds}, P path scope stack declared s cs t →
    P path scope stack declared t ds u → P path scope stack declared s (cs ++ ds) u
  after : ∀ {path scope stack declared rule members s t u chosen cs},
    (chooseBranch setup path rule members).exec s = (.ok chosen, t) →
      P path scope stack declared t cs u → P path scope stack declared s cs u
  mono : ∀ {path scope stack declared declared' s t cs}, (∀ e ∈ declared, e ∈ declared') →
    P path scope stack declared s cs t → P path scope stack declared' s cs t
  element : ∀ {e inside stack}, setup.schema.ElementPasses e → InsideTakesSteps setup inside e →
    InsideGathers setup P stack inside e → ∀ path scope force,
      Gathers (P path scope stack [e]) (buildElement setup e path scope force inside)

namespace Gathering

variable {setup : Setup} {P : ChildCondition} {path : String} {scope : Nat} {stack : List String}
  {declared : List Element}

theorem gathers_nil (h : Gathering setup P) : Gathers (P path scope stack declared) (pure []) := by
  intro s cs s' hrun
  obtain ⟨rfl, rfl⟩ := exec_pure_eq_ok.1 hrun
  exact h.nil path scope stack declared s

/-! ## Members of groups -/

theorem repeatStep (h : Gathering setup P) {body : Run (List NodeChild)}
    (hbody : Gathers (P path scope stack declared) body) (count : Nat) :
    Gathers (P path scope stack declared) (repeatStep body count) := by
  induction count with
  | zero => exact h.gathers_nil
  | succ count ih =>
      intro s cs s' hrun
      obtain ⟨own, t, hown, hrest⟩ := repeatStep_succ_eq_ok hrun
      rcases hrest with ⟨-, rfl, rfl⟩ | ⟨-, more, hmore, rfl⟩
      · exact hbody s cs s' hown
      · exact h.append (hbody s own t hown) (ih t more s' hmore)

section Members

variable {enter : Enter} {rule : Option ElementRule} {members : List Particle}

theorem walkAll (h : Gathering setup P)
    (hmembers : ∀ p ∈ members, ∀ force,
      Gathers (P path scope stack declared) (walkParticle setup enter path scope rule force p)) :
    Gathers (P path scope stack declared) (walkAll setup enter path scope rule members) := by
  induction members with
  | nil => exact h.gathers_nil
  | cons p rest ih =>
      have hrest := ih fun q hq => hmembers q (List.mem_cons_of_mem _ hq)
      intro s cs s' hrun
      obtain ⟨own, t, hown, hmore⟩ := walkAll_cons_eq_ok hrun
      have hfirst := hmembers p List.mem_cons_self false s own t hown
      rcases hmore with ⟨-, rfl, rfl⟩ | ⟨-, more, hmore, rfl⟩
      · exact hfirst
      · exact h.append hfirst (hrest t more s' hmore)

theorem choice (h : Gathering setup P)
    (hmembers : ∀ p ∈ members, ∀ force,
      Gathers (P path scope stack declared) (walkParticle setup enter path scope rule force p)) :
    Gathers (P path scope stack declared) (chooseBranch setup path rule members >>= fun chosen =>
      match chosen with
      | some position => walkNth setup enter path scope rule position members
      | none => pure []) := by
  intro s cs s' hrun
  obtain ⟨chosen, t, hchosen, hlast⟩ := exec_bind_eq_ok.1 hrun
  refine h.after hchosen ?_
  cases chosen with
  | none => exact h.gathers_nil t cs s' hlast
  | some position =>
      dsimp only at hlast
      rw [walkNth_eq] at hlast
      cases hp : members[position]? with
      | none =>
          rw [hp] at hlast
          exact h.gathers_nil t cs s' hlast
      | some p =>
          rw [hp] at hlast
          exact hmembers p (List.mem_of_getElem? hp) true t cs s' hlast

theorem walkGroup_of_members (h : Gathering setup P) (decl : GroupDecl)
    (hmembers : ∀ p ∈ members, ∀ force,
      Gathers (P path scope stack p.declared) (walkParticle setup enter path scope rule force p)) (force : Bool) :
    Gathers (P path scope stack (declaredAmong members))
      (walkGroup setup enter path scope rule force (.mk decl members)) := by
  have hamong : ∀ p ∈ members, ∀ force, Gathers (P path scope stack (declaredAmong members))
      (walkParticle setup enter path scope rule force p) := by
    intro p hp force s cs s' hrun
    exact h.mono (fun e => mem_declaredAmong hp) (hmembers p hp force s cs s' hrun)
  by_cases hkind : decl.kind = .choice
  · rw [walkGroup_of_choice enter path scope rule force members hkind]
    exact h.repeatStep (h.choice hamong) _
  · rw [walkGroup_of_ne_choice enter path scope rule force members hkind]
    exact h.repeatStep (h.walkAll hamong) _

end Members

/-! ## Types that are entered -/

/-- Whatever named type is entered, what is gathered for its members satisfies the condition. -/
abbrev EnterGathers (setup : Setup) (P : ChildCondition) (enter : Enter) : Prop :=
  ∀ stack path scope rule g, setup.schema.GroupPasses g →
    Gathers (P path scope stack g.declared) (enter path scope rule g)

theorem insideNamed {enter : Enter} (henter : EnterGathers setup P enter) (stack : List String)
    (e : Element) : InsideGathers setup P stack (insideNamed enter) e := by
  intro type g _ htype hcontent path rule scope
  unfold Walk.insideNamed
  rw [hcontent]
  exact henter _ path scope rule g (htype.content g hcontent)

theorem insideAnonymous {decl : ElementDecl} {g : Group}
    {walk : String → Nat → Option ElementRule → Run (List NodeChild)}
    (hwalk : ∀ path scope rule, Gathers (P path scope stack g.declared) (walk path scope rule)) :
    InsideGathers setup P stack (fun _ path rule scope => walk path scope rule) (.mk decl (some g)) := by
  intro type g' hresolve _ hcontent path rule scope
  obtain ⟨rfl, hidentity⟩ := Schema.content_of_resolveType hresolve hcontent
  rw [hidentity]
  exact hwalk path scope rule

/-- The condition holds of elements, groups and members, when it holds of named types. -/
theorem members (h : Gathering setup P) (hvalid : setup.schema.validate = .ok ()) {enter : Enter}
    (hsteps : EnterTakesSteps setup enter) (henter : EnterGathers setup P enter) (stack : List String) :
    (∀ e, setup.schema.ElementPasses e → ∀ path scope force,
      Gathers (P path scope stack [e]) (walkElement setup enter path scope force e)) ∧
    (∀ g, setup.schema.GroupPasses g → ∀ path scope rule force,
      Gathers (P path scope stack g.declared) (walkGroup setup enter path scope rule force g)) ∧
    ∀ p, setup.schema.ParticlePasses p → ∀ path scope rule force,
      Gathers (P path scope stack p.declared) (walkParticle setup enter path scope rule force p) := by
  have htake := members_takeWalkSteps hvalid hsteps
  apply tree_induction
  · intro decl he path scope force
    unfold walkElement
    exact h.element he
      (fun type _ htype path rule scope => insideNamed_takesWalkSteps hsteps htype path rule scope)
      (insideNamed henter stack _) path scope force
  · intro decl g ih he path scope force
    have hg := Schema.content_passes he
    unfold walkElement
    exact h.element he (fun _ _ _ path rule scope => htake.2.1 g hg path scope rule false)
      (insideAnonymous fun path scope rule => ih hg path scope rule false) path scope force
  · intro decl members ih hg path scope rule force
    exact h.walkGroup_of_members decl (fun p hp force =>
      ih p hp (Schema.member_passes hg p hp) path scope rule force) force
  · intro e ih he path scope rule force
    unfold walkParticle
    exact ih he path scope force
  · intro g ih hg path scope rule force
    unfold walkParticle
    exact ih hg path scope rule force

theorem enterWithin (h : Gathering setup P) (hvalid : setup.schema.validate = .ok ()) (budget : Nat) :
    EnterGathers setup P (enterWithin setup budget) := by
  induction budget with
  | zero => exact fun _ _ _ _ _ _ => h.gathers_nil
  | succ budget ih =>
      intro stack path scope rule g hg
      exact (h.members hvalid (enterWithin_takesWalkSteps hvalid budget) ih stack).2.1 g hg path scope rule
        false

/-- What is inside the root of a document satisfies the condition. -/
theorem insideOf (h : Gathering setup P) (hvalid : setup.schema.validate = .ok ()) {e : Element}
    (he : setup.schema.ElementPasses e) : InsideGathers setup P [] (insideOf setup e) e := by
  have henter : EnterGathers setup P (enter setup) := h.enterWithin hvalid _
  cases e with
  | mk decl content =>
      cases content with
      | none => exact insideNamed henter [] _
      | some g =>
          have hmembers := h.members hvalid (enterWithin_takesWalkSteps hvalid _) henter []
          exact insideAnonymous fun path scope rule =>
            hmembers.2.1 g (Schema.content_passes he) path scope rule false

end Gathering
end Walk
end Specimen
