import Specimen.Proofs.Leaf.Steps
import Specimen.Proofs.Schema.Sound
import Specimen.Walk.Build

/-!
# Steps of the walk

Below a schema that was checked, the walk takes only walk steps, and it fails only when the value of a
leaf fails or the budget runs out.  The types that are open before an action of the walk are open after
it, also when it fails.
-/

open Relation (ReflTransGen)

namespace Specimen

open Run

/-- A way in which the walk can fail. -/
inductive WalkFailure (setup : Setup) : RunError → Prop where
  | leaf {e : RunError} (h : LeafFailure setup e) : WalkFailure setup e
  | timeout (steps : Nat) : WalkFailure setup (.timeout steps)

/-- An action takes only steps of the walk, and fails only as the walk does. -/
abbrev TakesWalkSteps {α : Type} (setup : Setup) (m : Run α) : Prop :=
  Confined WalkStep (WalkFailure setup) m

/-- An action takes only steps of the walk that settle nothing, and fails only as the walk does. -/
abbrev TakesQuietSteps {α : Type} (setup : Setup) (m : Run α) : Prop :=
  Confined QuietStep (WalkFailure setup) m

theorem Run.Confined.toWalk {α : Type} {setup : Setup} {m : Run α} (h : TakesQuietSteps setup m) :
    TakesWalkSteps setup m :=
  h.mono (fun _ _ => And.left) fun _ => id

theorem quietSteps_of_walkStep {s t : RunState} (h : WalkStep s t)
    (hsame : t.relations = s.relations) : ReflTransGen QuietStep s t :=
  .single ⟨h, by rw [hsame]; exact ⟨rfl, rfl, rfl⟩⟩

theorem TakesQuietSteps.of_tentativeSteps {α : Type} {setup : Setup} {m : Run α}
    (h : TakesTentativeSteps (LeafFailure setup) m) : TakesQuietSteps setup m :=
  h.mono (fun _ _ => And.imp_left .value) fun _ => .leaf

theorem TakesWalkSteps.of_valueSteps {α : Type} {setup : Setup} {m : Run α}
    (h : TakesValueSteps (LeafFailure setup) m) : TakesWalkSteps setup m :=
  h.mono (fun _ _ => .value) fun _ => .leaf

/-- The types that are open before an action are open after it. -/
theorem TakesWalkSteps.openTypes_eq {α : Type} {setup : Setup} {m : Run α} (hm : TakesWalkSteps setup m)
    {s s' : RunState} {r : Except RunError α} (h : m.exec s = (r, s')) {stack : List String}
    (hopen : s.openTypes = stack) : s'.openTypes = stack := by
  rw [RunState.openTypes_of_walkSteps (hm.steps_of_exec h), hopen]

/-- What is kept of the state after an action is kept of the state before it. -/
theorem TakesWalkSteps.grows {α : Type} {setup : Setup} {m : Run α} (hm : TakesWalkSteps setup m)
    {s s' t : RunState} {r : Except RunError α} (h : m.exec s = (r, s')) (hgrows : s'.Grows t) :
    s.Grows t :=
  (RunState.Grows.of_walkSteps (hm.steps_of_exec h)).trans hgrows

namespace Walk

variable {setup : Setup}

/-! ## Single actions -/

theorem quiet_of_exec {α : Type} {m : Run α} (hm : TakesQuietSteps setup m) {s s' : RunState}
    {r : Except RunError α} (h : m.exec s = (r, s')) : s.Quiet s' :=
  .of_quietSteps (hm.steps_of_exec h)

theorem record_takesQuietSteps {change : Report → Report} (h : WalkCount change) :
    TakesQuietSteps setup (record change) :=
  .modify fun _ => quietSteps_of_walkStep (.counted change h) rfl

theorem follow_takesQuietSteps (e : TraceEvent) : TakesQuietSteps setup (follow e) :=
  .modify fun _ => quietSteps_of_walkStep (.followed e) rfl

theorem warn_takesQuietSteps (n : Notice) : TakesQuietSteps setup (warn n) :=
  .of_tentativeSteps (warn_takesTentativeSteps n)

theorem followAll_takesQuietSteps (events : List TraceEvent) :
    TakesQuietSteps setup (followAll events) := by
  refine .modify fun s => ?_
  induction events generalizing s with
  | nil => exact .refl
  | cons e rest ih =>
      have hrest := ih { s with trace := s.trace.push e }
      rw [← Array.appendList_cons] at hrest
      exact (quietSteps_of_walkStep (.followed e) rfl).trans hrest

theorem openScope_takesQuietSteps : TakesQuietSteps setup openScope :=
  .modifyGet fun _ => quietSteps_of_walkStep .opened rfl

theorem isHalted_takesQuietSteps : TakesQuietSteps setup isHalted :=
  Confined.get.bind fun _ => .pure _

theorem ofSchema_takesQuietSteps {α : Type} {found : Except SchemaError α} {a : α}
    (hfound : found = .ok a) : TakesQuietSteps setup (ofSchema found) := by
  rw [hfound]
  exact .pure a

theorem tick_takesQuietSteps : TakesQuietSteps setup (tick setup.options) := by
  refine (record_takesQuietSteps .step).bind fun _ => Confined.get.bind fun s => ?_
  dsimp only
  split
  · exact .throw (.timeout _)
  · exact .pure ()

theorem step_takesQuietSteps (path : String) : TakesQuietSteps setup (step setup path) := by
  refine Confined.tryCatch (tick_takesQuietSteps.bind fun _ => .pure _) fun e he => ?_
  have hstop : ∀ n, TakesQuietSteps setup (do record (.truncate n); modify RunState.halt; return false) :=
    fun n => (record_takesQuietSteps (.truncation n)).bind fun _ =>
      Confined.bind (.modify fun _ => quietSteps_of_walkStep .halted rfl) fun _ => .pure _
  dsimp only
  split
  · exact Confined.bind (.throw he) fun _ => hstop _
  · exact hstop _

/-- The types that are open inside are closed again, so that an action around them takes the steps of
the one inside. -/
theorem within_takesWalkSteps {α : Type} {inside : Run α} (hinside : TakesWalkSteps setup inside)
    (type : Option String) : TakesWalkSteps setup (within type inside) := by
  cases type with
  | none => exact hinside
  | some identity =>
      have hexec : ∀ s, (within (some identity) inside).exec s =
          ((inside.exec (s.pushType identity)).1, (inside.exec (s.pushType identity)).2.popType) :=
        fun _ => rfl
      refine ⟨fun s => ?_, fun s e he => ?_⟩
      · have hsteps := hinside.steps (s.pushType identity)
        have htypes := RunState.openTypes_of_walkSteps hsteps
        have hpop : (inside.exec (s.pushType identity)).2.popType =
            (inside.exec (s.pushType identity)).2.withOpen s.openTypes := by
          rw [RunState.popType, htypes]
          rfl
        have hclosed := RunState.walkSteps_withOpen s.openTypes hsteps
        rw [hexec, hpop]
        exact hclosed
      · rw [hexec] at he
        exact hinside.fails _ e he

/-! ## Occurrences of an element -/

theorem buildAttributes_takesWalkSteps (owner : String) (scope : Nat) {attributes : List AttributeDecl}
    (hattributes : ∀ a ∈ attributes, ∃ f, setup.schema.resolveAttribute a = .ok f) :
    TakesWalkSteps setup (buildAttributes setup owner scope attributes) := by
  induction attributes with
  | nil => exact .pure _
  | cons a rest ih =>
      have hrest := ih fun b hb => hattributes b (List.mem_cons_of_mem _ hb)
      obtain ⟨f, hf⟩ := hattributes a List.mem_cons_self
      unfold buildAttributes
      dsimp only
      split
      · exact (record_takesQuietSteps .omitted).toWalk.bind fun _ => hrest
      · have hvalue : TakesWalkSteps setup
            (attributeValue setup a (owner ++ "/@" ++ a.name) scope) :=
          (ofSchema_takesQuietSteps hf).toWalk.bind fun _ =>
            TakesWalkSteps.of_valueSteps (Leaf.resolve_takesValueSteps setup _)
        exact hvalue.bind fun _ => (record_takesQuietSteps .attribute).toWalk.bind fun _ =>
          hrest.bind fun _ => .pure _

theorem leafText_takesWalkSteps (e : Element) (path : String) (facets : Facets) (scope : Nat) :
    TakesWalkSteps setup (leafText setup e path facets scope) :=
  .of_valueSteps (Leaf.resolve_takesValueSteps setup _)

theorem becomesNil_takesQuietSteps (e : Element) (path : String) (rule : Option ElementRule) :
    TakesQuietSteps setup (becomesNil e path rule) := by
  unfold becomesNil
  split
  · exact .pure _
  · split
    · exact .pure _
    · exact (warn_takesQuietSteps _).bind fun _ => .pure _

theorem buildContent_takesWalkSteps (e : Element) (type : ResolvedType) (path : String)
    (head : NodeHead) (parentScope : Nat) {inside : Run (List NodeChild)}
    (hinside : TakesWalkSteps setup inside) :
    TakesWalkSteps setup (buildContent setup e type path head parentScope inside) := by
  unfold buildContent
  split
  · exact (leafText_takesWalkSteps e path _ _).bind fun _ => .pure _
  · exact (leafText_takesWalkSteps e path _ _).bind fun _ => .pure _
  · exact (within_takesWalkSteps hinside _).bind fun _ => .pure _
  · exact .pure _

theorem buildOccurrence_takesWalkSteps (e : Element) {type : ResolvedType}
    (htype : setup.schema.TypePasses type) (path : String) (rule : Option ElementRule)
    (uri : Option String) (parentScope : Nat) {inside : Inside}
    (hinside : ∀ scope, TakesWalkSteps setup (inside scope)) :
    TakesWalkSteps setup (buildOccurrence setup e type path rule uri parentScope inside) := by
  unfold buildOccurrence
  refine (step_takesQuietSteps path).toWalk.bind fun goesOn => ?_
  split
  · exact .pure _
  · refine openScope_takesQuietSteps.toWalk.bind fun scope => ?_
    refine (record_takesQuietSteps .element).toWalk.bind fun _ => ?_
    refine (buildAttributes_takesWalkSteps path scope htype.attributes).bind fun attributes => ?_
    dsimp only
    refine (becomesNil_takesQuietSteps e path rule).toWalk.bind fun nil => ?_
    split
    · exact .pure _
    · exact (buildContent_takesWalkSteps e type path _ parentScope (hinside scope)).bind fun _ =>
        isHalted_takesQuietSteps.toWalk.bind fun _ => .pure _

theorem buildEach_takesWalkSteps (e : Element) (count : Nat) {occurrence : Run (Option Node)}
    (hoccurrence : TakesWalkSteps setup occurrence) (left : Nat) :
    TakesWalkSteps setup (buildEach setup e count occurrence left) := by
  induction left with
  | zero => exact .pure _
  | succ left ih =>
      unfold buildEach
      refine hoccurrence.bind fun built => ?_
      refine isHalted_takesQuietSteps.toWalk.bind fun halted => ?_
      split
      · exact .pure _
      · exact ih.bind fun _ => .pure _

theorem cutOff_takesQuietSteps (e : Element) (path identity : String) :
    TakesQuietSteps setup (cutOff setup e path identity) :=
  Confined.get.bind fun _ => (follow_takesQuietSteps _).bind fun _ =>
    (record_takesQuietSteps (.truncation _)).bind fun _ => .pure _

/-! ## Members of groups -/

/-- What is built inside an element takes steps of the walk when the type of the element is in order. -/
abbrev InsideTakesSteps (setup : Setup)
    (inside : ResolvedType → String → Option ElementRule → Inside) (e : Element) : Prop :=
  ∀ type, setup.schema.resolveType e = .ok type → setup.schema.TypePasses type →
    ∀ path rule scope, TakesWalkSteps setup (inside type path rule scope)

/-- Entering the members of a named type takes steps of the walk. -/
abbrev EnterTakesSteps (setup : Setup) (enter : Enter) : Prop :=
  ∀ path scope rule g, setup.schema.GroupPasses g → TakesWalkSteps setup (enter path scope rule g)

theorem buildElement_takesWalkSteps (hvalid : setup.schema.validate = .ok ()) {e : Element}
    (he : setup.schema.ElementPasses e) (path : String) (scope : Nat) (force : Bool)
    {inside : ResolvedType → String → Option ElementRule → Inside}
    (hinside : InsideTakesSteps setup inside e) :
    TakesWalkSteps setup (buildElement setup e path scope force inside) := by
  obtain ⟨type, hresolve, htype⟩ := Schema.resolveType_passes hvalid he
  unfold buildElement
  simp only [hresolve, ofSchema, pure_bind]
  refine Confined.get.bind fun s => ?_
  split
  · exact (cutOff_takesQuietSteps e _ _).toWalk
  · split
    · split
      · exact (record_takesQuietSteps .omitted).toWalk.bind fun _ => .pure _
      · exact .pure _
    · exact buildEach_takesWalkSteps e _
        (buildOccurrence_takesWalkSteps e htype _ _ _ _ (hinside type hresolve htype _ _)) _

theorem repeatStep_takesWalkSteps {body : Run (List NodeChild)} (hbody : TakesWalkSteps setup body)
    (count : Nat) : TakesWalkSteps setup (repeatStep body count) := by
  induction count with
  | zero => exact .pure _
  | succ count ih =>
      unfold repeatStep
      refine hbody.bind fun own => isHalted_takesQuietSteps.toWalk.bind fun halted => ?_
      split
      · exact .pure _
      · exact ih.bind fun _ => .pure _

theorem chooseFreely_takesQuietSteps (path : String) (branches : List Branch) :
    TakesQuietSteps setup (chooseFreely setup path branches) := by
  unfold chooseFreely
  split
  · exact .pure _
  · exact (TakesQuietSteps.of_tentativeSteps (draw_takesTentativeSteps _)).bind fun _ =>
      (follow_takesQuietSteps _).bind fun _ => .pure _

theorem chooseBranch_takesQuietSteps (path : String) (rule : Option ElementRule)
    (members : List Particle) : TakesQuietSteps setup (chooseBranch setup path rule members) := by
  refine Confined.get.bind fun s => (followAll_takesQuietSteps _).bind fun _ => ?_
  dsimp only
  split
  · exact .pure _
  · split
    · exact chooseFreely_takesQuietSteps path _
    · split
      · exact (follow_takesQuietSteps _).bind fun _ => .pure _
      · exact (warn_takesQuietSteps _).bind fun _ => chooseFreely_takesQuietSteps path _

theorem insideNamed_takesWalkSteps {enter : Enter} (henter : EnterTakesSteps setup enter)
    {type : ResolvedType} (htype : setup.schema.TypePasses type) (path : String)
    (rule : Option ElementRule) (scope : Nat) :
    TakesWalkSteps setup (insideNamed enter type path rule scope) := by
  unfold insideNamed
  split
  · rename_i g hg
    exact henter path scope rule g (htype.content g hg)
  · exact .pure _

section Members

variable {enter : Enter} {path : String} {scope : Nat} {rule : Option ElementRule}

theorem walkAll_takesWalkSteps {members : List Particle}
    (hmembers : ∀ p ∈ members, ∀ force,
      TakesWalkSteps setup (walkParticle setup enter path scope rule force p)) :
    TakesWalkSteps setup (walkAll setup enter path scope rule members) := by
  induction members with
  | nil => exact .pure _
  | cons p rest ih =>
      have hrest := ih fun q hq => hmembers q (List.mem_cons_of_mem _ hq)
      unfold walkAll
      refine (hmembers p List.mem_cons_self false).bind fun own => ?_
      refine isHalted_takesQuietSteps.toWalk.bind fun halted => ?_
      split
      · exact .pure _
      · exact hrest.bind fun _ => .pure _

theorem walkNth_takesWalkSteps {members : List Particle}
    (hmembers : ∀ p ∈ members, ∀ force,
      TakesWalkSteps setup (walkParticle setup enter path scope rule force p)) (position : Nat) :
    TakesWalkSteps setup (walkNth setup enter path scope rule position members) := by
  induction members generalizing position with
  | nil => exact .pure _
  | cons p rest ih =>
      cases position with
      | zero => exact hmembers p List.mem_cons_self true
      | succ position => exact ih (fun q hq => hmembers q (List.mem_cons_of_mem _ hq)) position

theorem walkGroup_takesWalkSteps_of_members {decl : GroupDecl} {members : List Particle}
    (hmembers : ∀ p ∈ members, ∀ force,
      TakesWalkSteps setup (walkParticle setup enter path scope rule force p)) (force : Bool) :
    TakesWalkSteps setup (walkGroup setup enter path scope rule force (.mk decl members)) := by
  unfold walkGroup
  refine repeatStep_takesWalkSteps ?_ _
  split
  · refine (chooseBranch_takesQuietSteps path rule members).toWalk.bind fun position => ?_
    split
    · exact walkNth_takesWalkSteps hmembers _
    · exact .pure _
  · exact walkAll_takesWalkSteps hmembers

end Members

/-- All members of groups that are in order take steps of the walk. -/
theorem members_takeWalkSteps (hvalid : setup.schema.validate = .ok ()) {enter : Enter}
    (henter : EnterTakesSteps setup enter) :
    (∀ e, setup.schema.ElementPasses e → ∀ path scope force,
      TakesWalkSteps setup (walkElement setup enter path scope force e)) ∧
    (∀ g, setup.schema.GroupPasses g → ∀ path scope rule force,
      TakesWalkSteps setup (walkGroup setup enter path scope rule force g)) ∧
    ∀ p, setup.schema.ParticlePasses p → ∀ path scope rule force,
      TakesWalkSteps setup (walkParticle setup enter path scope rule force p) := by
  apply tree_induction
  · intro decl he path scope force
    unfold walkElement
    exact buildElement_takesWalkSteps hvalid he path scope force fun type _ htype path rule scope =>
      insideNamed_takesWalkSteps henter htype path rule scope
  · intro decl g ih he path scope force
    unfold walkElement
    exact buildElement_takesWalkSteps hvalid he path scope force fun _ _ _ path rule scope =>
      ih (Schema.content_passes he) path scope rule false
  · intro decl members ih hg path scope rule force
    exact walkGroup_takesWalkSteps_of_members (fun p hp force =>
      ih p hp (Schema.member_passes hg p hp) path scope rule force) force
  · intro e ih he path scope rule force
    unfold walkParticle
    exact ih he path scope force
  · intro g ih hg path scope rule force
    unfold walkParticle
    exact ih hg path scope rule force

/-! ## Documents -/

theorem enterWithin_takesWalkSteps (hvalid : setup.schema.validate = .ok ()) (budget : Nat) :
    EnterTakesSteps setup (enterWithin setup budget) := by
  induction budget with
  | zero => exact fun _ _ _ _ _ => .pure _
  | succ budget ih =>
      exact fun path scope rule g hg => (members_takeWalkSteps hvalid ih).2.1 g hg path scope rule false

theorem insideOf_takesWalkSteps (hvalid : setup.schema.validate = .ok ()) {e : Element}
    (he : setup.schema.ElementPasses e) {type : ResolvedType} (htype : setup.schema.TypePasses type)
    (path : String) (rule : Option ElementRule) (scope : Nat) :
    TakesWalkSteps setup (insideOf setup e type path rule scope) := by
  cases e with
  | mk decl content =>
      cases content with
      | none => exact insideNamed_takesWalkSteps (enterWithin_takesWalkSteps hvalid _) htype path rule scope
      | some g =>
          exact (members_takeWalkSteps hvalid (enterWithin_takesWalkSteps hvalid _)).2.1 g
            (Schema.content_passes he) path scope rule false

theorem buildIn_takesWalkSteps (hvalid : setup.schema.validate = .ok ()) {e : Element}
    (he : setup.schema.ElementPasses e) (parentPath : String) (uri : Option String) (scope : Nat) :
    TakesWalkSteps setup (buildIn setup e parentPath uri scope) := by
  obtain ⟨type, hresolve, htype⟩ := Schema.resolveType_passes hvalid he
  unfold buildIn
  simp only [hresolve, ofSchema, pure_bind]
  refine Confined.get.bind fun s => ?_
  split
  · exact (follow_takesQuietSteps _).toWalk.bind fun _ => .pure _
  · exact buildOccurrence_takesWalkSteps e htype _ _ uri scope fun scope =>
      insideOf_takesWalkSteps hvalid he htype _ _ scope

/-- Building a document takes only steps of the walk, and fails only when a leaf fails or the budget runs
out. -/
theorem buildDocument_takesWalkSteps (hvalid : setup.schema.validate = .ok ()) {root : Element}
    (hroot : setup.schema.ElementPasses root) : TakesWalkSteps setup (buildDocument setup root) := by
  refine openScope_takesQuietSteps.toWalk.bind fun scope => ?_
  refine (buildIn_takesWalkSteps hvalid hroot "" _ scope).bind fun node => ?_
  split
  · exact .pure _
  · exact .pure _

end Walk
end Specimen
