import Specimen.Proofs.Run.Refusals
import Specimen.Proofs.Schema.Positions
import Specimen.Proofs.Walk.Limits
import Specimen.Proofs.Walk.Occurrences

/-!
# Two walks side by side

Two walks below one schema may have other limits and rules, find their named types in another list, build
occurrences in another way, and enter named types in another way.  They do the same if this makes no
difference where the walk can come: at the elements that the schema leads to through types that the guard
admits, while the types on the way to them are open.

The induction over groups is done here, once for all statements that compare two walks.  It also keeps what was
refused: `may` is any condition on types that holds wherever the guard refuses one.
-/

namespace Specimen

open Run

namespace Walk

variable {setup : Setup} {root : Element} {may : String → Prop} {stack : List String}

/-! ## Where the walk can come -/

/-- A type may be opened while others are open. -/
def Admits (setup : Setup) (stack : List String) (type : ResolvedType) : Prop :=
  ∃ s : RunState, s.openTypes = stack ∧ refused? setup s type = none

/-- The elements that the walk can come to, with the types that are then open. -/
inductive Visits (setup : Setup) (root : Element) :
    (path : String) → (stack : List String) → Element → Prop where
  | root : Visits setup root (joinPath "" root.name) [] root
  | child {path : String} {stack : List String} {e : Element} {type : ResolvedType} {g : Group}
      {c : Element} (he : Visits setup root path stack e) (htype : setup.schema.resolveType e = .ok type)
      (hcontent : type.content = .complex g) (hadmits : Admits setup stack type) (hc : c ∈ g.declared) :
      Visits setup root (joinPath path c.name) (type.identity.toList ++ stack) c

/-- The groups inside which the walk can come, with the types that are then open. -/
def Enters (setup : Setup) (root : Element) (path : String) (stack : List String) (g : Group) : Prop :=
  ∃ e outer type, Visits setup root path outer e ∧ setup.schema.resolveType e = .ok type ∧
    type.content = .complex g ∧ Admits setup outer type ∧ stack = type.identity.toList ++ outer

/-- The walk can come to each of several elements below a path. -/
abbrev VisitsAll (setup : Setup) (root : Element) (path : String) (stack : List String)
    (declared : List Element) : Prop :=
  ∀ c ∈ declared, Visits setup root (joinPath path c.name) stack c

theorem Visits.reaches {path : String} {e : Element} (h : Visits setup root path stack e) :
    setup.schema.Reaches root path stack e := by
  induction h with
  | root => exact .root
  | child _ htype hcontent _ hc ih => exact .child ih htype hcontent hc

theorem Enters.visitsAll {path : String} {g : Group} (h : Enters setup root path stack g) :
    VisitsAll setup root path stack g.declared := by
  obtain ⟨e, outer, type, he, htype, hcontent, hadmits, rfl⟩ := h
  exact fun c hc => .child he htype hcontent hadmits hc

/-! ## Calm parts of the walk -/

theorem step_isCalm (path : String) : IsCalm (step setup path) := by
  have htick : IsCalm (tick setup.options) := by
    have hcount := record_isCalm (fun r => { r with steps := r.steps + 1 }) fun _ => rfl
    refine hcount.bind fun _ => Confined.get.bind fun s => ?_
    dsimp only
    split
    · exact .throw trivial
    · exact .pure ()
  have hstop : ∀ n : Notice, n.code ≠ "depth_limit" →
      IsCalm (do record (.truncate n); modify RunState.halt; return false) := fun n hn =>
    (truncate_isCalm hn).bind fun _ =>
      Confined.bind (.modify fun _ => .single (.of_kept rfl rfl rfl)) fun _ => .pure _
  refine Confined.tryCatch (htick.bind fun _ => .pure _) fun e _ => ?_
  dsimp only
  split
  · exact Confined.bind (.throw trivial) fun _ => hstop _ (by simp)
  · exact hstop _ (by simp)

theorem buildAttributes_isCalm (owner : String) (scope : Nat) (attributes : List AttributeDecl) :
    IsCalm (buildAttributes setup owner scope attributes) := by
  induction attributes with
  | nil => exact .pure _
  | cons a rest ih =>
      unfold buildAttributes
      dsimp only
      split
      · exact (record_isCalm .countOmitted fun _ => rfl).bind fun _ => ih
      · have hvalue : IsCalm (attributeValue setup a (owner ++ "/@" ++ a.name) scope) :=
          (ofSchema_isCalm _).bind fun _ => (Leaf.resolve_takesValueSteps setup _).isCalm
        exact hvalue.bind fun _ => (record_isCalm .countAttribute fun _ => rfl).bind fun _ =>
          ih.bind fun _ => .pure _

theorem becomesNil_isCalm (e : Element) (path : String) (rule : Option ElementRule) :
    IsCalm (becomesNil e path rule) := by
  unfold becomesNil
  split
  · exact .pure _
  · split
    · exact .pure _
    · exact (warn_isCalm _).bind fun _ => .pure _

theorem isHalted_isCalm : IsCalm isHalted := Confined.get.bind fun _ => .pure _

theorem chooseFreely_isCalm (path : String) (branches : List Branch) :
    IsCalm (chooseFreely setup path branches) := by
  unfold chooseFreely
  split
  · exact .pure _
  · exact (draw_isCalm _).bind fun _ => (follow_isCalm rfl).bind fun _ => .pure _

/-! ## Occurrences of an element -/

theorem within_alike {α : Type} {m m' : Run α} {type : Option String}
    (h : AlikeAt may (type.toList ++ stack) m m') :
    AlikeAt may stack (within type m) (within type m') := by
  cases type with
  | none => exact h
  | some identity =>
      intro s hs
      obtain ⟨hsame, hkind⟩ := h (s.pushType identity) (hs.pushType identity)
      change ((m.exec (s.pushType identity)).1, (m.exec (s.pushType identity)).2.popType) =
          ((m'.exec (s.pushType identity)).1, (m'.exec (s.pushType identity)).2.popType) ∧
        (m'.exec (s.pushType identity)).2.popType.Guarded may stack
      rw [hsame]
      exact ⟨rfl, hkind.popType⟩

theorem buildContent_alike (e : Element) {type : ResolvedType} (path : String) (head : NodeHead)
    (parentScope : Nat) {m m' : Run (List NodeChild)}
    (h : ∀ g, type.content = .complex g → AlikeAt may (type.identity.toList ++ stack) m m') :
    AlikeAt may stack (buildContent setup e type path head parentScope m)
      (buildContent setup e type path head parentScope m') := by
  have htext : ∀ f, IsCalm (leafText setup e path f parentScope) := fun f =>
    (Leaf.resolve_takesValueSteps setup _).isCalm
  unfold buildContent
  cases hcontent : type.content with
  | builtin p => exact ((htext _).bind fun _ => .pure _).alike
  | simple f => exact ((htext _).bind fun _ => .pure _).alike
  | empty => exact .pure _
  | complex g => exact (within_alike (h g hcontent)).bind fun _ => .pure _

theorem buildOccurrence_alike (e : Element) {type : ResolvedType} (path : String)
    (rule : Option ElementRule) (uri : Option String) (parentScope : Nat) {inside inside' : Inside}
    (h : ∀ g, type.content = .complex g → ∀ scope,
      AlikeAt may (type.identity.toList ++ stack) (inside scope) (inside' scope)) :
    AlikeAt may stack (buildOccurrence setup e type path rule uri parentScope inside)
      (buildOccurrence setup e type path rule uri parentScope inside') := by
  unfold buildOccurrence
  refine (step_isCalm path).alike.bind fun goesOn => ?_
  split
  · exact .pure _
  · refine openScope_isCalm.alike.bind fun scope => ?_
    refine (record_isCalm .countElement fun _ => rfl).alike.bind fun _ => ?_
    refine (buildAttributes_isCalm path scope _).alike.bind fun attributes => ?_
    refine (becomesNil_isCalm e path rule).alike.bind fun nil => ?_
    split
    · exact .pure _
    · refine (buildContent_alike e path _ parentScope fun g hg => h g hg scope).bind fun node => ?_
      exact isHalted_isCalm.alike.bind fun halted => .pure _

variable {v : Variation} {occur : Occur}

theorem buildEach_alike (hcomments : v.comments = setup.plan.settings.includeComments) (e : Element)
    (count : Nat) {m m' : Run (Option Node)} (h : AlikeAt may stack m m') (left : Nat) :
    AlikeAt may stack (buildEach (setup.vary v) e count m left)
      (buildEach setup e count m' left) := by
  induction left with
  | zero => exact .pure _
  | succ left ih =>
      unfold buildEach
      rw [occurrenceComment_vary setup v hcomments]
      refine h.bind fun built => isHalted_isCalm.alike.bind fun halted => ?_
      split
      · exact .pure _
      · exact ih.bind fun _ => .pure _

theorem cutOff_alike (hcomments : v.comments = setup.plan.settings.includeComments) (e : Element)
    (path : String) {identity : String} (hmay : may identity) :
    AlikeAt may stack (cutOff (setup.vary v) e path identity)
      (cutOff setup e path identity) := by
  rw [cutOff_vary setup v hcomments]
  refine .get_bind fun s hs => ?_
  have hfollow : ∀ event : TraceEvent, event.refusedType? = some identity →
      AlikeAt may stack (follow event) (follow event) := by
    intro event hevent t ht
    refine ⟨rfl, ht.refuse fun type htype => ?_⟩
    rw [hevent] at htype
    exact Option.some.inj htype ▸ hmay
  have hnotice : ∀ n, AlikeAt may stack (record (.truncate n)) (record (.truncate n)) :=
    fun n t ht => ⟨rfl, ht.truncate hmay n⟩
  exact (hfollow _ rfl).bind fun _ => (hnotice _).bind fun _ => .pure _

/-! ## A walk beside the walk -/

/-- A walk with other limits and rules that builds occurrences in another way.  It finds the same types of elements,
and it writes comments if the setup does.  Where the walk can come, its guard decides as that of the setup, it has
the same rules, and an occurrence is built as the setup builds it. -/
structure Beside (setup : Setup) (root : Element) (v : Variation) (occur : Occur) : Prop where
  resolves : ∀ e, (setup.vary v).schema.resolveType e = setup.schema.resolveType e
  refuses : ∀ {path stack e type s}, Visits setup root path stack e →
    setup.schema.resolveType e = .ok type → s.openTypes = stack →
      refused? (setup.vary v) s type = refused? setup s type
  rules : ∀ {path stack e}, Visits setup root path stack e → setup.Rules v e.name path
  comments : v.comments = setup.plan.settings.includeComments
  occurs : ∀ {path stack e type s}, Visits setup root path stack e →
    setup.schema.resolveType e = .ok type → s.openTypes = stack → ∀ rule uri scope inside,
      (occur e type path rule uri scope inside).exec s =
        (buildOccurrence setup e type path rule uri scope inside).exec s

theorem beside_self : Beside setup root setup.variation (buildOccurrence setup) := by
  constructor
  · exact fun _ => rfl
  · intro path stack e type s _ _ _
    rfl
  · intro path stack e _
    rfl
  · rfl
  · intro path stack e type s _ _ _ rule uri scope inside
    rfl

/-- Where the walk can come, the guard refuses only types that may be refused. -/
def RefusesIn (setup : Setup) (root : Element) (may : String → Prop) : Prop :=
  ∀ ⦃path stack e type s identity⦄, Visits setup root path stack e →
    setup.schema.resolveType e = .ok type → s.openTypes = stack →
      refused? setup s type = some identity → may identity

theorem refusesIn_true : RefusesIn setup root fun _ => True := fun _ _ _ _ _ _ _ _ _ _ => trivial

/-- All that is built inside an element is built alike. -/
abbrev InsideAlike (setup : Setup) (may : String → Prop) (stack : List String) (path : String)
    (e : Element) (inside inside' : ResolvedType → String → Option ElementRule → Inside) : Prop :=
  ∀ type g, setup.schema.resolveType e = .ok type → type.content = .complex g →
    Admits setup stack type → ∀ rule scope,
      AlikeAt may (type.identity.toList ++ stack) (inside type path rule scope)
        (inside' type path rule scope)

/-- While one more type is open, named types are entered alike. -/
abbrev EnterAlike (setup : Setup) (root : Element) (may : String → Prop) (stack : List String)
    (enter enter' : Enter) : Prop :=
  ∀ identity path g, Enters setup root path (identity :: stack) g → ∀ scope rule,
    AlikeAt may (identity :: stack) (enter path scope rule g) (enter' path scope rule g)

section Beside

variable (hmay : RefusesIn setup root may) (hbeside : Beside setup root v occur)

include hbeside

theorem occur_alike {path : String} {e : Element} (he : Visits setup root path stack e)
    {inside inside' : ResolvedType → String → Option ElementRule → Inside}
    (h : InsideAlike setup may stack path e inside inside') {type : ResolvedType}
    (hresolve : setup.schema.resolveType e = .ok type) (hadmits : Admits setup stack type)
    (rule : Option ElementRule) (uri : Option String) (scope : Nat) :
    AlikeAt may stack (occur e type path rule uri scope (inside type path rule))
      (buildOccurrence setup e type path rule uri scope (inside' type path rule)) := by
  intro s hs
  rw [hbeside.occurs he hresolve hs.opened]
  exact buildOccurrence_alike e path rule uri scope
    (fun g hg scope => h type g hresolve hg hadmits rule scope) s hs

include hmay

theorem buildElement_alike {parentPath : String} {e : Element}
    (he : Visits setup root (joinPath parentPath e.name) stack e)
    {inside inside' : ResolvedType → String → Option ElementRule → Inside}
    (h : InsideAlike setup may stack (joinPath parentPath e.name) e inside inside') (scope : Nat)
    (force : Bool) :
    AlikeAt may stack
      (buildElementWith (setup.vary v) occur e parentPath scope force inside)
      (buildElementWith setup (buildOccurrence setup) e parentPath scope force inside') := by
  have hrule : setup.Rules v e.name (joinPath parentPath e.name) := hbeside.rules he
  unfold buildElementWith
  simp only [hbeside.resolves, hrule, occurrenceCount_vary setup v hrule]
  cases hresolve : setup.schema.resolveType e with
  | error error => exact .throw_bind (.schema error) _ _
  | ok type =>
    simp only [ofSchema, pure_bind]
    refine .get_bind fun s hs => ?_
    rw [hbeside.refuses he hresolve hs.opened]
    cases hrefused : refused? setup s type with
    | some identity => exact cutOff_alike hbeside.comments e _ (hmay he hresolve hs.opened hrefused)
    | none =>
        have hadmits : Admits setup stack type := ⟨s, hs.opened, hrefused⟩
        dsimp only
        split
        · split
          · exact (record_isCalm .countOmitted fun _ => rfl).alike.bind fun _ => .pure _
          · exact .pure _
        · exact buildEach_alike hbeside.comments e _ (occur_alike hbeside he h hresolve hadmits _ _ scope) _

/-! ## Members of groups -/

omit hmay hbeside in
theorem repeatStep_alike {m m' : Run (List NodeChild)} (h : AlikeAt may stack m m') (count : Nat) :
    AlikeAt may stack (repeatStep m count) (repeatStep m' count) := by
  induction count with
  | zero => exact .pure _
  | succ count ih =>
      unfold repeatStep
      refine h.bind fun own => isHalted_isCalm.alike.bind fun halted => ?_
      split
      · exact .pure _
      · exact ih.bind fun _ => .pure _

section Choices

variable {path : String} {members : List Particle}
  (hmembers : VisitsAll setup root path stack (declaredAmong members)) {s : RunState}
  (hopen : s.openTypes = stack)

include hmembers hopen

omit hmay in
theorem cutType?_beside : ∀ p ∈ members, cutType? (setup.vary v) s p = cutType? setup s p := by
  intro p hp
  cases p with
  | group g => rfl
  | element e =>
      have he := hmembers e (mem_declaredAmong hp (List.mem_singleton_self e))
      unfold cutType?
      cases hresolve : setup.schema.resolveType e with
      | error error => simp only [hbeside.resolves, hresolve]
      | ok type =>
          simp only [hbeside.resolves, hresolve]
          exact hbeside.refuses he hresolve hopen

omit hbeside in
/-- Only types that may be refused cut off members of a choice. -/
theorem may_of_cutType? {p : Particle} (hp : p ∈ members) {identity : String}
    (hcut : cutType? setup s p = some identity) : may identity := by
  cases p with
  | group g => cases hcut
  | element e =>
      have he := hmembers e (mem_declaredAmong hp (List.mem_singleton_self e))
      unfold cutType? at hcut
      dsimp only at hcut
      cases hresolve : setup.schema.resolveType e with
      | error error =>
          rw [hresolve] at hcut
          cases hcut
      | ok type =>
          rw [hresolve] at hcut
          exact hmay he hresolve hopen hcut

end Choices

theorem chooseBranch_alike {path : String} {members : List Particle}
    (hmembers : VisitsAll setup root path stack (declaredAmong members)) (rule : Option ElementRule) :
    AlikeAt may stack (chooseBranch (setup.vary v) path rule members)
      (chooseBranch setup path rule members) := by
  unfold chooseBranch
  refine .get_bind fun s hs => ?_
  have hcut := cutType?_beside hbeside hmembers hs.opened
  have hevents : members.filterMap (cutType? (setup.vary v) s) =
      members.filterMap (cutType? setup s) := List.filterMap_congr hcut
  have heligible : eligible (setup.vary v) s members = eligible setup s members := by
    refine List.filter_congr fun b hb => ?_
    rw [hcut b.1 (List.fst_mem_of_mem_zipIdx hb)]
  have hfollow : ∀ events : List TraceEvent,
      (∀ e ∈ events, ∀ type, e.refusedType? = some type → may type) →
        AlikeAt may stack (followAll events) (followAll events) :=
    fun events hall t ht => ⟨rfl, ht.refuseAll hall⟩
  rw [hevents, heligible]
  refine (hfollow _ ?_).bind fun _ => ?_
  · intro event hevent type htype
    obtain ⟨identity, hidentity, rfl⟩ := List.mem_map.1 hevent
    cases htype
    obtain ⟨p, hp, hcutp⟩ := List.mem_filterMap.1 hidentity
    exact may_of_cutType? hmay hmembers hs.opened hp hcutp
  · simp only [chooseFreely_vary]
    have hcalm : IsCalm (chooseFreely setup path (eligible setup s members)) := chooseFreely_isCalm path _
    split
    · exact .pure _
    · split
      · exact hcalm.alike
      · split
        · exact (follow_isCalm rfl).alike.bind fun _ => .pure _
        · exact (warn_isCalm _).alike.bind fun _ => hcalm.alike

section Members

variable {enter enter' : Enter} {path : String} {scope : Nat} {rule : Option ElementRule}
  {members : List Particle}

/-- A member below a path is walked alike. -/
abbrev MemberAlike (setup : Setup) (may : String → Prop) (stack : List String) (v : Variation)
    (occur : Occur) (enter enter' : Enter) (path : String) (p : Particle) : Prop :=
  ∀ scope rule force, AlikeAt may stack
    (walkParticleWith (setup.vary v) occur enter path scope rule force p)
    (walkParticleWith setup (buildOccurrence setup) enter' path scope rule force p)

omit hmay hbeside in
theorem walkAll_alike (h : ∀ p ∈ members, MemberAlike setup may stack v occur enter enter' path p) :
    AlikeAt may stack (walkAllWith (setup.vary v) occur enter path scope rule members)
      (walkAllWith setup (buildOccurrence setup) enter' path scope rule members) := by
  induction members with
  | nil => exact .pure _
  | cons p rest ih =>
      have hrest := ih fun q hq => h q (List.mem_cons_of_mem _ hq)
      unfold walkAllWith
      refine (h p List.mem_cons_self scope rule false).bind fun own => ?_
      refine isHalted_isCalm.alike.bind fun halted => ?_
      split
      · exact .pure _
      · exact hrest.bind fun _ => .pure _

omit hmay hbeside in
theorem walkNth_alike (h : ∀ p ∈ members, MemberAlike setup may stack v occur enter enter' path p)
    (position : Nat) :
    AlikeAt may stack
      (walkNthWith (setup.vary v) occur enter path scope rule position members)
      (walkNthWith setup (buildOccurrence setup) enter' path scope rule position members) := by
  rw [walkNthWith_eq, walkNthWith_eq]
  cases hp : members[position]? with
  | none => exact .pure _
  | some p => exact h p (List.mem_of_getElem? hp) scope rule true

theorem walkGroup_alike_of_members (decl : GroupDecl)
    (hmembers : VisitsAll setup root path stack (declaredAmong members))
    (h : ∀ p ∈ members, MemberAlike setup may stack v occur enter enter' path p) (force : Bool) :
    AlikeAt may stack
      (walkGroupWith (setup.vary v) occur enter path scope rule force (.mk decl members))
      (walkGroupWith setup (buildOccurrence setup) enter' path scope rule force (.mk decl members)) := by
  have hcount := groupCount_vary setup v (.mk decl members) (fun c hc => hbeside.rules (hmembers c hc)) force
  by_cases hkind : decl.kind = .choice
  · rw [walkGroupWith_of_choice _ _ _ hkind, walkGroupWith_of_choice _ _ _ hkind, hcount]
    refine repeatStep_alike ((chooseBranch_alike hmay hbeside hmembers rule).bind fun chosen => ?_) _
    cases chosen with
    | none => exact .pure _
    | some position => exact walkNth_alike h position
  · rw [walkGroupWith_of_ne_choice _ _ _ hkind, walkGroupWith_of_ne_choice _ _ _ hkind, hcount]
    exact repeatStep_alike (walkAll_alike h) _

omit hmay hbeside in
theorem insideNamed_alike {decl : ElementDecl} (he : Visits setup root path stack (.mk decl none))
    (henter : EnterAlike setup root may stack enter enter') :
    InsideAlike setup may stack path (.mk decl none) (insideNamed enter) (insideNamed enter') := by
  intro type g hresolve hcontent hadmits rule scope
  obtain ⟨identity, hidentity⟩ := Schema.identity_of_resolveType hresolve hcontent
  have henters : Enters setup root path (identity :: stack) g :=
    ⟨_, stack, type, he, hresolve, hcontent, hadmits, by rw [hidentity]; rfl⟩
  unfold insideNamed
  rw [hcontent, hidentity]
  exact henter identity path g henters scope rule

omit hmay hbeside in
theorem insideAnonymous_alike {decl : ElementDecl} {g : Group}
    (he : Visits setup root path stack (.mk decl (some g)))
    {walk walk' : String → Nat → Option ElementRule → Run (List NodeChild)}
    (h : VisitsAll setup root path stack g.declared →
      ∀ scope rule, AlikeAt may stack (walk path scope rule) (walk' path scope rule)) :
    InsideAlike setup may stack path (.mk decl (some g))
      (fun _ path rule scope => walk path scope rule)
      (fun _ path rule scope => walk' path scope rule) := by
  intro type g' hresolve hcontent hadmits rule scope
  have hvisits : VisitsAll setup root path (type.identity.toList ++ stack) g'.declared :=
    fun c hc => .child he hresolve hcontent hadmits hc
  obtain ⟨rfl, hidentity⟩ := Schema.content_of_resolveType hresolve hcontent
  rw [hidentity] at hvisits ⊢
  exact h hvisits scope rule

/-- Elements, groups and members are walked alike where the walk can come, when named types are entered
alike. -/
theorem members_alike (henter : EnterAlike setup root may stack enter enter') :
    (∀ e path, Visits setup root (joinPath path e.name) stack e → ∀ scope force,
      AlikeAt may stack
        (walkElementWith (setup.vary v) occur enter path scope force e)
        (walkElementWith setup (buildOccurrence setup) enter' path scope force e)) ∧
    (∀ g path, VisitsAll setup root path stack g.declared → ∀ scope rule force,
      AlikeAt may stack
        (walkGroupWith (setup.vary v) occur enter path scope rule force g)
        (walkGroupWith setup (buildOccurrence setup) enter' path scope rule force g)) ∧
    ∀ p path, VisitsAll setup root path stack p.declared →
      MemberAlike setup may stack v occur enter enter' path p := by
  apply tree_induction
  · intro decl path he scope force
    unfold walkElementWith
    exact buildElement_alike hmay hbeside he (insideNamed_alike he henter) scope force
  · intro decl g ih path he scope force
    unfold walkElementWith
    exact buildElement_alike hmay hbeside he
      (insideAnonymous_alike he fun hvisits scope rule => ih _ hvisits scope rule false) scope force
  · intro decl members ih path hvisits scope rule force
    refine walkGroup_alike_of_members hmay hbeside decl hvisits (fun p hp => ?_) force
    exact ih p hp path fun c hc => hvisits c (mem_declaredAmong hp hc)
  · intro e ih path hvisits scope rule force
    unfold walkParticleWith
    exact ih path (hvisits e (List.mem_singleton_self e)) scope force
  · intro g ih path hvisits scope rule force
    unfold walkParticleWith
    exact ih path hvisits scope rule force

end Members

/-! ## Documents -/

theorem enterWithin_alike (budget : Nat) (stack : List String) :
    EnterAlike setup root may stack (enterWithinWith (setup.vary v) occur budget)
      (enterWithinWith setup (buildOccurrence setup) budget) := by
  induction budget generalizing stack with
  | zero => exact fun _ _ _ _ _ _ => .pure _
  | succ budget ih =>
      intro identity path g henters scope rule
      exact (members_alike hmay hbeside (ih (identity :: stack))).2.1 g path henters.visitsAll scope rule
        false

section Document

variable {enter enter' : Enter} (henter : EnterAlike setup root may [] enter enter')

include henter

theorem buildIn_alike (uri : Option String) (scope : Nat) :
    AlikeAt may [] (buildInWith (setup.vary v) occur enter root "" uri scope)
      (buildInWith setup (buildOccurrence setup) enter' root "" uri scope) := by
  have hroot : Visits setup root (joinPath "" root.name) [] root := .root
  have hinside : InsideAlike setup may [] (joinPath "" root.name) root
      (insideWith (setup.vary v) occur enter root)
      (insideWith setup (buildOccurrence setup) enter' root) := by
    cases root with
    | mk decl content =>
        cases content with
        | none => exact insideNamed_alike hroot henter
        | some g =>
            exact insideAnonymous_alike hroot fun hvisits scope rule =>
              (members_alike hmay hbeside henter).2.1 g _ hvisits scope rule false
  have hrule : setup.Rules v root.name (joinPath "" root.name) := hbeside.rules hroot
  unfold buildInWith
  simp only [hbeside.resolves, hrule]
  cases hresolve : setup.schema.resolveType root with
  | error error => exact .throw_bind (.schema error) _ _
  | ok type =>
    simp only [ofSchema, pure_bind]
    refine .get_bind fun s hs => ?_
    rw [hbeside.refuses hroot hresolve hs.opened]
    cases hrefused : refused? setup s type with
    | none => exact occur_alike hbeside hroot hinside hresolve ⟨s, hs.opened, hrefused⟩ _ uri scope
    | some identity =>
        have hidentity : may identity := hmay hroot hresolve hs.opened hrefused
        have hfollow : AlikeAt may [] (follow (.passedOver (joinPath "" root.name) identity))
            (follow (.passedOver (joinPath "" root.name) identity)) := by
          intro t ht
          refine ⟨rfl, ht.refuse fun type htype => ?_⟩
          cases htype
          exact hidentity
        exact hfollow.bind fun _ => .pure _

/-- A walk beside the walk of a setup builds the same document. -/
theorem buildDocument_alike :
    AlikeAt may [] (buildDocumentWith (setup.vary v) occur enter root)
      (buildDocumentWith setup (buildOccurrence setup) enter' root) := by
  refine openScope_isCalm.alike.bind fun scope => ?_
  refine (buildIn_alike hmay hbeside henter _ scope).bind fun built => ?_
  cases built with
  | none => exact .pure _
  | some node => exact .pure _

end Document
end Beside
end Walk
end Specimen
