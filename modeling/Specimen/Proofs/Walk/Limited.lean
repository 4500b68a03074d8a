import Specimen.Proofs.Document.Outline
import Specimen.Proofs.Run.Limited
import Specimen.Proofs.Walk.Inversion
import Specimen.Proofs.Walk.Limits

/-!
# A limited walk

The walk below a budget follows the walk without one.  Only a step of the walk looks at the budget; the
values, the attributes, the choices and the counts of the two walks are the same, so the two run side by
side until the budget is exceeded.  From there on the limited walk adds nothing to what it has, which is
cut short of what the other walk builds.
-/

open Relation (ReflTransGen)

namespace Specimen

open Run

/-- A setup with another budget. -/
def Setup.withBudget (setup : Setup) (steps : UInt64) (allowPartial : Bool) : Setup :=
  { setup with options := { setup.options with maxSteps := steps, allowPartial } }

@[simp] theorem Setup.withBudget_plan (setup : Setup) (steps : UInt64) (allowPartial : Bool) :
    (setup.withBudget steps allowPartial).plan = setup.plan := rfl

namespace Walk

variable {setup : Setup} {budget : UInt64} {keep : Bool}

/-! ## What does not depend on the budget -/

section Policy

variable (setup budget keep)

@[simp] theorem buildAttributes_withBudget (owner : String) (scope : Nat)
    (attributes : List AttributeDecl) :
    buildAttributes (setup.withBudget budget keep) owner scope attributes =
      buildAttributes setup owner scope attributes :=
  buildAttributes_withLimits setup { setup.limits with steps := budget, allowPartial := keep } owner scope
    attributes

@[simp] theorem leafText_withBudget (e : Element) (path : String) (facets : Facets) (scope : Nat) :
    leafText (setup.withBudget budget keep) e path facets scope = leafText setup e path facets scope :=
  leafText_withLimits setup { setup.limits with steps := budget, allowPartial := keep } e path facets scope

@[simp] theorem groupCount_withBudget (g : Group) (path : String) (force : Bool) :
    groupCount (setup.withBudget budget keep) g path force = groupCount setup g path force :=
  groupCount_withLimits setup { setup.limits with steps := budget, allowPartial := keep } g path force

@[simp] theorem chooseFreely_withBudget (path : String) (branches : List Branch) :
    chooseFreely (setup.withBudget budget keep) path branches = chooseFreely setup path branches :=
  chooseFreely_withLimits setup { setup.limits with steps := budget, allowPartial := keep } path branches

@[simp] theorem chooseBranch_withBudget (path : String) (rule : Option ElementRule)
    (members : List Particle) :
    chooseBranch (setup.withBudget budget keep) path rule members =
      chooseBranch setup path rule members := by
  unfold chooseBranch
  simp only [chooseFreely_withBudget]
  rfl

end Policy

/-! ## Steps -/

/-- The state after one more step was counted. -/
def countStep (s : RunState) : RunState :=
  { s with report := { s.report with steps := s.report.steps + 1 } }

theorem exec_tick (options : Options) (s : RunState) :
    (tick options).exec s =
      if options.isExceededBy (s.report.steps + 1) then
        (.error (.timeout (s.report.steps + 1)), countStep s)
      else (.ok (), countStep s) := by
  change (get >>= fun t => if options.isExceededBy t.report.steps then throw (.timeout t.report.steps)
    else pure () : Run Unit).exec (countStep s) = _
  rw [exec_get_bind]
  change (if options.isExceededBy (s.report.steps + 1) then _ else _ : Run Unit).exec _ = _
  split <;> rfl

theorem exec_step_of_within {s : RunState} (path : String)
    (h : setup.options.isExceededBy (s.report.steps + 1) = false) :
    (step setup path).exec s = (.ok true, countStep s) := by
  have htick : (tick setup.options).exec s = (.ok (), countStep s) := by
    rw [exec_tick, h]
    rfl
  unfold step
  rw [exec_tryCatch, exec_bind_of_ok htick]
  rfl

theorem exec_step_of_exceeded {s : RunState} (path : String)
    (h : setup.options.isExceededBy (s.report.steps + 1) = true) :
    if setup.options.allowPartial then
      ∃ t, (step setup path).exec s = (.ok false, t) ∧ t.halted = true ∧
        t.report.steps = s.report.steps + 1
    else (step setup path).exec s = (.error (.timeout (s.report.steps + 1)), countStep s) := by
  have htick : (tick setup.options).exec s =
      (.error (.timeout (s.report.steps + 1)), countStep s) := by
    rw [exec_tick, h]
    rfl
  have hfail : (tick setup.options >>= fun _ => pure true).exec s =
      (.error (.timeout (s.report.steps + 1)), countStep s) := exec_bind_of_error htick
  unfold step
  rw [exec_tryCatch, hfail]
  dsimp only
  cases hpartial : setup.options.allowPartial with
  | true => exact ⟨_, rfl, rfl, rfl⟩
  | false => rfl

theorem step_goesForward (path : String) : GoesForward (step setup path) where
  steps s := by
    refine .single ?_
    cases hexceeded : setup.options.isExceededBy (s.report.steps + 1) with
    | false =>
        rw [exec_step_of_within path hexceeded]
        exact ⟨Nat.le_succ _, id⟩
    | true =>
        have hstep := exec_step_of_exceeded path hexceeded
        split at hstep
        · obtain ⟨t, hrun, hhalted, hsteps⟩ := hstep
          rw [hrun]
          exact ⟨hsteps ▸ Nat.le_succ _, fun _ => hhalted⟩
        · rw [hstep]
          exact ⟨Nat.le_succ _, id⟩
  fails _ _ _ := trivial

variable (budget keep) in
theorem isExceededBy_withBudget (htimeless : setup.options.timeoutMs = none) (steps : Nat) :
    (setup.withBudget budget keep).options.isExceededBy steps = decide (budget.toNat < steps) := by
  change (decide (budget.toNat < steps) || setup.options.timeoutMs.any _) = _
  rw [htimeless, Option.any_none, Bool.or_false]

/-- A step that the full walk takes and goes on is taken by the limited walk as well, or it stops there. -/
theorem step_follows (htimeless : setup.options.timeoutMs = none) (path : String) :
    Follows budget.toNat keep (fun goesOn' goesOn => goesOn' = false ∧ goesOn = true)
      (step (setup.withBudget budget keep) path) (step setup path) := by
  have htaken : ∀ {s a t}, (step setup path).exec s = (.ok a, t) → t.halted = false →
      a = true ∧ t = countStep s := by
    intro s a t hrun hgoing
    cases hexceeded : setup.options.isExceededBy (s.report.steps + 1) with
    | false =>
        rw [exec_step_of_within path hexceeded] at hrun
        cases hrun
        exact ⟨rfl, rfl⟩
    | true =>
        have hstep := exec_step_of_exceeded path hexceeded
        split at hstep
        · obtain ⟨t', hrun', hhalted, -⟩ := hstep
          rw [hrun'] at hrun
          cases hrun
          rw [hhalted] at hgoing
          cases hgoing
        · rw [hstep] at hrun
          cases hrun
  have hlimit := isExceededBy_withBudget budget keep htimeless
  refine ⟨step_goesForward path, ?_, ?_⟩
  · intro s a t hrun hgoing hle
    obtain ⟨rfl, rfl⟩ := htaken hrun hgoing
    exact exec_step_of_within path (by rw [hlimit]; simpa [countStep] using hle)
  · intro s a t hrun hgoing hs hlt
    obtain ⟨rfl, rfl⟩ := htaken hrun hgoing
    have hsteps : s.report.steps = budget.toNat := by
      change budget.toNat < s.report.steps + 1 at hlt
      omega
    have hexceeded : (setup.withBudget budget keep).options.isExceededBy (s.report.steps + 1) = true := by
      rw [hlimit]
      exact decide_eq_true hlt
    have hstep := exec_step_of_exceeded path hexceeded
    change if keep then _ else _ at hstep
    unfold StopsShort
    cases keep with
    | true =>
        obtain ⟨t, hrun', hhalted, -⟩ := hstep
        exact ⟨false, t, hrun', hhalted, rfl, rfl⟩
    | false =>
        rw [hsteps] at hstep
        exact ⟨_, hstep⟩

/-! ## Occurrences of an element -/

theorem buildAttributes_isUncounted (owner : String) (scope : Nat) (attributes : List AttributeDecl) :
    IsUncounted (buildAttributes setup owner scope attributes) := by
  induction attributes with
  | nil => exact .pure _
  | cons a rest ih =>
      unfold buildAttributes
      dsimp only
      split
      · exact (record_isUncounted .countOmitted fun _ => rfl).bind fun _ => ih
      · have hvalue : IsUncounted (attributeValue setup a (owner ++ "/@" ++ a.name) scope) :=
          (IsUncounted.ofSchema _).bind fun _ => (Leaf.resolve_takesValueSteps setup _).isUncounted
        exact hvalue.bind fun _ => (record_isUncounted .countAttribute fun _ => rfl).bind fun _ =>
          ih.bind fun _ => .pure _

theorem becomesNil_isUncounted (e : Element) (path : String) (rule : Option ElementRule) :
    IsUncounted (becomesNil e path rule) := by
  unfold becomesNil
  split
  · exact .pure _
  · split
    · exact .pure _
    · exact (warn_isUncounted _).bind fun _ => .pure _

/-- What was built below a limit is cut short of what the full walk builds. -/
abbrev CutAmong (cs' cs : List NodeChild) : Prop := CutShort (outlineAmong cs') (outlineAmong cs)

theorem within_follows {limited full : Run (List NodeChild)}
    (h : Follows budget.toNat keep CutAmong limited full) (type : Option String) :
    Follows budget.toNat keep CutAmong (within type limited) (within type full) := by
  cases type with
  | none => exact h
  | some identity =>
      have hexec : ∀ (m : Run (List NodeChild)) s, (within (some identity) m).exec s =
          ((m.exec (s.pushType identity)).1, (m.exec (s.pushType identity)).2.popType) :=
        fun _ _ => rfl
      have hinside : ∀ {m : Run (List NodeChild)} {s a t},
          (within (some identity) m).exec s = (.ok a, t) →
          ∃ u, m.exec (s.pushType identity) = (.ok a, u) ∧ t = u.popType := by
        intro m s a t hrun
        rw [hexec] at hrun
        rcases hbody : m.exec (s.pushType identity) with ⟨r, u⟩
        rw [hbody] at hrun
        cases hrun
        exact ⟨u, rfl, rfl⟩
      refine ⟨⟨fun s => ?_, fun _ _ _ => trivial⟩, ?_, ?_⟩
      · have hlater := RunState.Later.of_chain (h.forward.steps (s.pushType identity))
        rw [hexec]
        exact .single ⟨hlater.steps, hlater.halted⟩
      · intro s a t hrun hgoing hle
        obtain ⟨u, hbody, rfl⟩ := hinside hrun
        rw [hexec, h.same hbody hgoing hle]
      · intro s a t hrun hgoing hs hlt
        obtain ⟨u, hbody, rfl⟩ := hinside hrun
        have hshort := h.short hbody hgoing hs hlt
        unfold StopsShort at hshort ⊢
        cases keep with
        | true =>
            obtain ⟨a', u', hrun', hhalted, hcut⟩ := hshort
            exact ⟨a', u'.popType, by rw [hexec, hrun'], hhalted, hcut⟩
        | false =>
            obtain ⟨u', hrun'⟩ := hshort
            exact ⟨u'.popType, by rw [hexec, hrun']⟩

theorem buildContent_follows (e : Element) (type : ResolvedType) (path : String) (head : NodeHead)
    (parentScope : Nat) {limited full : Run (List NodeChild)}
    (h : Follows budget.toNat keep CutAmong limited full) :
    Follows budget.toNat keep (fun n' n => CutShort n'.outline n.outline)
      (buildContent (setup.withBudget budget keep) e type path head parentScope limited)
      (buildContent setup e type path head parentScope full) := by
  have htext : ∀ f, IsUncounted (leafText setup e path f parentScope) := fun f =>
    (Leaf.resolve_takesValueSteps setup _).isUncounted
  unfold buildContent
  split
  · simp only [leafText_withBudget]
    exact .refl ((htext _).bind fun _ => .pure _)
  · simp only [leafText_withBudget]
    exact .refl ((htext _).bind fun _ => .pure _)
  · refine (within_follows h type.identity).map fun cs' cs hcut => ?_
    rw [Node.outline_mk, Node.outline_mk]
    exact hcut.append_left [head.unmarked]
  · exact .pure _

theorem openScope_isUncounted : IsUncounted openScope := .modifyGet fun _ => .single ⟨rfl, rfl⟩

theorem isHalted_isUncounted : IsUncounted isHalted := Confined.get.bind fun _ => .pure _

theorem buildOccurrence_follows (htimeless : setup.options.timeoutMs = none) (e : Element)
    (type : ResolvedType) (path : String) (rule : Option ElementRule) (uri : Option String)
    (parentScope : Nat) {limited full : Inside}
    (h : ∀ scope, Follows budget.toNat keep CutAmong (limited scope) (full scope)) :
    Follows budget.toNat keep (fun n' n => CutShort (outlineOf n') (outlineOf n))
      (buildOccurrence (setup.withBudget budget keep) e type path rule uri parentScope limited)
      (buildOccurrence setup e type path rule uri parentScope full) := by
  -- an element whose own step is not taken is missing; the full walk goes on and builds it
  suffices hpart : Follows budget.toNat keep
      (fun n' n => n' = none ∨ CutShort (outlineOf n') (outlineOf n))
      (buildOccurrence (setup.withBudget budget keep) e type path rule uri parentScope limited)
      (buildOccurrence setup e type path rule uri parentScope full) by
    refine hpart.mono fun s n t n' hrun hgoing hn' => ?_
    rcases hn' with rfl | hcut
    · have hbuilt : ∃ node, n = some node := by
        rcases buildOccurrence_eq_ok hrun with ⟨-, hhalted, -⟩ | ⟨_, _, _, _, -, -, hcases⟩
        · rw [hgoing] at hhalted
          cases hhalted
        · rcases hcases with ⟨-, -, hnil⟩ | ⟨_, _, -, -, hnode⟩
          · exact ⟨_, hnil⟩
          · exact ⟨_, hnode⟩
      obtain ⟨node, rfl⟩ := hbuilt
      rw [outlineOf_none, outlineOf_some]
      exact .of_outline node
    · exact hcut
  unfold buildOccurrence
  refine (step_follows htimeless path).bind (fun goesOn => ?_) ?_
  · cases goesOn with
    | false => exact .pure _
    | true =>
        refine .bind_uncounted openScope_isUncounted fun scope => ?_
        refine .bind_uncounted (record_isUncounted .countElement fun _ => rfl) fun _ => ?_
        simp only [buildAttributes_withBudget]
        refine .bind_uncounted (buildAttributes_isUncounted path scope type.attributes) fun attributes => ?_
        refine .bind_uncounted (becomesNil_isUncounted e path rule) fun nil => ?_
        split
        · exact .pure _
        · refine (buildContent_follows e type path _ parentScope (h scope)).bind (fun node => ?_) ?_
          · exact .refl (isHalted_isUncounted.bind fun _ => .pure _)
          · intro n' n t' t b u hcut hhalted hlast hgoing
            obtain ⟨halted, t₁, hhalted', hlast⟩ := exec_bind_eq_ok.1 hlast
            obtain ⟨rfl, rfl⟩ := isHalted_eq_ok hhalted'
            obtain ⟨rfl, rfl⟩ := exec_pure_eq_ok.1 hlast
            refine ⟨some n'.truncate, t', ?_, hhalted, ?_⟩
            · change (Except.ok (some (if t'.halted = true then n'.truncate else n')), t') = _
              rw [if_pos hhalted]
            · right
              simpa [hgoing] using hcut
  · rintro _ _ t' t b u ⟨rfl, rfl⟩ hhalted hlast hgoing
    exact ⟨none, t', rfl, hhalted, .inl rfl⟩

/-- Children that are built one after the other, until the walk is stopped. -/
theorem andThen_follows {α : Type} {part : α → α → Prop} {limited full : Run α}
    {own : α → List NodeChild} {limited' full' : Run (List NodeChild)}
    (h : Follows budget.toNat keep part limited full)
    (hown : ∀ a' a, part a' a → CutAmong (own a') (own a))
    (hrest : Follows budget.toNat keep CutAmong limited' full') :
    Follows budget.toNat keep CutAmong
      (limited >>= fun a => isHalted >>= fun halted =>
        if halted = true then pure (own a) else limited' >>= fun more => pure (own a ++ more))
      (full >>= fun a => isHalted >>= fun halted =>
        if halted = true then pure (own a) else full' >>= fun more => pure (own a ++ more)) := by
  refine h.bind (fun a => .bind_uncounted isHalted_isUncounted fun halted => ?_) ?_
  · split
    · exact .pure _
    · refine hrest.map fun cs' cs hcut => ?_
      unfold CutAmong
      rw [outlineAmong_append, outlineAmong_append]
      exact hcut.append_left _
  · intro a' a t' t cs u hpart hhalted hlast _
    refine ⟨own a', t', ?_, hhalted, ?_⟩
    · change (if t'.halted = true then pure (own a') else _ : Run (List NodeChild)).exec t' = _
      rw [if_pos hhalted]
      rfl
    · rcases unlessHalted_eq_ok hlast with ⟨-, rfl, -⟩ | ⟨-, more, -, rfl⟩
      · exact hown a' a hpart
      · unfold CutAmong
        rw [outlineAmong_append]
        exact (hown a' a hpart).append_right _

theorem buildEach_follows (e : Element) (count : Nat) {limited full : Run (Option Node)}
    (h : Follows budget.toNat keep (fun n' n => CutShort (outlineOf n') (outlineOf n)) limited full)
    (left : Nat) :
    Follows budget.toNat keep CutAmong (buildEach (setup.withBudget budget keep) e count limited left)
      (buildEach setup e count full left) := by
  induction left with
  | zero => exact .pure _
  | succ left ih =>
      refine andThen_follows h (fun n' n hcut => ?_) ih
      unfold CutAmong
      rw [outlineAmong_append, outlineAmong_append]
      exact hcut.append_left _

theorem cutOff_isUncounted (e : Element) (path identity : String) :
    IsUncounted (cutOff setup e path identity) :=
  Confined.get.bind fun _ => Confined.bind (.modify fun _ => .single ⟨rfl, rfl⟩) fun _ =>
    (record_isUncounted (.truncate _) fun _ => rfl).bind fun _ => .pure _

/-! ## Members of groups -/

/-- Below a limit, what is built inside an element follows what the full walk builds inside it. -/
abbrev InsideFollows (budget : UInt64) (keep : Bool)
    (limited full : ResolvedType → String → Option ElementRule → Inside) : Prop :=
  ∀ type path rule scope,
    Follows budget.toNat keep CutAmong (limited type path rule scope) (full type path rule scope)

/-- Below a limit, what is built inside a named type follows what the full walk builds inside it. -/
abbrev EnterFollows (budget : UInt64) (keep : Bool) (limited full : Enter) : Prop :=
  ∀ path scope rule g, Follows budget.toNat keep CutAmong (limited path scope rule g)
    (full path scope rule g)

theorem buildElement_follows (htimeless : setup.options.timeoutMs = none) (e : Element)
    (path : String) (scope : Nat) (force : Bool)
    {limited full : ResolvedType → String → Option ElementRule → Inside}
    (h : InsideFollows budget keep limited full) :
    Follows budget.toNat keep CutAmong
      (buildElement (setup.withBudget budget keep) e path scope force limited)
      (buildElement setup e path scope force full) := by
  unfold buildElement
  refine .bind_uncounted (IsUncounted.ofSchema _) fun type => ?_
  refine .bind_uncounted .get fun s => ?_
  have hrefused : refused? (setup.withBudget budget keep) s type = refused? setup s type := rfl
  rw [hrefused]
  cases refused? setup s type with
  | some identity => exact .refl (cutOff_isUncounted e _ _)
  | none =>
      dsimp only
      have hcount : ∀ path rule, occurrenceCount (setup.withBudget budget keep) e path rule force =
          occurrenceCount setup e path rule force := fun _ _ => rfl
      rw [hcount, Setup.withBudget_plan]
      split
      · split
        · exact .refl ((record_isUncounted .countOmitted fun _ => rfl).bind fun _ => .pure _)
        · exact .pure _
      · exact buildEach_follows e _ (buildOccurrence_follows htimeless e type _ _ _ scope (h type _ _)) _

theorem repeatStep_follows {limited full : Run (List NodeChild)}
    (h : Follows budget.toNat keep CutAmong limited full) (count : Nat) :
    Follows budget.toNat keep CutAmong (repeatStep limited count) (repeatStep full count) := by
  induction count with
  | zero => exact .pure _
  | succ count ih => exact andThen_follows h (fun _ _ => id) ih

theorem chooseBranch_isUncounted (path : String) (rule : Option ElementRule)
    (members : List Particle) : IsUncounted (chooseBranch setup path rule members) := by
  have hfollow : ∀ e, IsUncounted (follow e) := fun _ => .modify fun _ => .single ⟨rfl, rfl⟩
  have hfree : ∀ branches, IsUncounted (chooseFreely setup path branches) := by
    intro branches
    unfold chooseFreely
    split
    · exact .pure _
    · have hdraw : IsUncounted (draw (Random.Draw.index branches.length)) :=
        .modifyGet fun _ => .single ⟨rfl, rfl⟩
      exact hdraw.bind fun _ =>
        (hfollow _).bind fun _ => .pure _
  refine Confined.get.bind fun s => Confined.bind (.modify fun _ => .single ⟨rfl, rfl⟩) fun _ => ?_
  dsimp only
  split
  · exact .pure _
  · split
    · exact hfree _
    · split
      · exact (hfollow _).bind fun _ => .pure _
      · exact (warn_isUncounted _).bind fun _ => hfree _

section Members

variable {limited full : Enter} {path : String} {scope : Nat} {rule : Option ElementRule}

/-- Below a limit, the walk of a member follows the full walk of it. -/
abbrev MemberFollows (setup : Setup) (budget : UInt64) (keep : Bool) (limited full : Enter)
    (path : String) (scope : Nat) (rule : Option ElementRule) (p : Particle) : Prop :=
  ∀ force, Follows budget.toNat keep CutAmong
    (walkParticle (setup.withBudget budget keep) limited path scope rule force p)
    (walkParticle setup full path scope rule force p)

theorem walkAll_follows {members : List Particle}
    (h : ∀ p ∈ members, MemberFollows setup budget keep limited full path scope rule p) :
    Follows budget.toNat keep CutAmong
      (walkAll (setup.withBudget budget keep) limited path scope rule members)
      (walkAll setup full path scope rule members) := by
  induction members with
  | nil => exact .pure _
  | cons p rest ih =>
      exact andThen_follows (h p List.mem_cons_self false) (fun _ _ => id)
        (ih fun q hq => h q (List.mem_cons_of_mem _ hq))

theorem walkNth_follows {members : List Particle}
    (h : ∀ p ∈ members, MemberFollows setup budget keep limited full path scope rule p)
    (position : Nat) :
    Follows budget.toNat keep CutAmong
      (walkNth (setup.withBudget budget keep) limited path scope rule position members)
      (walkNth setup full path scope rule position members) := by
  induction members generalizing position with
  | nil => exact .pure _
  | cons p rest ih =>
      cases position with
      | zero => exact h p List.mem_cons_self true
      | succ position => exact ih (fun q hq => h q (List.mem_cons_of_mem _ hq)) position

theorem walkGroup_follows_of_members {decl : GroupDecl} {members : List Particle}
    (h : ∀ p ∈ members, MemberFollows setup budget keep limited full path scope rule p)
    (force : Bool) :
    Follows budget.toNat keep CutAmong
      (walkGroup (setup.withBudget budget keep) limited path scope rule force (.mk decl members))
      (walkGroup setup full path scope rule force (.mk decl members)) := by
  by_cases hkind : decl.kind = .choice
  · rw [walkGroup_of_choice _ _ _ _ _ _ hkind, walkGroup_of_choice _ _ _ _ _ _ hkind,
      groupCount_withBudget, chooseBranch_withBudget]
    refine repeatStep_follows (.bind_uncounted (chooseBranch_isUncounted path rule members) ?_) _
    intro chosen
    cases chosen with
    | none => exact .pure _
    | some position => exact walkNth_follows h position
  · rw [walkGroup_of_ne_choice _ _ _ _ _ _ hkind, walkGroup_of_ne_choice _ _ _ _ _ _ hkind,
      groupCount_withBudget]
    exact repeatStep_follows (walkAll_follows h) _

end Members

/-- Below a limit, the walk of all members follows the full walk of them. -/
theorem members_follow (htimeless : setup.options.timeoutMs = none) {limited full : Enter}
    (henter : EnterFollows budget keep limited full) :
    (∀ e path scope force, Follows budget.toNat keep CutAmong
      (walkElement (setup.withBudget budget keep) limited path scope force e)
      (walkElement setup full path scope force e)) ∧
    (∀ g path scope rule force, Follows budget.toNat keep CutAmong
      (walkGroup (setup.withBudget budget keep) limited path scope rule force g)
      (walkGroup setup full path scope rule force g)) ∧
    ∀ p path scope rule, MemberFollows setup budget keep limited full path scope rule p := by
  apply tree_induction
  · intro decl path scope force
    unfold walkElement
    refine buildElement_follows htimeless _ path scope force fun type path rule scope => ?_
    unfold insideNamed
    split
    · exact henter path scope rule _
    · exact .pure _
  · intro decl g ih path scope force
    unfold walkElement
    exact buildElement_follows htimeless _ path scope force fun _ path rule scope =>
      ih path scope rule false
  · intro decl members ih path scope rule force
    exact walkGroup_follows_of_members (fun p hp => ih p hp path scope rule) force
  · intro e ih path scope rule force
    unfold walkParticle
    exact ih path scope force
  · intro g ih path scope rule force
    unfold walkParticle
    exact ih path scope rule force

/-! ## Documents -/

theorem enterWithin_follows (htimeless : setup.options.timeoutMs = none) (depth : Nat) :
    EnterFollows budget keep (enterWithin (setup.withBudget budget keep) depth)
      (enterWithin setup depth) := by
  induction depth with
  | zero => exact fun _ _ _ _ => .pure _
  | succ depth ih =>
      exact fun path scope rule g => (members_follow htimeless ih).2.1 g path scope rule false

theorem insideOf_follows (htimeless : setup.options.timeoutMs = none) (e : Element) :
    InsideFollows budget keep (insideOf (setup.withBudget budget keep) e) (insideOf setup e) := by
  intro type path rule scope
  cases e with
  | mk decl content =>
      cases content with
      | none =>
          change Follows _ _ _ (insideNamed _ type path rule scope) (insideNamed _ type path rule scope)
          unfold insideNamed
          split
          · exact enterWithin_follows htimeless _ path scope rule _
          · exact .pure _
      | some g => exact (members_follow htimeless (enterWithin_follows htimeless _)).2.1 g path scope rule false

variable (budget keep) in
theorem buildIn_follows (htimeless : setup.options.timeoutMs = none) (e : Element)
    (parentPath : String) (uri : Option String) (scope : Nat) :
    Follows budget.toNat keep (fun n' n => CutShort (outlineOf n') (outlineOf n))
      (buildIn (setup.withBudget budget keep) e parentPath uri scope)
      (buildIn setup e parentPath uri scope) := by
  unfold buildIn
  refine .bind_uncounted (IsUncounted.ofSchema _) fun type => .bind_uncounted .get fun s => ?_
  have hrefused : refused? (setup.withBudget budget keep) s type = refused? setup s type := rfl
  rw [hrefused]
  cases refused? setup s type with
  | some identity => exact .refl (Confined.bind (.modify fun _ => .single ⟨rfl, rfl⟩) fun _ => .pure _)
  | none =>
      exact buildOccurrence_follows htimeless e type _ _ uri scope (insideOf_follows htimeless e type _ _)

/-- An occurrence that is missing was not begun. -/
theorem step_of_buildOccurrence_eq_none {e : Element} {type : ResolvedType} {path : String}
    {rule : Option ElementRule} {uri : Option String} {parentScope : Nat} {inside : Inside}
    {s t : RunState}
    (h : (buildOccurrence setup e type path rule uri parentScope inside).exec s = (.ok none, t)) :
    (step setup path).exec s = (.ok false, t) := by
  obtain ⟨goesOn, t₀, hstep, h⟩ := exec_bind_eq_ok.1 h
  cases goesOn with
  | false =>
      cases h
      exact hstep
  | true =>
      obtain ⟨scope, t₁, -, h⟩ := exec_bind_eq_ok.1 h
      obtain ⟨_, t₂, -, h⟩ := exec_bind_eq_ok.1 h
      obtain ⟨attributes, t₃, -, h⟩ := exec_bind_eq_ok.1 h
      obtain ⟨nil, t₄, -, h⟩ := exec_bind_eq_ok.1 h
      split at h
      · cases h
      · obtain ⟨node, t₅, -, h⟩ := exec_bind_eq_ok.1 h
        obtain ⟨halted, t₆, -, h⟩ := exec_bind_eq_ok.1 h
        cases h

/-- When the limit leaves room for one more element, the limited walk begins the element that the full
walk builds. -/
theorem buildIn_ne_none (htimeless : setup.options.timeoutMs = none) {e : Element}
    {parentPath : String} {uri : Option String} {scope : Nat} {s t t' : RunState} {n : Node}
    {built : Option Node} (hroom : s.report.steps < budget.toNat)
    (hfull : (buildIn setup e parentPath uri scope).exec s = (.ok (some n), t))
    (hlimited : (buildIn (setup.withBudget budget keep) e parentPath uri scope).exec s =
      (.ok built, t')) : ∃ n', built = some n' := by
  unfold buildIn at hfull hlimited
  obtain ⟨type, s₁, htype, hbuild⟩ := exec_bind_eq_ok.1 hfull
  rw [exec_bind_of_ok (show (ofSchema ((setup.withBudget budget keep).schema.resolveType e)).exec s = _
    from htype), exec_get_bind] at hlimited
  rw [exec_get_bind] at hbuild
  have hsame : s₁ = s := by
    cases hresolve : setup.schema.resolveType e with
    | ok type => rw [hresolve] at htype; cases htype; rfl
    | error e => rw [hresolve] at htype; cases htype
  subst hsame
  have hrefused : refused? (setup.withBudget budget keep) s₁ type = refused? setup s₁ type := rfl
  rw [hrefused] at hlimited
  cases hcut : refused? setup s₁ type with
  | some identity =>
      rw [hcut] at hbuild
      obtain ⟨_, s₂, -, hnone⟩ := exec_bind_eq_ok.1 hbuild
      cases hnone
  | none =>
      rw [hcut] at hlimited
      cases built with
      | some n' => exact ⟨n', rfl⟩
      | none =>
          have hstep := step_of_buildOccurrence_eq_none hlimited
          have hwithin : (setup.withBudget budget keep).options.isExceededBy
              (s₁.report.steps + 1) = false := by
            rw [isExceededBy_withBudget budget keep htimeless]
            exact decide_eq_false (Nat.not_lt.2 hroom)
          rw [exec_step_of_within _ hwithin] at hstep
          cases hstep

/-- When the limit leaves room for the root, the limited walk builds the document of the full walk or
stops short within it. -/
theorem buildDocument_follows (htimeless : setup.options.timeoutMs = none) (root : Element)
    {s t : RunState} {n : Node} (hroom : s.report.steps < budget.toNat)
    (hrun : (buildDocument setup root).exec s = (.ok n, t)) (hgoing : t.halted = false) :
    (t.report.steps ≤ budget.toNat →
      (buildDocument (setup.withBudget budget keep) root).exec s = (.ok n, t)) ∧
    (budget.toNat < t.report.steps →
      StopsShort budget.toNat keep (fun n' => CutShort n'.outline n.outline)
        (buildDocument (setup.withBudget budget keep) root) s) := by
  obtain ⟨scope, s₁, hscope, hrun⟩ := exec_bind_eq_ok.1 hrun
  obtain ⟨built, s₂, hbuilt, hlast⟩ := exec_bind_eq_ok.1 hrun
  have hfollows := buildIn_follows budget keep htimeless root ""
    (root.decl.uri <|> setup.schema.targetNamespace) scope
  have hsteps : s₁.report.steps = s.report.steps :=
    (RunState.Uncounted.of_chain (openScope_isUncounted.steps_of_exec hscope)).steps
  have hend : s₂ = t := by
    cases built with
    | some n => exact (exec_pure_eq_ok.1 hlast).2
    | none => exact (exec_pure_eq_ok.1 hlast).2
  subst hend
  constructor
  · intro hle
    unfold buildDocument
    rw [exec_bind_of_ok hscope]
    exact (exec_bind_of_ok (hfollows.same hbuilt hgoing hle)).trans hlast
  · intro hlt
    refine .of_exec_eq hscope ?_
    have hshort := hfollows.short hbuilt hgoing (by omega) hlt
    unfold StopsShort at hshort ⊢
    cases keep with
    | false =>
        obtain ⟨t', hrun'⟩ := hshort
        exact ⟨t', exec_bind_of_error hrun'⟩
    | true =>
        obtain ⟨built', t', hrun', hhalted, hcut⟩ := hshort
        cases built with
        | none =>
            obtain ⟨h, more, hnil⟩ := hcut
            simp at hnil
        | some whole =>
            obtain ⟨n', rfl⟩ := buildIn_ne_none htimeless (by omega) hbuilt hrun'
            obtain ⟨rfl, -⟩ := exec_pure_eq_ok.1 hlast
            rw [outlineOf_some, outlineOf_some] at hcut
            exact ⟨n', t', (exec_bind_of_ok hrun').trans rfl, hhalted, hcut⟩

end Walk
end Specimen
