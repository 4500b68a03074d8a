import Specimen.Proofs.Run.Action

/-!
# Steps of a run

The changes that a run makes to its state, one at a time: those made for the value of a leaf, and those
of the walk.  Every invariant of a run is proved of single steps here and then holds along all of them.

No step touches the named types that are open; only the walk enters and leaves them, around a run of
steps that does not see it.
-/

open Relation (ReflTransGen)

namespace Specimen

/-- A count that the value of a leaf leads to. -/
inductive ValueCount : (Report → Report) → Prop where
  | value (source : String) : ValueCount (.countValue source)
  | generator (id : String) : ValueCount (.countGenerator id)
  | relationship (id : String) : ValueCount (.countRelationship id)
  | retry : ValueCount .countRetry
  | fallback : ValueCount .countFallback
  | warning (n : Notice) : ValueCount (.warn n)

/-- A change that is made for the value of a leaf. -/
inductive ValueStep (s : RunState) : RunState → Prop where
  | drew (rng : Random.Rng) : ValueStep s { s with rng }
  | picked (selection : SelectionState) (rng : Random.Rng) : ValueStep s { s with selection, rng }
  | related (relations : RelationState) : ValueStep s { s with relations }
  | used (scope : Nat) (path value : String) : ValueStep s (s.markUsed scope path value)
  | followed (e : TraceEvent) (hevent : e.isRefusal = false) :
      ValueStep s { s with trace := s.trace.push e }
  | counted (change : Report → Report) (hcount : ValueCount change) :
      ValueStep s { s with report := change s.report }

/-- Two states of the relationships of a run have settled the same values and picked the same records, and
the same instances come next. -/
structure RelationState.SameValues (a b : RelationState) : Prop where
  asked : b.asked = a.asked
  settled : b.settled = a.settled
  personas : b.personas = a.personas

namespace RelationState

theorem SameValues.trans {a b c : RelationState} (hab : a.SameValues b) (hbc : b.SameValues c) :
    a.SameValues c :=
  ⟨hbc.asked.trans hab.asked, hbc.settled.trans hab.settled, hbc.personas.trans hab.personas⟩

theorem sameValues_forgetRecords (s : RelationState) (id : String) :
    s.SameValues (s.forgetRecords id) := ⟨rfl, rfl, rfl⟩

theorem sameValues_useRecord (s : RelationState) (id : String) (record : Nat) :
    s.SameValues (s.useRecord id record) := by
  unfold useRecord
  dsimp only
  split
  · exact ⟨rfl, rfl, rfl⟩
  · exact ⟨rfl, rfl, rfl⟩

theorem sameValues_useCombination (s : RelationState) (id : String) (combination : List String) :
    s.SameValues (s.useCombination id combination) := ⟨rfl, rfl, rfl⟩

end RelationState

/-- A change on the way to a value that settles nothing. -/
def TentativeStep (s t : RunState) : Prop := ValueStep s t ∧ s.relations.SameValues t.relations

/-- A count that the walk makes. -/
inductive WalkCount : (Report → Report) → Prop where
  | step : WalkCount fun r => { r with steps := r.steps + 1 }
  | element : WalkCount .countElement
  | attribute : WalkCount .countAttribute
  | omitted : WalkCount .countOmitted
  | truncation (n : Notice) : WalkCount (.truncate n)

/-- A change that the walk makes. -/
inductive WalkStep (s : RunState) : RunState → Prop where
  | value {t : RunState} (hstep : ValueStep s t) : WalkStep s t
  | followed (e : TraceEvent) : WalkStep s { s with trace := s.trace.push e }
  | opened : WalkStep s { s with scopes := s.scopes + 1 }
  | counted (change : Report → Report) (hcount : WalkCount change) :
      WalkStep s { s with report := change s.report }
  | halted : WalkStep s s.halt

/-- A change of the walk that settles nothing. -/
def QuietStep (s t : RunState) : Prop := WalkStep s t ∧ s.relations.SameValues t.relations

namespace RunState

/-! ## Open types -/

theorem openTypes_of_walkStep {s t : RunState} (h : WalkStep s t) : t.openTypes = s.openTypes := by
  cases h with
  | value h => cases h <;> rfl
  | followed | opened | counted | halted => rfl

theorem openTypes_of_walkSteps {s t : RunState} (h : ReflTransGen WalkStep s t) :
    t.openTypes = s.openTypes := by
  induction h with
  | refl => rfl
  | tail _ hstep ih => exact (openTypes_of_walkStep hstep).trans ih

/-- The state with other types open. -/
def withOpen (s : RunState) (types : List String) : RunState := { s with openTypes := types }

theorem walkStep_withOpen {s t : RunState} (types : List String) (h : WalkStep s t) :
    WalkStep (s.withOpen types) (t.withOpen types) := by
  cases h with
  | value h =>
    cases h with
    | drew rng => exact .value (.drew rng)
    | picked selection rng => exact .value (.picked selection rng)
    | related relations => exact .value (.related relations)
    | used scope path value => exact .value (.used scope path value)
    | followed e hevent => exact .value (.followed e hevent)
    | counted change hcount => exact .value (.counted change hcount)
  | followed e => exact .followed e
  | opened => exact .opened
  | counted change hcount => exact .counted change hcount
  | halted => exact .halted

/-- A run of steps goes the same way whatever types are open. -/
theorem walkSteps_withOpen {s t : RunState} (types : List String) (h : ReflTransGen WalkStep s t) :
    ReflTransGen WalkStep (s.withOpen types) (t.withOpen types) :=
  h.lift (·.withOpen types) fun _ _ => walkStep_withOpen types

/-! ## What is kept -/

/-- The values that siblings have used are those from before and the one that is marked. -/
theorem isUsed_markUsed (s : RunState) (scope : Nat) (path value : String) (scope' : Nat) (path' value' : String) :
    (s.markUsed scope path value).isUsed scope' path' value' =
      (decide ((scope, path, value) = (scope', path', value')) || s.isUsed scope' path' value') := by
  unfold isUsed markUsed
  dsimp only
  rw [Std.HashMap.getD_insert]
  by_cases hplace : (scope, path) = (scope', path')
  · cases hplace
    rw [if_pos (beq_self_eq_true _), Std.HashSet.contains_insert]
    simp only [Bool.beq_eq_decide_eq, Prod.mk.injEq, true_and]
  · have hother : (scope, path, value) ≠ (scope', path', value') := by
      rintro ⟨⟩
      exact hplace rfl
    rw [if_neg (by simpa using hplace), decide_eq_false hother, Bool.false_or]

/-- What a later state has kept of an earlier one: that the walk was stopped, what was warned of, what was
followed, and what siblings have used. -/
structure Grows (s t : RunState) : Prop where
  halted : s.halted = true → t.halted = true
  warnings : ∀ n ∈ s.report.warnings, n ∈ t.report.warnings
  trace : ∀ e ∈ s.trace, e ∈ t.trace
  used : ∀ scope path value, s.isUsed scope path value = true → t.isUsed scope path value = true

namespace Grows

/-- A state has kept everything of one from which it differs in other things. -/
theorem of_same {s t : RunState} (hhalted : t.halted = s.halted) (hwarnings : t.report.warnings = s.report.warnings)
    (htrace : t.trace = s.trace) (hused : t.used = s.used) : s.Grows t where
  halted h := hhalted.trans h
  warnings n hn := hwarnings ▸ hn
  trace e he := htrace ▸ he
  used scope path value h := by rwa [isUsed, hused]

theorem refl (s : RunState) : s.Grows s := .of_same rfl rfl rfl rfl

theorem trans {s t u : RunState} (hst : s.Grows t) (htu : t.Grows u) : s.Grows u where
  halted h := htu.halted (hst.halted h)
  warnings n h := htu.warnings n (hst.warnings n h)
  trace e h := htu.trace e (hst.trace e h)
  used scope path value h := htu.used scope path value (hst.used scope path value h)

theorem of_markUsed (s : RunState) (scope : Nat) (path value : String) : s.Grows (s.markUsed scope path value) :=
  ⟨id, fun _ => id, fun _ => id, fun scope' path' value' h => by rw [isUsed_markUsed, h, Bool.or_true]⟩

theorem of_followed (s : RunState) (e : TraceEvent) : s.Grows { s with trace := s.trace.push e } :=
  ⟨id, fun _ => id, fun _ he => Array.mem_push_of_mem _ he, fun _ _ _ => id⟩

theorem of_valueStep {s t : RunState} (h : ValueStep s t) : s.Grows t := by
  cases h with
  | drew | picked | related => exact .of_same rfl rfl rfl rfl
  | used scope path value => exact of_markUsed s scope path value
  | followed e => exact of_followed s e
  | counted change hcount =>
    refine ⟨id, fun n hn => ?_, fun _ => id, fun _ _ _ => id⟩
    cases hcount with
    | warning => exact Array.mem_push_of_mem _ hn
    | value | generator | relationship | retry | fallback => exact hn

theorem of_walkStep {s t : RunState} (h : WalkStep s t) : s.Grows t := by
  cases h with
  | value h => exact of_valueStep h
  | followed e => exact of_followed s e
  | opened => exact .of_same rfl rfl rfl rfl
  | counted change hcount => cases hcount <;> exact .of_same rfl rfl rfl rfl
  | halted => exact ⟨fun _ => rfl, fun _ => id, fun _ => id, fun _ _ _ => id⟩

theorem of_walkSteps {s t : RunState} (h : ReflTransGen WalkStep s t) : s.Grows t := by
  induction h with
  | refl => exact refl s
  | tail _ hstep ih => exact ih.trans (of_walkStep hstep)

theorem of_valueSteps {s t : RunState} (h : ReflTransGen ValueStep s t) : s.Grows t :=
  of_walkSteps (ReflTransGen.mono (fun _ _ => WalkStep.value) _ _ h)

end Grows

/-- From one state to another the report was told of these notices, and of no others. -/
def Reports (s : RunState) (notices : List Notice) (t : RunState) : Prop :=
  t.report.warnings.toList = s.report.warnings.toList ++ notices

namespace Reports

variable {s t u : RunState} {notices more : List Notice}

theorem of_warnings (h : t.report.warnings = s.report.warnings) : s.Reports [] t := by
  unfold Reports
  rw [h, List.append_nil]

theorem trans (hst : s.Reports notices t) (htu : t.Reports more u) : s.Reports (notices ++ more) u := by
  unfold Reports at hst htu ⊢
  rw [htu, hst, List.append_assoc]

theorem mem (h : s.Reports notices t) {n : Notice} (hn : n ∈ notices) : n ∈ t.report.warnings := by
  rw [← Array.mem_toList_iff, h]
  exact List.mem_append_right _ hn

theorem of_warn {n : Notice} (h : (Run.warn n).exec s = (.ok (), t)) : s.Reports [n] t := by
  cases h
  exact Array.toList_push

end Reports

/-! ## Values that are kept -/

/-- Between two states nothing was settled; `K` says what else was kept. -/
structure QuietBy (K : RunState → RunState → Prop) (s t : RunState) : Prop where
  grows : K s t
  same : s.relations.SameValues t.relations

/-- Between two states nothing was settled. -/
abbrev Quiet (s t : RunState) : Prop := QuietBy Grows s t

/-- What is kept from each state to the next is kept along a run, as long as the state grows. -/
structure Kept (K : RunState → RunState → Prop) : Prop where
  of_grows : ∀ {s t : RunState}, s.Grows t → K s t
  trans : ∀ {s t u : RunState}, K s t → K t u → K s u

theorem kept_grows : Kept Grows := ⟨id, .trans⟩

namespace QuietBy

variable {K : RunState → RunState → Prop} {s t u : RunState}

theorem trans (hK : Kept K) (hst : s.QuietBy K t) (htu : t.QuietBy K u) : s.QuietBy K u :=
  ⟨hK.trans hst.grows htu.grows, hst.same.trans htu.same⟩

end QuietBy

namespace Quiet

theorem by_kept {K : RunState → RunState → Prop} {s t : RunState} (h : s.Quiet t) (hK : Kept K) :
    s.QuietBy K t := ⟨hK.of_grows h.grows, h.same⟩

theorem refl (s : RunState) : s.Quiet s := ⟨.refl s, rfl, rfl, rfl⟩

theorem trans {s t u : RunState} (hst : s.Quiet t) (htu : t.Quiet u) : s.Quiet u :=
  ⟨hst.grows.trans htu.grows, hst.same.trans htu.same⟩

theorem of_quietSteps {s t : RunState} (h : ReflTransGen QuietStep s t) : s.Quiet t := by
  induction h with
  | refl => exact refl s
  | tail _ hstep ih => exact ih.trans ⟨.of_walkStep hstep.1, hstep.2⟩

theorem of_tentativeSteps {s t : RunState} (h : ReflTransGen TentativeStep s t) : s.Quiet t :=
  of_quietSteps (ReflTransGen.mono (fun _ _ => And.imp_left WalkStep.value) _ _ h)

end Quiet

theorem walkSteps_of_quietSteps {s t : RunState} (h : ReflTransGen QuietStep s t) :
    ReflTransGen WalkStep s t :=
  ReflTransGen.mono (fun _ _ => And.left) _ _ h

/-! ## Stopped walks -/

/-- A walk that was stopped has left an unfinished document, and the report says so. -/
def StopsPartial (s : RunState) : Prop := s.halted = true → s.report.isPartial = true

theorem stopsPartial_of_walkStep {s t : RunState} (h : WalkStep s t) (hs : s.StopsPartial) :
    t.StopsPartial := by
  cases h with
  | value h =>
    cases h with
    | counted change hcount => cases hcount <;> exact hs
    | drew | picked | related | used | followed => exact hs
  | followed | opened => exact hs
  | counted change hcount => cases hcount <;> exact hs
  | halted => exact fun _ => rfl

theorem stopsPartial_of_walkSteps {s t : RunState} (h : ReflTransGen WalkStep s t)
    (hs : s.StopsPartial) : t.StopsPartial := by
  induction h with
  | refl => exact hs
  | tail _ hstep ih => exact stopsPartial_of_walkStep hstep ih

end RunState

/-! ## Actions that take these steps -/

namespace Run

variable {failure : RunError → Prop}

/-- An action takes only the steps that a value takes, and fails only in certain ways. -/
abbrev TakesValueSteps {α : Type} (failure : RunError → Prop) (m : Run α) : Prop :=
  Confined ValueStep failure m

/-- An action takes only steps that settle nothing, and fails only in certain ways. -/
abbrev TakesTentativeSteps {α : Type} (failure : RunError → Prop) (m : Run α) : Prop :=
  Confined TentativeStep failure m

theorem Confined.quiet {α : Type} {m : Run α} (hm : TakesTentativeSteps failure m) {s s' : RunState}
    {r : Except RunError α} (h : m.exec s = (r, s')) : s.Quiet s' :=
  .of_tentativeSteps (hm.steps_of_exec h)

theorem Confined.toValue {α : Type} {m : Run α} (h : TakesTentativeSteps failure m) :
    TakesValueSteps failure m :=
  h.mono (fun _ _ => And.left) fun _ => id

theorem tentative_of_valueStep {s t : RunState} (h : ValueStep s t) (hsame : t.relations = s.relations) :
    ReflTransGen TentativeStep s t :=
  .single ⟨h, by rw [hsame]; exact ⟨rfl, rfl, rfl⟩⟩

theorem record_takesTentativeSteps {change : Report → Report} (h : ValueCount change) :
    TakesTentativeSteps failure (record change) :=
  .modify fun _ => tentative_of_valueStep (.counted change h) rfl

theorem follow_takesTentativeSteps {e : TraceEvent} (h : e.isRefusal = false) :
    TakesTentativeSteps failure (follow e) :=
  .modify fun _ => tentative_of_valueStep (.followed e h) rfl

theorem warn_takesTentativeSteps (n : Notice) : TakesTentativeSteps failure (warn n) :=
  (follow_takesTentativeSteps rfl).bind fun _ => record_takesTentativeSteps (.warning n)

theorem draw_takesTentativeSteps {α : Type} (d : Random.Draw α) :
    TakesTentativeSteps failure (draw d) :=
  .modifyGet fun s => tentative_of_valueStep (.drew (d s.rng).2) rfl

theorem pick_takesTentativeSteps (path : String) (strategy : SelectionStrategy) (length : Nat) :
    TakesTentativeSteps failure (pick path strategy length) :=
  .modifyGet fun s =>
    let picked := s.selection.pick s.seed path strategy length s.rng
    tentative_of_valueStep (.picked picked.2.1 picked.2.2) rfl

theorem pickFrom_takesTentativeSteps {α : Type} (path : String) (strategy : SelectionStrategy)
    (candidates : List α) : TakesTentativeSteps failure (pickFrom path strategy candidates) :=
  (pick_takesTentativeSteps _ _ _).bind fun _ => .pure _

/-- A pick leaves the report and what relationships remember alone. -/
theorem pickFrom_frame {α : Type} {path : String} {strategy : SelectionStrategy} {candidates : List α}
    {picked : Option α} {s t : RunState} (h : (pickFrom path strategy candidates).exec s = (.ok picked, t)) :
    s.Reports [] t ∧ t.relations = s.relations := by
  cases h
  exact ⟨.of_warnings rfl, rfl⟩

/-- What is picked is one of the candidates. -/
theorem mem_of_pickFrom {α : Type} {path : String} {strategy : SelectionStrategy} {candidates : List α}
    {a : α} {s t : RunState} (h : (pickFrom path strategy candidates).exec s = (.ok (some a), t)) :
    a ∈ candidates := by
  obtain ⟨position, u, -, h⟩ := exec_bind_eq_ok.1 h
  obtain ⟨i, -, hi⟩ := Option.bind_eq_some_iff.1 (exec_pure_eq_ok.1 h).1
  exact List.mem_of_getElem? hi

theorem relate_takesValueSteps (change : RelationState → RelationState) :
    TakesValueSteps failure (relate change) :=
  .modify fun s => .single (.related (change s.relations))

/-- What relationships have used up may be forgotten or remembered. -/
theorem relate_takesTentativeSteps {change : RelationState → RelationState}
    (hchange : ∀ s : RelationState, s.SameValues (change s)) : TakesTentativeSteps failure (relate change) :=
  .modify fun s => .single ⟨.related (change s.relations), hchange s.relations⟩

theorem attempt_takesTentativeSteps {α : Type} (a : Attempt α)
    (hbroken : ∀ fault, failure (.broken (.computation fault))) :
    TakesTentativeSteps failure (attempt a) := by
  refine (draw_takesTentativeSteps _).bind fun result => ?_
  split
  · exact .throw (hbroken _)
  · exact .pure _

theorem ofContexts_takesTentativeSteps {α : Type} {found : Except ContextError α}
    (hfound : ∀ e, found = .error e → failure (.contexts e)) :
    TakesTentativeSteps failure (ofContexts found) := by
  cases found with
  | ok a => exact .pure a
  | error e => exact .throw (hfound e rfl)

end Run
end Specimen
