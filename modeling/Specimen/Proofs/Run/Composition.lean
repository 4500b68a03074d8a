import Specimen.Proofs.Run.Action

/-!
# Properties of composed actions

Leaves and relationships get their values by actions that are composed in many ways of few parts.  A property of
actions that the parts have, and that a composed action has when its parts do, is therefore one of all of them.
`Composable` lists what is asked of the property, and `Selective` that it is one of picks, too; what is said of leaves
and relationships is said once for all such properties.

Only personas take records, so what they remember and report of this is not among the parts.  A property that does
not look at this is `Unrestricted`, and then it is composable.
-/

namespace Specimen

/-- A change of the report does not look at what was warned of, and leaves it alone. -/
def Report.SparesWarnings (change : Report → Report) : Prop :=
  ∀ r warnings codes, change { r with warnings, warningsByCode := codes } =
    { change r with warnings, warningsByCode := codes }

theorem Report.SparesWarnings.warnings {change : Report → Report} (h : SparesWarnings change) (r : Report) :
    (change r).warnings = r.warnings := (congrArg Report.warnings (h r r.warnings r.warningsByCode) :)

/-- How many notices have each code. -/
def codesOf (notices : Array Notice) : Tally := notices.foldl (fun t n => t.bump n.code) {}

theorem codesOf_push (notices : Array Notice) (n : Notice) :
    codesOf (notices.push n) = (codesOf notices).bump n.code := Array.foldl_push

/-- Warnings that are told one after the other stand behind those before, and are all counted. -/
theorem Report.foldl_warn (notices : List Notice) (r : Report) :
    notices.foldl (fun r n => r.warn n) r =
      { r with
        warnings := r.warnings ++ notices.toArray
        warningsByCode := notices.foldl (fun t n => t.bump n.code) r.warningsByCode } := by
  induction notices generalizing r with
  | nil => simp
  | cons n rest ih =>
      rw [List.foldl_cons, ih]
      simp [warn]

/-- A source of values that is not a generator. -/
def IsGiven (source : String) : Prop := source ≠ "generator" ∧ source ≠ "fallback"

/-- Whether a notice says that all records were used. -/
def Notice.isExhausted (n : Notice) : Bool := n.code == "persona_pool_exhausted"

/-- Whether an event is about the records that personas take. -/
def TraceEvent.isOfRecords : TraceEvent → Bool
  | .picked .. => true
  | .warned n => n.isExhausted
  | _ => false

/-- Relationships remember the same records. -/
structure RelationState.SameRecords (s t : RelationState) : Prop where
  usedRecords : t.usedRecords = s.usedRecords
  personas : t.personas = s.personas

theorem RelationState.SameRecords.foldl {step : RelationState → String → RelationState}
    (hstep : ∀ (s : RelationState) f, s.SameRecords (step s f)) (fields : List String) (s : RelationState) :
    s.SameRecords (fields.foldl step s) := by
  induction fields generalizing s with
  | nil => exact ⟨rfl, rfl⟩
  | cons f rest ih =>
      have hrest := ih (step s f)
      exact ⟨hrest.usedRecords.trans (hstep s f).usedRecords, hrest.personas.trans (hstep s f).personas⟩

/-- Nothing was followed between two states, and relationships remember the same records. -/
structure RunState.SameRecords (s t : RunState) : Prop where
  relations : s.relations.SameRecords t.relations
  trace : t.trace = s.trace

theorem RunState.SameRecords.of_eq {s t : RunState} (hrelations : t.relations = s.relations)
    (htrace : t.trace = s.trace) : s.SameRecords t := ⟨hrelations ▸ ⟨rfl, rfl⟩, htrace⟩

/-- Nothing was picked between two states. -/
structure RunState.SamePicks (s t : RunState) : Prop where
  seed : t.seed = s.seed
  selection : t.selection = s.selection

namespace Run

/-- What is asked of a property of actions in any case: actions in a row have it when each of them does, they may
look at the state apart from the report, and they may count in the report what a value leads to unless a generator
makes it. -/
structure Sequential (K : (α : Type) → Run α → Prop) : Prop where
  pure : ∀ {α : Type} (a : α), K α (pure a)
  throw : ∀ {α : Type} (e : RunError), K α (throw e)
  bind : ∀ {α β : Type} {m : Run α} {f : α → Run β}, K α m → (∀ a, K β (f a)) → K β (m >>= f)
  look : ∀ {α : Type} {f : RunState → Run α}, (∀ s report, f { s with report } = f s) →
    (∀ s, K α (f s)) → K α (get >>= f)
  retry : K Unit (record .countRetry)
  relationship : ∀ id, K Unit (record (.countRelationship id))
  value : ∀ {source : String}, IsGiven source → K Unit (record (.countValue source))

/-- A property of actions that composed actions have when their parts do.  An action that has it may change the state
as far as the report, the trace, the remembered records and the picks are left alone, follow events and warn, all of
other things than records. -/
structure Composable (K : (α : Type) → Run α → Prop) : Prop extends Sequential K where
  modifyGet : ∀ {α : Type} {f : RunState → α × RunState},
    (∀ s report, f { s with report } = ((f s).1, { (f s).2 with report })) →
    (∀ s : RunState, s.SameRecords (f s).2) → (∀ s : RunState, s.SamePicks (f s).2) → K α (modifyGet f)
  followAll : ∀ {events : List TraceEvent}, (∀ e ∈ events, e.isOfRecords = false) → K Unit (followAll events)
  warn : ∀ {n : Notice}, n.isExhausted = false → K Unit (warn n)

/-- A property of composed actions that is one of picks as well, as far as they are for some paths and strategies. -/
structure Selective (P : String → SelectionStrategy → Prop) (K : (α : Type) → Run α → Prop) : Prop
    extends Composable K where
  pick : ∀ {path : String} {strategy : SelectionStrategy}, P path strategy →
    ∀ length, K (Option Nat) (pick path strategy length)

/-- Any path and any strategy. -/
abbrev AnyPick (_path : String) (_strategy : SelectionStrategy) : Prop := True

/-- A property of composed actions for which records make no difference. -/
structure Unrestricted (K : (α : Type) → Run α → Prop) : Prop extends Sequential K where
  modifyGet : ∀ {α : Type} {f : RunState → α × RunState},
    (∀ s report, f { s with report } = ((f s).1, { (f s).2 with report })) → K α (modifyGet f)
  warn : ∀ n, K Unit (warn n)

/-- A change that is the same whatever was reported leaves the report alone. -/
theorem report_of_same {α : Type} {f : RunState → α × RunState}
    (h : ∀ s report, f { s with report } = ((f s).1, { (f s).2 with report })) (s : RunState) :
    (f s).2.report = s.report := congrArg (·.2.report) (h s s.report)

theorem followAll_singleton (e : TraceEvent) : followAll [e] = follow e := rfl

namespace Unrestricted

variable {K : (α : Type) → Run α → Prop}

theorem modify (h : Unrestricted K) {f : RunState → RunState}
    (hf : ∀ s report, f { s with report } = { f s with report }) : K Unit (modify f) :=
  h.modifyGet fun s report => Prod.ext rfl (hf s report)

theorem composable (h : Unrestricted K) : Composable K where
  toSequential := h.toSequential
  modifyGet hsame _ _ := h.modifyGet hsame
  followAll _ := h.modify fun _ _ => rfl
  warn _ := h.warn _

theorem selective (h : Unrestricted K) (P : String → SelectionStrategy → Prop) : Selective P K where
  toComposable := h.composable
  pick _ _ := h.modifyGet fun _ _ => rfl

theorem follow (h : Unrestricted K) (e : TraceEvent) : K Unit (follow e) := h.modify fun _ _ => rfl

theorem relate (h : Unrestricted K) (change : RelationState → RelationState) : K Unit (relate change) :=
  h.modify fun _ _ => rfl

end Unrestricted

namespace Composable

variable {K : (α : Type) → Run α → Prop} {α : Type}

theorem modify (h : Composable K) {f : RunState → RunState}
    (hf : ∀ s report, f { s with report } = { f s with report }) (hsame : ∀ s : RunState, s.SameRecords (f s))
    (hpicks : ∀ s : RunState, s.SamePicks (f s)) : K Unit (modify f) :=
  h.modifyGet (fun s report => Prod.ext rfl (hf s report)) hsame hpicks

theorem follow (h : Composable K) {e : TraceEvent} (he : e.isOfRecords = false) : K Unit (follow e) := by
  rw [← followAll_singleton]
  exact h.followAll fun e' he' => List.mem_singleton.1 he' ▸ he

theorem draw (h : Composable K) (d : Random.Draw α) : K α (draw d) :=
  h.modifyGet (fun _ _ => rfl) (fun _ => .of_eq rfl rfl) fun _ => ⟨rfl, rfl⟩

theorem attempt (h : Composable K) (a : Attempt α) : K (Except GeneratorFailure α) (attempt a) := by
  refine h.bind (h.draw _) fun result => ?_
  split
  · exact h.throw _
  · exact h.pure _

/-- A change of what relationships remember apart from records. -/
theorem relate (h : Composable K) {change : RelationState → RelationState}
    (hsame : ∀ s : RelationState, s.SameRecords (change s)) : K Unit (relate change) :=
  h.modify (fun _ _ => rfl) (fun s => ⟨hsame s.relations, rfl⟩) fun _ => ⟨rfl, rfl⟩

theorem ofContexts (h : Composable K) (found : Except ContextError α) : K α (ofContexts found) := by
  cases found with
  | ok a => exact h.pure a
  | error e => exact h.throw _

theorem ofSchema (h : Composable K) (found : Except SchemaError α) : K α (ofSchema found) := by
  cases found with
  | ok a => exact h.pure a
  | error e => exact h.throw _

/-- What follows a part of the schema may rely on it. -/
theorem ofSchema_bind (h : Composable K) {β : Type} {found : Except SchemaError α} {f : α → Run β}
    (hf : ∀ a, found = .ok a → K β (f a)) : K β (Run.ofSchema found >>= f) := by
  cases found with
  | ok a => exact hf a rfl
  | error e => exact h.throw (.schema e)

theorem openScope (h : Composable K) : K Nat openScope :=
  h.modifyGet (fun _ _ => rfl) (fun _ => .of_eq rfl rfl) fun _ => ⟨rfl, rfl⟩

end Composable

theorem Selective.pickFrom {P : String → SelectionStrategy → Prop} {K : (α : Type) → Run α → Prop} {α : Type}
    (h : Selective P K) {path : String} {strategy : SelectionStrategy} (hpick : P path strategy)
    (candidates : List α) : K (Option α) (pickFrom path strategy candidates) :=
  h.bind (h.pick hpick _) fun _ => h.pure _

end Run
end Specimen
